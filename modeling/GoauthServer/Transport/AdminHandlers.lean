import GoauthServer.Transport.Server

/-!
# The unlock of an account

`UnlockUser` (`admin_lockout.go`), the only handler that lifts a lock on purpose, and the operations of
the server together with it.
-/

namespace GoauthServer

open Interact

/-- `UnlockUser`: the status of the response. `actorID` is the admin, where the context names one. -/
def unlockUser (env : Env) (idParam : String) (actorID : Option UUID) : Call ℕ :=
  match env.lib.uuidParse idParam with
  | none => .ret 404
  | some id =>
    (unlockUserAccount id).bind fun
    | .error .userNotFound => .ret 404
    | .error _ => .ret 500
    | .ok _ =>
      env.logEvent
        { eventType := .accountUnlocked, userID := some id, actorID := actorID
          metadata := [("reason", "admin_unlock")] } <|
      .ret 204

/-- An operation of the server, or the unlock of an account. -/
inductive AuditedOperation where
  | server (op : ServerOperation)
  | unlockUser (idParam : String) (actorID : Option UUID)

/-- How it ends. -/
inductive AuditedReply where
  | server (r : ServerReply)
  | status (code : ℕ)

/-- The call that serves an operation. -/
def AuditedOperation.call (env : WebEnv) (admin : AdminEnv) : AuditedOperation → Call AuditedReply
  | .server op => (op.call env admin).map .server
  | .unlockUser idParam actorID => (GoauthServer.unlockUser env.auth idParam actorID).map .status

/-- Operations that are about to start, to be interleaved. -/
def auditedOperations {ι : Type} (env : WebEnv) (admin : AdminEnv) (ops : ι → AuditedOperation)
    (w : World) : Pool backend ι AuditedReply :=
  Pool.start (fun i => (ops i).call env admin) w

end GoauthServer
