import GoauthServer.Transport.Handlers

/-!
# The operations of the server

Everything a client, an administrator or the cleanup job can ask the server to do, as far as it
touches users, codes or tokens. An operation is a value, so that a run of the server is a list of
operations (`runAll`) or a pool of them, and a result about every run speaks about all of them.
-/

namespace GoauthServer

open Interact

/-- A request to the server. -/
inductive Operation where
  -- login and passwords
  | login (email password sourceIP : String)
  | changePasswordHandler (challengeToken newPassword : String)
  | changePassword (userID : UUID) (newPassword : String)
  -- the authorization code flow
  | handleProviderCallback (clientID : UUID)
      (providerName code callbackURL clientRedirectURI : String) (scope : Option String)
  | exchangeCodeForToken (code : String) (clientID : UUID) (clientSecret redirectURI : String)
  | rotateRefreshToken (rawToken clientID clientSecret : String)
  -- revocation by a client or a user
  | revoke (authorization : String) (form : Option (String × String))
  | revokeAnyToken (rawToken tokenTypeHint : String)
  | revokeToken (tokenHash : String)
  | revokeRawToken (rawToken : String)
  | revokeAllUserAccessTokens (userID : UUID)
  | revokeUserRefreshTokens (userID : UUID) (reason : String)
  | logout (headers : RequestHeaders)
  -- administration
  | revokeUserSessions (idParam : String) (actorID : Option UUID)
  | sessionRevokeAuthorizationCode (id : UUID)
  | sessionRevokeAccessToken (id : UUID)
  | sessionRevokeUserSessions (userID : UUID)
  | sessionRevokeClientSessions (clientID : UUID)
  | updateUserStatus (id : UUID) (isActive : Bool)
  | unlockUserAccount (userID : UUID)
  -- the cleanup job
  | cleanupExpiredCodes
  | cleanupExpiredTokens

/-- How an operation ends, as far as it hands out something. -/
inductive Outcome where
  | tokens (r : Except AuthError TokenResponse)
  | login (r : LoginReply)
  | code (r : Except AuthError String)
  | done
  deriving DecidableEq

/-- The call that serves an operation. -/
def Operation.call (env : Env) : Operation → Call Outcome
  | .login email password sourceIP => (GoauthServer.login env email password sourceIP).map .login
  | .changePasswordHandler challengeToken newPassword =>
    (GoauthServer.changePasswordHandler env challengeToken newPassword).map .login
  | .changePassword userID newPassword =>
    (GoauthServer.changePassword env userID newPassword).map fun _ => .done
  | .handleProviderCallback clientID providerName code callbackURL clientRedirectURI scope =>
    (GoauthServer.handleProviderCallback env clientID providerName code callbackURL
      clientRedirectURI scope).map .code
  | .exchangeCodeForToken code clientID clientSecret redirectURI =>
    (GoauthServer.exchangeCodeForToken env code clientID clientSecret redirectURI).map .tokens
  | .rotateRefreshToken rawToken clientID clientSecret =>
    (GoauthServer.rotateRefreshToken env rawToken clientID clientSecret).map .tokens
  | .revoke authorization form => (GoauthServer.revoke env authorization form).map fun _ => .done
  | .revokeAnyToken rawToken tokenTypeHint =>
    (GoauthServer.revokeAnyToken env rawToken tokenTypeHint).map fun _ => .done
  | .revokeToken tokenHash => (GoauthServer.revokeToken tokenHash).map fun _ => .done
  | .revokeRawToken rawToken => (GoauthServer.revokeRawToken env rawToken).map fun _ => .done
  | .revokeAllUserAccessTokens userID =>
    (GoauthServer.revokeAllUserAccessTokens userID).map fun _ => .done
  | .revokeUserRefreshTokens userID reason =>
    (GoauthServer.revokeUserRefreshTokens userID reason).map fun _ => .done
  | .logout headers => (GoauthServer.logoutRequest env headers).map fun _ => .done
  | .revokeUserSessions idParam actorID =>
    (GoauthServer.revokeUserSessions env idParam actorID).map fun _ => .done
  | .sessionRevokeAuthorizationCode id =>
    (GoauthServer.sessionRevokeAuthorizationCode id).map fun _ => .done
  | .sessionRevokeAccessToken id => (GoauthServer.sessionRevokeAccessToken id).map fun _ => .done
  | .sessionRevokeUserSessions userID =>
    (GoauthServer.sessionRevokeUserSessions userID).map fun _ => .done
  | .sessionRevokeClientSessions clientID =>
    (GoauthServer.sessionRevokeClientSessions clientID).map fun _ => .done
  | .updateUserStatus id isActive =>
    (GoauthServer.updateUserStatus id isActive).map fun _ => .done
  | .unlockUserAccount userID => (GoauthServer.unlockUserAccount userID).map fun _ => .done
  | .cleanupExpiredCodes => GoauthServer.cleanupExpiredCodes.map fun _ => .done
  | .cleanupExpiredTokens => GoauthServer.cleanupExpiredTokens.map fun _ => .done

/-- One operation, completed. Its requests are answered against the draws `ds`. -/
def Operation.run (env : Env) (op : Operation) (ds : ℕ → Draw) (w : World) : Outcome × World :=
  (op.call env).run backend ds w

/-- A sequential run: completed operations, one after the other. -/
def runAll (env : Env) : List (Operation × (ℕ → Draw)) → World → World
  | [], w => w
  | (op, ds) :: ops, w => runAll env ops (op.run env ds w).2

/-- Every operation of a sequential run meets `P`, in the world before it. -/
def AlongRun (env : Env) (P : Operation → (ℕ → Draw) → World → Prop) :
    List (Operation × (ℕ → Draw)) → World → Prop
  | [], _ => True
  | (op, ds) :: ops, w => P op ds w ∧ AlongRun env P ops (op.run env ds w).2

instance decidableAlongRun {env : Env} {P : Operation → (ℕ → Draw) → World → Prop}
    [∀ op ds w, Decidable (P op ds w)] : (ops : List (Operation × (ℕ → Draw))) → (w : World) →
      Decidable (AlongRun env P ops w)
  | [], _ => .isTrue trivial
  | (op, ds) :: ops, w =>
    have : Decidable (AlongRun env P ops (op.run env ds w).2) := decidableAlongRun ops _
    inferInstanceAs (Decidable (P op ds w ∧ AlongRun env P ops (op.run env ds w).2))

/-- **The invariant rule for sequential runs.** What one operation with `P` preserves, a run
preserves, and each operation of the run does what it does under the invariant. -/
theorem AlongRun.invariant {env : Env} {P Q : Operation → (ℕ → Draw) → World → Prop} {I : World → Prop}
    (hstep : ∀ op ds w, P op ds w → I w → I (op.run env ds w).2 ∧ Q op ds w)
    {ops : List (Operation × (ℕ → Draw))} {w : World} (h : AlongRun env P ops w) (hI : I w) :
    I (runAll env ops w) ∧ AlongRun env Q ops w := by
  induction ops generalizing w with
  | nil => exact ⟨hI, trivial⟩
  | cons op ops ih =>
    obtain ⟨hI', hQ⟩ := hstep op.1 op.2 w h.1 hI
    obtain ⟨hend, hrest⟩ := ih h.2 hI'
    exact ⟨hend, hQ, hrest⟩

/-- Operations that are about to start, to be interleaved. -/
def operations {ι : Type} (env : Env) (ops : ι → Operation) (w : World) :
    Pool backend ι Outcome :=
  Pool.start (fun i => (ops i).call env) w

end GoauthServer
