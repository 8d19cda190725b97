import GoauthServer.Spec.Success

/-!
# Client authentication

The exchange of a code and the rotation of a refresh token begin with the same block: look up the client,
refuse one that is inactive, compare the digest of the secret. `Env.authenticates` is what the block decides,
as a function of the table of clients, and `ensures_clientAuth` is the rule for a call that begins with it.
-/

namespace GoauthServer

open Interact Relational

/-- The credentials of a client are accepted: it exists, is active and has this secret. -/
def Env.authenticates (env : Env) (clients : Table Client) (clientID : UUID) (clientSecret : String) : Bool :=
  (clients.select fun c => c.id == clientID).any fun c =>
    c.isActive == some true && c.clientSecretHash == env.lib.sha256Hex clientSecret

/-- The errors of the block. -/
def AuthError.clientRefused : AuthError → Bool
  | .clientNotFound | .clientInactive | .invalidClientSecret => true
  | _ => false

theorem authenticates_of_select (env : Env) {clients : Table Client} {clientID : UUID} {c : Client}
    (h : clients.select (fun c => c.id == clientID) = some c) (clientSecret : String) :
    env.authenticates clients clientID clientSecret =
      (c.isActive == some true && c.clientSecretHash == env.lib.sha256Hex clientSecret) := by
  rw [Env.authenticates, h, Option.any_some]

/-- **The block.** A call that begins with it fails with one of its three errors where the credentials are not
accepted, and goes on where they are. -/
theorem ensures_clientAuth {α : Type} {Q : Except AuthError α → World → Prop} {w : World} {env : Env}
    {clientID : UUID} {clientSecret : String} {k : Except DBError Client → Call (Except AuthError α)}
    {rest : Client → Call (Except AuthError α)} (hnone : k (.error .noRows) = .ret (.error .clientNotFound))
    (hsome : ∀ c : Client, k (.ok c) = if c.isActive ≠ some true then .ret (.error .clientInactive)
      else if c.clientSecretHash ≠ env.lib.sha256Hex clientSecret then .ret (.error .invalidClientSecret)
      else rest c)
    (hfail : env.authenticates w.db.clients clientID clientSecret = false →
      ∀ e : AuthError, e.clientRefused = true → ∀ n : ℕ, Q (.error e) (w.wait n))
    (hrest : env.authenticates w.db.clients clientID clientSecret = true →
      ∀ (c : Client) (n : ℕ), (rest c).Ensures backend Answered Q (w.wait n)) :
    (Call.sql (.getClient clientID) k).Ensures backend Answered Q w := by
  refine ensures_read (fun _ _ _ h => h) rfl (fun d c hok => ?_) fun d hno => ?_
  · have hauth := authenticates_of_select env (select_of_selectOne_ok hok) clientSecret
    rw [hsome c]
    split
    · next hactive => exact .ret (hfail (by simp [hauth, hactive]) .clientInactive rfl _)
    · next hactive =>
      split
      · next hsecret => exact .ret (hfail (by simp [hauth, hsecret]) .invalidClientSecret rfl _)
      · next hsecret =>
        exact hrest (by simp [hauth, not_not.mp hactive, not_not.mp hsecret]) c d.wait
  · have hsel : w.db.clients.select (fun c => c.id == clientID) = none :=
      Table.select_eq_none.mpr (selectOne_error hno)
    rw [hnone]
    exact .ret (hfail (by simp [Env.authenticates, hsel]) .clientNotFound rfl _)

end GoauthServer
