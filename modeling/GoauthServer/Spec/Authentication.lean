import GoauthServer.Transport.Handlers

/-!
# What authentication decides

`AuthMiddleware` and the bearer branch of `authenticateRevokeRequest`, run alone: a token is let
through exactly when it parses at the time of the first request, and the second request is
answered and finds no row of its hash that is revoked.
-/

namespace GoauthServer

open Interact Relational

/-- The table has a revoked access token of this hash. -/
def Store.TokenRevoked (s : Store) (tokenHash : String) : Prop :=
  ∃ t ∈ s.accessTokens.rows, t.tokenHash = tokenHash ∧ t.isRevoked = some true

instance (s : Store) (tokenHash : String) : Decidable (s.TokenRevoked tokenHash) :=
  inferInstanceAs (Decidable (∃ t ∈ s.accessTokens.rows, _))

section Run

variable {env : Env} {token : String} {ds : ℕ → Draw} {w : World}

/-- `IsTokenRevoked` looks at the one row of the token's hash. -/
theorem isTokenRevoked_run (ds : ℕ → Draw) (w : World) (hf : (ds 0).fault = false) :
    ((isTokenRevoked env token).run backend ds w).1 =
      .ok (decide (w.db.TokenRevoked (env.lib.sha256Hex token))) := by
  unfold isTokenRevoked
  rw [run_sql _ _ hf]
  simp only [Query.exec, selectOne]
  cases hsel : w.db.accessTokens.select fun t => t.tokenHash == env.lib.sha256Hex token with
  | none =>
    have hno : ¬ w.db.TokenRevoked (env.lib.sha256Hex token) := by
      rintro ⟨t, ht, hhash, _⟩
      exact Table.select_eq_none.mp hsel t ht (by simp [hhash])
    simp [hno]
  | some t =>
    have ht : t ∈ w.db.accessTokens.rows := Table.mem_of_select hsel
    have hhash : t.tokenHash = env.lib.sha256Hex token := by
      simpa using Table.prop_of_select hsel
    have hiff : w.db.TokenRevoked (env.lib.sha256Hex token) ↔ t.isRevoked = some true := by
      constructor
      · rintro ⟨t', ht', hhash', hrev⟩
        rwa [Store.accessToken_eq ht ht' (Or.inr (hhash.trans hhash'.symm))]
      · exact fun hrev => ⟨t, ht, hhash, hrev⟩
    simp [hiff]

theorem isTokenRevoked_run_fault (ds : ℕ → Draw) (w : World) (hf : (ds 0).fault = true) :
    ((isTokenRevoked env token).run backend ds w).1 = .error (.ofDB "looking up access token" .fault) := by
  unfold isTokenRevoked
  rw [run_sql_fault _ _ hf]
  rfl

/-- Validation, then what the caller does with the claims. -/
theorem validateAccessToken_run {α : Type} (f : Except AuthError Claims → Call α) :
    ((validateAccessToken env token).bind f).run backend ds w =
      (f ((env.checkAccessToken token (w.wait (ds 0).wait).now).mapError .jwt)).run backend
        (fun n => ds (n + 1)) (w.wait (ds 0).wait) := by
  unfold validateAccessToken
  rw [Prog.bind_call, run_now]
  cases env.checkAccessToken token (w.wait (ds 0).wait).now <;> rfl

/-- **Whom `AuthMiddleware` lets through.** -/
theorem authenticateToken_ok {ctx : AuthContext} :
    ((authenticateToken env token).run backend ds w).1 = .ok ctx ↔
      ∃ claims, env.checkAccessToken token (w.wait (ds 0).wait).now = .ok claims ∧
        (ds 1).fault = false ∧ ¬ w.db.TokenRevoked (env.lib.sha256Hex token) ∧
        { rawToken := token, userID := claims.userID, email := claims.email } = ctx := by
  unfold authenticateToken
  rw [validateAccessToken_run]
  cases env.checkAccessToken token (w.wait (ds 0).wait).now with
  | error e => simp [Except.mapError]
  | ok claims =>
    simp only [Except.mapError, Prog.run_bind]
    cases hf : (ds 1).fault with
    | true => simp [isTokenRevoked_run_fault (fun n => ds (n + 1)) _ hf]
    | false =>
      simp only [isTokenRevoked_run (fun n => ds (n + 1)) _ hf]
      by_cases hrev : w.db.TokenRevoked (env.lib.sha256Hex token) <;> simp [World.wait, hrev]

/-- The bearer branch of `authenticateRevokeRequest` decides as `AuthMiddleware` does. -/
theorem authenticateRevokeBearer_run :
    ((authenticateRevokeBearer env token).run backend ds w).1 = true ↔
      ∃ ctx, ((authenticateToken env token).run backend ds w).1 = .ok ctx := by
  unfold authenticateRevokeBearer authenticateToken
  rw [validateAccessToken_run, validateAccessToken_run]
  cases env.checkAccessToken token (w.wait (ds 0).wait).now with
  | error e => simp [Except.mapError]
  | ok claims =>
    simp only [Except.mapError, Prog.run_bind]
    rcases ((isTokenRevoked env token).run backend _ _).1 with e | (_ | _) <;> simp

/-- **Whom the bearer branch of `authenticateRevokeRequest` lets through.** -/
theorem authenticateRevokeBearer_true : ((authenticateRevokeBearer env token).run backend ds w).1 = true ↔
      ∃ claims, env.checkAccessToken token (w.wait (ds 0).wait).now = .ok claims ∧
        (ds 1).fault = false ∧ ¬ w.db.TokenRevoked (env.lib.sha256Hex token) := by
  simp [authenticateRevokeBearer_run, authenticateToken_ok]

end Run

end GoauthServer
