import GoauthServer.Repository.Evolution
import GoauthServer.Service.Deployment
import GoauthServer.Spec.Authentication
import GoauthServer.Spec.Requests
import GoauthServer.Transport.Middleware

/-!
# Mediation of the admin API

Between a request and the handlers of administrators stand four middlewares, which only read. A request that
passes all of them has what each of them asks for (`Admitted`), in the store in which the handler then starts;
whatever the handlers are. A request that does not pass leaves the store as it was.

`CSRFMiddleware` compares byte strings with a loop of its own. It is equality (`secureCompare_iff`).
-/

namespace GoauthServer

open Interact Base64 Relational

/-! ### The comparison of tokens -/

/-- The differences add up to nothing exactly if there are none. -/
theorem foldl_diff_eq_zero_iff (ps : List (UInt8 × UInt8)) (diff : UInt8) :
    ps.foldl (fun diff p => diff ||| (p.1 ^^^ p.2)) diff = 0 ↔ diff = 0 ∧ ∀ p ∈ ps, p.1 = p.2 := by
  induction ps generalizing diff with
  | nil => simp
  | cons p ps ih =>
    rw [List.foldl_cons, ih, UInt8.or_eq_zero_iff, UInt8.xor_eq_zero_iff, List.forall_mem_cons, and_assoc]

theorem secureCompare_iff {a b : Bytes} : secureCompare a b = true ↔ a = b := by
  unfold secureCompare
  split
  · next hlen =>
    refine iff_of_false Bool.false_ne_true ?_
    rintro rfl
    exact hlen rfl
  · next hlen =>
    rw [beq_iff_eq, foldl_diff_eq_zero_iff, ← List.forall₂_eq_eq_eq, List.forall₂_iff_zip]
    constructor
    · rintro ⟨_, h⟩
      exact ⟨not_not.mp hlen, fun hmem => h _ hmem⟩
    · rintro ⟨_, h⟩
      exact ⟨rfl, fun p hp => h hp⟩

/-! ### What a request passes -/

/-- The request has what the middlewares ask for, in the store of `w`: a token that is valid and not revoked, of
a user who is an administrator, and if it is to change something, the token of its cookie in its header. Where
the request has no such cookie, the token in the header would have to be the one drawn for it, with one of the
first `m` draws. -/
structure Admitted (env : Env) (r : HttpRequest) (ds : ℕ → Draw) (m : ℕ) (w : World) (ctx : AuthContext) :
    Prop where
  token : requestToken r.headers = .ok ctx.rawToken
  valid : ∃ claims, ((validateAccessToken env ctx.rawToken).run backend ds w).1 = .ok claims ∧
    claims.userID = ctx.userID
  live : ¬ w.db.TokenRevoked (env.lib.sha256Hex ctx.rawToken)
  admin : ∃ u ∈ w.db.users.rows, env.lib.uuidParse ctx.userID = some u.id ∧ u.isAdmin = some true
  csrf : stateChanging r.method = true → r.csrfHeader ≠ [] ∧
    (r.csrfHeader = r.csrfToken ∨
      r.csrfToken = [] ∧ ∃ n < m, (ds n).fault = false ∧
        r.csrfHeader = hexEncode ((List.range 32).map (ds n).bytes))

section Middleware

variable {env : Env} {r : HttpRequest} {ds : ℕ → Draw} {w : World} {ctx ctx' : Option AuthContext}
  {ms : List Middleware}

/-- A request passes a list of middlewares by passing the first one, and then the others. -/
theorem chain_ok {m : Middleware} {ctx ctx'' : Option AuthContext}
    (h : ((chain (m :: ms) r ctx).run backend ds w).1 = .ok ctx'') :
    ∃ ctx', ((m r ctx).run backend ds w).1 = .ok ctx' ∧
      ((chain ms r ctx').run backend (fun n => ds (n + (m r ctx).steps backend ds w))
        ((m r ctx).run backend ds w).2).1 = .ok ctx'' ∧
      (chain (m :: ms) r ctx).steps backend ds w = (m r ctx).steps backend ds w +
        (chain ms r ctx').steps backend (fun n => ds (n + (m r ctx).steps backend ds w))
          ((m r ctx).run backend ds w).2 := by
  rw [chain, Prog.run_bind] at h
  rw [chain, Prog.steps_bind]
  cases hm : ((m r ctx).run backend ds w).1 with
  | error e =>
    rw [hm] at h
    cases h
  | ok ctx' =>
    rw [hm] at h
    exact ⟨ctx', rfl, h, rfl⟩

theorem useAuth_ok (h : ((useAuth env r ctx).run backend ds w).1 = .ok ctx') :
    ∃ c, ctx' = some c ∧ requestToken r.headers = .ok c.rawToken ∧
      (∃ claims, ((validateAccessToken env c.rawToken).run backend ds w).1 = .ok claims ∧
        claims.userID = c.userID) ∧
      ¬ w.db.TokenRevoked (env.lib.sha256Hex c.rawToken) := by
  unfold useAuth authMiddleware at h
  cases htoken : requestToken r.headers with
  | error e =>
    rw [htoken] at h
    cases h
  | ok token =>
    rw [htoken] at h
    rw [Prog.map, Prog.run_bind_ret (fun _ => rfl)] at h
    cases hc : ((authenticateToken env token).run backend ds w).1 with
    | error e =>
      rw [hc] at h
      cases h
    | ok c =>
      rw [hc] at h
      obtain rfl := Except.ok.inj h
      obtain ⟨claims, hcheck, _, hlive, rfl⟩ := authenticateToken_ok.mp hc
      refine ⟨_, rfl, rfl, ⟨claims, ?_, rfl⟩, hlive⟩
      unfold validateAccessToken
      rw [run_now, hcheck]
      rfl

theorem adminMiddleware_ok (h : ((adminMiddleware env r ctx).run backend ds w).1 = .ok ctx') :
    ctx' = ctx ∧ ∀ c, ctx = some c →
      ∃ u ∈ w.db.users.rows, env.lib.uuidParse c.userID = some u.id ∧ u.isAdmin = some true := by
  unfold adminMiddleware at h
  cases ctx with
  | none => cases h
  | some c =>
  dsimp only at h
  cases hparse : env.lib.uuidParse c.userID with
  | none =>
    rw [hparse] at h
    cases h
  | some userID =>
  rw [hparse] at h
  dsimp only at h
  rw [Prog.run_bind] at h
  -- the user that was found says the rest
  cases hr : (respond (.sql (.getUserByID userID)) (ds 0) w).1 with
  | error e =>
    have hadmin : ∃ e', ((isAdmin userID).run backend ds w).1 = .error e' := by
      unfold isAdmin
      rw [Prog.run_call]
      simp only [backend, hr]
      cases e <;> exact ⟨_, rfl⟩
    obtain ⟨e', hadmin⟩ := hadmin
    rw [hadmin] at h
    cases h
  | ok u =>
    have hadmin : ((isAdmin userID).run backend ds w).1 = .ok (u.isAdmin.getD false) := by
      unfold isAdmin
      rw [Prog.run_call]
      simp only [backend, hr]
      rfl
    rw [hadmin] at h
    obtain ⟨hu, hid⟩ := selectOne_ok (respond_sql_ok hr).2.1
    have htrue : u.isAdmin = some true := by
      cases hu' : u.isAdmin with
      | none =>
        rw [hu'] at h
        cases h
      | some b =>
        rw [hu'] at h
        cases b
        · cases h
        · rfl
    rw [htrue] at h
    refine ⟨(Except.ok.inj h).symm, ?_⟩
    rintro c' hc
    obtain rfl := Option.some.inj hc
    exact ⟨u, hu, by rw [hparse, beq_iff_eq.mp hid], htrue⟩

theorem rateLimitByUser_ok {allow : String → Bool}
    (h : ((rateLimitByUser allow r ctx).run backend ds w).1 = .ok ctx') : ctx' = ctx := by
  unfold rateLimitByUser at h
  split at h
  · exact (Except.ok.inj h).symm
  · cases h

/-- The validation accepts the token that it is given, and no other. -/
theorem validateCSRF_ok {cookieToken : Bytes} (h : validateCSRF r ctx cookieToken = .ok ctx') :
    ctx' = ctx ∧ (stateChanging r.method = true → r.csrfHeader ≠ [] ∧ r.csrfHeader = cookieToken) := by
  unfold validateCSRF at h
  split at h
  · cases h
  · next hvalid =>
    refine ⟨(Except.ok.inj h).symm, fun hmethod => ?_⟩
    rw [hmethod, Bool.true_and, Bool.or_eq_true, not_or, Bool.not_eq_true', Bool.not_eq_false, secureCompare_iff,
      decide_eq_true_eq] at hvalid
    exact hvalid

theorem csrfMiddleware_ok (h : ((csrfMiddleware r ctx).run backend ds w).1 = .ok ctx') :
    ctx' = ctx ∧ (stateChanging r.method = true → r.csrfHeader ≠ [] ∧ (r.csrfHeader = r.csrfToken ∨
        r.csrfToken = [] ∧ 0 < (csrfMiddleware r ctx).steps backend ds w ∧ (ds 0).fault = false ∧
          r.csrfHeader = hexEncode ((List.range 32).map (ds 0).bytes))) := by
  unfold csrfMiddleware at h ⊢
  split at h
  · next hempty =>
    rw [if_pos hempty]
    rw [Prog.run_call] at h
    cases hf : (ds 0).fault with
    | true =>
      have hr : (respond (.randBytes 32) (ds 0) w).1 = none := if_pos hf
      simp only [backend, hr] at h
      cases h
    | false =>
      have hr : (respond (.randBytes 32) (ds 0) w).1 = some ((List.range 32).map (ds 0).bytes) :=
        if_neg (ne_true_of_eq_false hf)
      simp only [backend, hr] at h
      obtain ⟨hctx, hcsrf⟩ := validateCSRF_ok h
      refine ⟨hctx, fun hmethod => ?_⟩
      obtain ⟨hne, heq⟩ := hcsrf hmethod
      exact ⟨hne, Or.inr ⟨hempty, Nat.succ_pos _, rfl, heq⟩⟩
  · obtain ⟨hctx, hcsrf⟩ := validateCSRF_ok h
    refine ⟨hctx, fun hmethod => ?_⟩
    obtain ⟨hne, heq⟩ := hcsrf hmethod
    exact ⟨hne, Or.inl heq⟩

/-! ### The middlewares only read -/

theorem useAuth_reads (env : Env) (r : HttpRequest) (ctx : Option AuthContext) :
    (useAuth env r ctx).Only Request.Reads :=
  (authMiddleware_only trivial (fun _ => rfl) env r.headers).map _

theorem chain_reads (h : ∀ m ∈ ms, ∀ r ctx, (m r ctx).Only Request.Reads)
    (r : HttpRequest) (ctx : Option AuthContext) : (chain ms r ctx).Only Request.Reads := by
  induction ms generalizing ctx with
  | nil => trivial
  | cons m ms ih =>
    refine Prog.Only.bind (h m List.mem_cons_self r ctx) ?_
    rintro (e | ctx')
    · trivial
    · exact ih (fun m' hm' => h m' (List.mem_cons_of_mem m hm')) ctx'

theorem middleware_reads (env : Env) (limits : AdminGroup → String → Bool) (g : AdminGroup) (r : HttpRequest)
    (ctx : Option AuthContext) : (chain (g.middleware env limits) r ctx).Only Request.Reads := by
  refine chain_reads (fun m hm r ctx => ?_) r ctx
  simp only [AdminGroup.middleware, List.mem_cons, List.not_mem_nil, or_false] at hm
  rcases hm with rfl | rfl | rfl | rfl
  · exact useAuth_reads env r ctx
  · exact adminMiddleware_only (fun _ => rfl) env r ctx
  · exact rateLimitByUser_only _ r ctx
  · exact csrfMiddleware_only (fun _ => trivial) r ctx

/-- **Whom the middlewares let through.** -/
theorem middleware_admits {limits : AdminGroup → String → Bool} {g : AdminGroup} {ctx : Option AuthContext}
    (h : ((chain (g.middleware env limits) r none).run backend ds w).1 = .ok ctx) :
    ∃ c, ctx = some c ∧
      Admitted env r ds ((chain (g.middleware env limits) r none).steps backend ds w) w c := by
  unfold AdminGroup.middleware at h ⊢
  obtain ⟨ctx₁, hauth, h₁, hsteps₁⟩ := chain_ok h
  obtain ⟨ctx₂, hadmin, h₂, hsteps₂⟩ := chain_ok h₁
  obtain ⟨ctx₃, hrate, h₃, hsteps₃⟩ := chain_ok h₂
  obtain ⟨ctx₄, hcsrf, h₄, hsteps₄⟩ := chain_ok h₃
  obtain rfl := Except.ok.inj h₄
  -- each of them finds the store as it was
  have hdb := Only.run_db (useAuth_reads env r none) ds w
  obtain ⟨c, rfl, htoken, hvalid, hlive⟩ := useAuth_ok hauth
  obtain ⟨rfl, husers⟩ := adminMiddleware_ok hadmin
  obtain rfl := rateLimitByUser_ok hrate
  obtain ⟨rfl, htokens⟩ := csrfMiddleware_ok hcsrf
  obtain ⟨u, hu, hparse, hadmin⟩ := husers c rfl
  rw [hdb] at hu
  refine ⟨c, rfl, htoken, hvalid, hlive, ⟨u, hu, hparse, hadmin⟩, fun hmethod => ?_⟩
  obtain ⟨hne, heq | ⟨hempty, hpos, hfault, heq⟩⟩ := htokens hmethod
  · exact ⟨hne, Or.inl heq⟩
  · refine ⟨hne, Or.inr ⟨hempty, _, ?_, hfault, heq⟩⟩
    rw [hsteps₁, hsteps₂, hsteps₃, hsteps₄]
    omega

end Middleware

/-- **Complete mediation.** Whatever the request, the store, the handlers and the limiters: either the handler of
a route runs, for a request that is admitted, in the store as it was; or no handler runs, and the store stays as
it was. -/
theorem admin_api_mediated {α : Type} (env : Env) (limits : AdminGroup → String → Bool)
    (handlers : AdminEndpoint → HttpRequest → Option AuthContext → Call α) (r : HttpRequest) (ds : ℕ → Draw)
    (w : World) :
    (∃ endpoint m ctx w', adminEndpoint r.method r.path = some endpoint ∧ Admitted env r ds m w ctx ∧
      w'.db = w.db ∧ (serveAdmin env limits handlers r).run backend ds w =
        (.handled ((handlers endpoint r (some ctx)).run backend (fun n => ds (n + m)) w').1,
          ((handlers endpoint r (some ctx)).run backend (fun n => ds (n + m)) w').2)) ∨
    ((∀ a, ((serveAdmin env limits handlers r).run backend ds w).1 ≠ .handled a) ∧
      ((serveAdmin env limits handlers r).run backend ds w).2.db = w.db) := by
  unfold serveAdmin
  cases adminEndpoint r.method r.path with
  | none => exact Or.inr ⟨fun a h => (by cases h), rfl⟩
  | some endpoint =>
    have hdb := Only.run_db (middleware_reads env limits endpoint.group r none) ds w
    dsimp only
    rw [Prog.run_bind]
    cases hpre : ((chain (endpoint.group.middleware env limits) r none).run backend ds w).1 with
    | error e => exact Or.inr ⟨fun a h => (by cases h), hdb⟩
    | ok ctx =>
      left
      obtain ⟨c, rfl, hadmitted⟩ := middleware_admits hpre
      refine ⟨endpoint, _, c, _, rfl, hadmitted, hdb, ?_⟩
      exact Prog.run_bind_ret (fun _ => rfl) _ _

section Examples

open Deployment

/-- The deployment with `ann` as an administrator. -/
def adminStore : Store :=
  { store with users := ⟨[{ ann with isAdmin := some true }], List.pairwise_singleton _ _⟩ }

/-- A request to delete a client, with the two values for the token against forgery. -/
def deleteRequest (csrfHeader : Bytes) (csrfCookie : Option Bytes) : HttpRequest where
  method := "DELETE"
  path := ["clients", "1"]
  clientIP := "192.0.2.1"
  headers := ⟨"", some (annToken signatureA)⟩
  csrfHeader := csrfHeader
  csrfCookie := csrfCookie

/-- What follows the authentication of `ann`. -/
def afterAuth (r : HttpRequest) (db : Store) : Except ErrorReply (Option AuthContext) :=
  ((chain [adminMiddleware env, rateLimitByUser fun _ => true, csrfMiddleware] r
    (some ⟨annToken signatureA, env.lib.uuidString 2, "ann@example.com"⟩)).run backend (fun _ => draw 7 20) ⟨2, db⟩).1

/-- The cookie is decoded before it is compared: `a%2B` is `a+`. A request without the header is rejected, and so
is one of a user who is not an administrator. -/
example :
    (afterAuth (deleteRequest [97, 43] (some [97, 37, 50, 66])) adminStore).isOk = true ∧
      afterAuth (deleteRequest [] (some [97])) adminStore =
        .error ⟨403, "forbidden", some (.text "invalid or missing CSRF token")⟩ ∧
      afterAuth (deleteRequest [97] (some [97])) store = .error ⟨403, "Forbidden", none⟩ := by
  decide +kernel

end Examples

end GoauthServer
