import GoauthServer.Service.Deployment
import GoauthServer.Spec.Authentication
import GoauthServer.Spec.Operations

/-!
# A revoked access token stays revoked

`IsTokenRevoked` answers "not revoked" where there is no row, and `CleanupExpiredTokens` deletes
rows. What makes the pair safe is an order of times: the `exp` of a token is computed from one
reading of the clock and truncated to the second, the `expires_at` of its row is computed from a
later reading and not truncated. So a row outlives the token (`Store.Outlives`), and when the
cleanup deletes the row of a revoked token, the token has expired.

A token is *dead* if it has a revoked row or will not be accepted any more. Nothing that any
operation does, in any interleaving, makes a dead token live (`dead_step`).
-/

namespace GoauthServer

open Interact Relational GoTime

/-- `t` is not accepted after `e`. -/
def AcceptedUntil (env : Env) (t : String) (e : Time) : Prop :=
  ∀ now claims, env.checkAccessToken t now = .ok claims → now ≤ e

/-- The row of `t`, if there is one, expires after `t`. -/
def Store.Outlives (env : Env) (t : String) (s : Store) : Prop :=
  ∀ a ∈ s.accessTokens.rows, a.tokenHash = env.lib.sha256Hex t → AcceptedUntil env t a.expiresAt

/-- What is assumed of SHA-256 and of JSON at the token `t`: no other issued token has its digest,
and the claims in it read back as they were written. -/
structure Faithful (env : Env) (t : String) : Prop where
  digest : ∀ c sig, env.lib.sha256Hex (env.accessToken c sig) = env.lib.sha256Hex t →
    env.accessToken c sig = t
  readsBack : ∀ c sig, env.accessToken c sig = t →
    env.lib.claims.unmarshal (env.lib.claims.marshal c) = some c
  registered : ∀ c, env.lib.claims.registered c = c.registered

/-- `t` has a revoked row, or it is not accepted from now on. -/
def Dead (env : Env) (t : String) (w : World) : Prop :=
  w.db.TokenRevoked (env.lib.sha256Hex t) ∨
    ∀ now claims, w.now ≤ now → env.checkAccessToken t now ≠ .ok claims

/-! ### The clock -/

/-- The readings of a call are in order, and none is in the future. -/
structure Clocked (log : Log effects) (w : World) : Prop where
  newest : ∀ now, (clockReadings log).head? = some now → ∀ t ∈ clockReadings log, t ≤ now
  past : ∀ t ∈ clockReadings log, t ≤ w.now

section Clock

variable {log : Log effects} {q : Request} {d : Draw} {w : World}

theorem Clocked.nil (w : World) : Clocked [] w :=
  ⟨fun _ h => (by cases h), fun _ h => (by cases h)⟩

theorem Clocked.other (h : Clocked log w) : Clocked log (respond q d w).2 :=
  ⟨h.newest, fun t ht => (h.past t ht).trans (le_now_respond q d w)⟩

theorem Clocked.self (h : Clocked log w) : Clocked (⟨q, (respond q d w).1⟩ :: log) (respond q d w).2 := by
  by_cases hq : q = .now
  · subst hq
    have hle : w.now ≤ (w.wait d.wait).now := le_now_respond .now d w
    have hpast : ∀ t ∈ clockReadings (⟨.now, (respond .now d w).1⟩ :: log), t ≤ (w.wait d.wait).now := by
      intro t ht
      rcases List.mem_cons.mp ht with rfl | ht
      · exact le_refl _
      · exact (h.past t ht).trans hle
    refine ⟨fun now hnow => ?_, hpast⟩
    obtain rfl := Option.some.inj hnow
    exact hpast
  · have hsame : clockReadings (⟨q, (respond q d w).1⟩ :: log) = clockReadings log := by
      cases q with
      | now => exact absurd rfl hq
      | _ => rfl
    refine ⟨?_, fun t ht => ?_⟩
    · rw [hsame]
      exact h.newest
    · rw [hsame] at ht
      exact (h.other (q := q) (d := d)).past t ht

end Clock

/-! ### Rows outlive their tokens -/

/-- Every access token that an operation stores is one that it has signed. -/
theorem Operation.stores_of_create {env : Env} {op : Operation} {log : Log effects}
    {p : CreateAccessTokenParams} (h : op.request env (.sql (.createAccessToken p)) log) :
    ∃ userID email token, Stores env log userID email token p := by
  cases op with
  | login =>
    obtain ⟨u, token, _, _, hst⟩ := h
    exact ⟨_, _, token, hst⟩
  | changePasswordHandler =>
    obtain ⟨u, token, _, _, hst⟩ := h
    exact ⟨_, _, token, hst⟩
  | exchangeCodeForToken =>
    obtain ⟨c, u, token, now, _, _, _, _, _, hmint, hnow, rfl⟩ := h
    exact ⟨_, _, token, hmint, rfl, now, hnow, rfl⟩
  | rotateRefreshToken =>
    obtain ⟨t, u, token, now, _, _, _, _, _, hmint, hnow, rfl⟩ := h
    exact ⟨_, _, token, hmint, rfl, now, hnow, rfl⟩
  | updateUserStatus => rcases h with h | h <;> cases h
  | _ => cases h

section Outlives

variable {env : Env} {t : String}

/-- A token issued at `now` is accepted only until its lifetime has passed. The truncation of `exp`
to the second makes it expire earlier, never later. -/
theorem acceptedUntil_of_issue (hf : Faithful env t) {userID email : String} {now : Time}
    {sig : Base64.Bytes} (ht : env.accessToken (env.accessClaims userID email now) sig = t) :
    AcceptedUntil env t (add now env.expiry) := by
  intro now' claims hok
  have hround := hf.readsBack _ sig ht
  unfold Env.checkAccessToken at hok
  rw [← ht, Env.accessToken] at hok
  obtain ⟨_, hval⟩ := Jwt.parse_signedString hround hok
  rw [hf.registered] at hval
  have hexp : now' < Jwt.newNumericDate (add now env.expiry) * 1000000000 := by
    have hboth := Bool.and_eq_true_iff.mp hval
    simpa [Env.accessClaims] using hboth.1
  have htrunc : Jwt.newNumericDate (add now env.expiry) * 1000000000 ≤ add now env.expiry :=
    Int.ediv_mul_le _ (by decide)
  exact (hexp.trans_le htrunc).le

/-- The row that is stored for a token outlives it. -/
theorem acceptedUntil_of_stores (hf : Faithful env t) {log : Log effects} {w : World}
    (hclock : Clocked log w) {userID email token : String} {p : CreateAccessTokenParams}
    (hst : Stores env log userID email token p) (hhash : p.tokenHash = env.lib.sha256Hex t) :
    AcceptedUntil env t p.expiresAt := by
  obtain ⟨⟨now, hnow, sig, rfl⟩, htok, now', hnow', hexp⟩ := hst
  have ht := hf.digest _ _ (htok.symm.trans hhash)
  intro at' claims hok
  have huntil := acceptedUntil_of_issue hf ht at' claims hok
  have hle : now ≤ now' := hclock.newest now' hnow' now hnow
  rw [hexp]
  unfold add at huntil ⊢
  exact huntil.trans (Int.add_le_add_right hle _)

end Outlives

/-! ### Dead tokens stay dead -/

/-- The clocks of all calls are in order, and the row of `t` outlives it. -/
structure ClockInv {ι : Type} (env : Env) (t : String) (c : Pool backend ι Outcome) : Prop where
  clock : ∀ i, Clocked (c.threads i).log c.world
  outlives : c.world.db.Outlives env t

section Step

variable {ι : Type} {env : Env} {t : String} {c : Pool backend ι Outcome} {i : ι} {d : Draw}
  {q : Request} {k : q.Reply → Call Outcome}

/-- The row of a token stays, or the token has expired when the row is deleted. -/
theorem row_respond {w : World} (hout : w.db.Outlives env t) {a : AccessToken}
    (ha : a ∈ w.db.accessTokens.rows) (hhash : a.tokenHash = env.lib.sha256Hex t) (q : Request) (d : Draw) :
    (∃ a' ∈ (respond q d w).2.db.accessTokens.rows, a.Later a') ∨
      ∀ now claims, (respond q d w).2.now ≤ now → env.checkAccessToken t now ≠ .ok claims := by
  by_cases hclean : q = .sql .deleteExpiredAccessTokens
  swap
  · exact Or.inl (respond_accessTokens hclean a ha)
  subst hclean
  cases hf : d.fault with
  | true =>
    rw [respond_sql_fault _ hf]
    exact Or.inl ⟨a, ha, .refl a⟩
  | false =>
    rw [respond_sql _ hf]
    by_cases hexp : a.expiresAt < (w.wait d.wait).now
    · refine Or.inr fun now claims hle hok => ?_
      exact absurd (hout a ha hhash now claims hok) (not_le.mpr (hexp.trans_le hle))
    · exact Or.inl ⟨a, mem_deleteExpiredAccessTokens.mpr ⟨ha, not_lt.mp hexp⟩, .refl a⟩

theorem dead_respond {w : World} (hout : w.db.Outlives env t) (h : Dead env t w) (q : Request)
    (d : Draw) : Dead env t (respond q d w).2 := by
  rcases h with ⟨a, ha, hhash, hrev⟩ | hnever
  · rcases row_respond hout ha hhash q d with ⟨a', ha', hlater⟩ | hnever
    · exact Or.inl ⟨a', ha', hlater.tokenHash.trans hhash, hlater.isRevoked hrev⟩
    · exact Or.inr hnever
  · exact Or.inr fun now claims hle => hnever now claims ((le_now_respond q d w).trans hle)

variable [DecidableEq ι] {ops : ι → Operation}

theorem ClockInv.step (hf : Faithful env t) (h : ClockInv env t c)
    (hi : (c.threads i).prog = .call q k) (hq : (ops i).request env q (c.threads i).log) :
    ClockInv env t (c.step i d) where
  clock := Pool.forall_log_step (J := fun _ => Clocked) hi (fun hc => hc.self)
    (fun _ _ hc => hc.other) h.clock
  outlives := by
    rw [step_world hi]
    intro a' ha' hhash
    rcases respond_accessToken_origin ha' with ⟨a, ha, hlater⟩ | ⟨p, rfl, rfl⟩
    · rw [hlater.expiresAt]
      exact h.outlives a ha (hlater.tokenHash.symm.trans hhash)
    · obtain ⟨userID, email, token, hst⟩ := Operation.stores_of_create hq
      exact acceptedUntil_of_stores hf (h.clock i) hst hhash

/-- **One step of any operation.** -/
theorem dead_step (hf : Faithful env t) (h : ClockInv env t c ∧ Dead env t c.world)
    (hi : (c.threads i).prog = .call q k) (hq : (ops i).request env q (c.threads i).log) :
    ClockInv env t (c.step i d) ∧ Dead env t (c.step i d).world := by
  refine ⟨h.1.step hf hi hq, ?_⟩
  rw [step_world hi]
  exact dead_respond h.1.outlives h.2 q d

/-- **A revoked access token is never accepted again.** After any interleaving of operations, in
which the row of `t` was revoked at some moment, a request with `t` is rejected, whatever happened
to the row since. -/
theorem revoked_never_accepted {w : World} (hf : Faithful env t) (hw : w.db.Outlives env t)
    (before after : List (ι × Draw))
    (hrev : ((operations env ops w).run before).world.db.TokenRevoked (env.lib.sha256Hex t))
    {headers : RequestHeaders} (hheaders : requestToken headers = .ok t) (ds : ℕ → Draw) :
    (∀ ctx, ((authMiddleware env headers).run backend ds
        ((operations env ops w).run (before ++ after)).world).1 ≠ .ok ctx) ∧
      ((authenticateRevokeBearer env t).run backend ds
        ((operations env ops w).run (before ++ after)).world).1 = false := by
  have hobeys := operations_obeys env ops w
  have hstart : ClockInv env t (operations env ops w) := ⟨fun _ => Clocked.nil w, hw⟩
  have hmid : ClockInv env t ((operations env ops w).run before) :=
    Pool.invariant_of_step (fun _ _ _ _ _ hi hq hI => hI.step hf hi hq) hobeys hstart before
  have hend : ClockInv env t ((operations env ops w).run (before ++ after)) ∧
      Dead env t ((operations env ops w).run (before ++ after)).world := by
    rw [Pool.run_append]
    exact Pool.invariant_of_step
      (I := fun c : Pool backend ι Outcome => ClockInv env t c ∧ Dead env t c.world)
      (fun _ _ _ _ _ hi hq hI => dead_step hf hI hi hq) (hobeys.run before) ⟨hmid, Or.inl hrev⟩
      after
  generalize ((operations env ops w).run (before ++ after)).world = w' at hend
  -- a dead token fails one of the two checks
  have hcheck : ∀ claims, env.checkAccessToken t (w'.wait (ds 0).wait).now = .ok claims →
      w'.db.TokenRevoked (env.lib.sha256Hex t) := by
    intro claims hok
    rcases hend.2 with hrev' | hnever
    · exact hrev'
    · exact absurd hok (hnever _ claims (le_now_respond .now (ds 0) w'))
  constructor
  · intro ctx hok
    unfold authMiddleware at hok
    rw [hheaders] at hok
    obtain ⟨claims, hclaims, _, hnot, _⟩ := authenticateToken_ok.mp hok
    exact hnot (hcheck claims hclaims)
  · cases hb : ((authenticateRevokeBearer env t).run backend ds w').1 with
    | false => rfl
    | true =>
      obtain ⟨claims, hclaims, _, hnot⟩ := authenticateRevokeBearer_true.mp hb
      exact absurd (hcheck claims hclaims) hnot

end Step

open Deployment (draw annToken signatureA annClaims)

theorem faithful_annToken : Faithful Deployment.env (annToken signatureA) where
  digest c sig h := Deployment.eq_annToken h
  readsBack c sig h := by
    by_cases hc : c = annClaims
    · subst hc
      simp [Deployment.env, Deployment.lib]
    · -- other claims are written as nothing, which is not what the token carries
      have hseg := congrArg Jwt.segments h
      rw [Env.accessToken, annToken, Jwt.segments_signedString, Jwt.segments_signedString] at hseg
      have hpayload : Deployment.env.lib.claims.marshal c = [] := by
        simp [Deployment.env, Deployment.lib, hc]
      rw [hpayload] at hseg
      have hempty : Base64.encode Base64.rawURL [] = Base64.encode Base64.rawURL Deployment.annPayload :=
        (Prod.mk.inj (Prod.mk.inj (Option.some.inj hseg)).2).1
      exact absurd hempty (by decide +kernel)
  registered _ := rfl

/-- A login, the revocation of all tokens of the user, and the cleanup. -/
def loginRevokeCleanup : Fin 3 → Operation
  | 0 => .login "ann@example.com" "correct horse" "10.0.0.1"
  | 1 => .revokeAllUserAccessTokens 2
  | 2 => .cleanupExpiredTokens

/-- The world after the login and the revocation, and the cleanup much later. -/
def cleanedWorld : World :=
  ((operations Deployment.env loginRevokeCleanup ⟨0, Deployment.store⟩).run
    ((List.replicate 12 (0, draw 7 20) ++ [(1, draw 7 20)]) ++
      [(2, { draw 7 20 with wait := 10 ^ 13 })])).world

/-- The row of the token was revoked, and deleted once it had expired; the token is still
rejected. -/
theorem revoked_never_accepted_after_cleanup :
    cleanedWorld.db.accessTokens.rows = [] ∧
    (∀ ctx, ((authMiddleware Deployment.env ⟨"", some (annToken signatureA)⟩).run backend
        (fun _ => draw 7 20) cleanedWorld).1 ≠ .ok ctx) ∧
      ((authenticateRevokeBearer Deployment.env (annToken signatureA)).run backend
        (fun _ => draw 7 20) cleanedWorld).1 = false := by
  refine ⟨by decide +kernel, ?_⟩
  refine revoked_never_accepted faithful_annToken (fun a ha => by cases ha) _ _ ?_ rfl _
  rw [show Deployment.env.lib = Deployment.lib from rfl, Deployment.sha256Hex_annToken]
  decide +kernel

end GoauthServer
