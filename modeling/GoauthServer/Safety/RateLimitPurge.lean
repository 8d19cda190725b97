import GoauthServer.Transport.RateLimit

/-!
# Forgetting idle rate limits

`cleanup` drops the entries of a `KeyedLimiter` that were not seen for `ttl`. A key that was dropped gets a new
limiter, which is full; so nobody can tell as long as the old one was full again as well. `purge_unobservable` says
that this is so for the limiters that both middlewares make, over any sequence of requests and cleanups.

A limiter is compared by what it holds for each key from now on (`Agree`): the verdict on a request is a function of
that, and so is what is left (`serve_eq`). Between requests nothing is reserved, so that an entry holds a non-negative
number of tokens as of a time not after it was last seen (`Settled`); at `perMin / 60` tokens a second, `5` minutes
refill any such bucket five times over (`cleanup_balance`).
-/

namespace GoauthServer

open Interact TokenBucket

/-! ### Requests and cleanups -/

/-- A request with a key, at one instant, or a cleanup, with its readings of the clock and the time at which it has
gone through the entries. -/
inductive LimitEvent where
  | request (key : String) (t : ℚ)
  | tick (readings : String → ℚ) (done : ℚ)

namespace LimitEvent

def isRequest : LimitEvent → Bool
  | .request _ _ => true
  | .tick _ _ => false

/-- The times do not decrease. -/
def Ordered : ℚ → List LimitEvent → Prop
  | _, [] => True
  | now, .request _ t :: es => now ≤ t ∧ Ordered t es
  | now, .tick readings done :: es => now ≤ done ∧ (∀ key, now ≤ readings key ∧ readings key ≤ done) ∧ Ordered done es

end LimitEvent

/-- The verdicts on the requests of a history. -/
def KeyedLimiter.verdicts : KeyedLimiter → List LimitEvent → List Verdict
  | _, [] => []
  | kl, .request key t :: es => (kl.serve key t).1 :: KeyedLimiter.verdicts (kl.serve key t).2 es
  | kl, .tick readings _ :: es => KeyedLimiter.verdicts (kl.cleanup readings) es

/-! ### Between requests -/

/-- An entry between requests: nothing is reserved, and the tokens are as of a time not after `lastSeen`. -/
structure LimiterEntry.Settled (entry : LimiterEntry) (r : ℚ) (burst : ℕ) (now : ℚ) : Prop where
  limit_eq : entry.limiter.limit = r
  burst_eq : entry.limiter.burst = burst
  tokens_nonneg : 0 ≤ entry.limiter.tokens
  last_le : entry.limiter.last ≤ entry.lastSeen
  lastSeen_le : entry.lastSeen ≤ now

theorem LimiterEntry.Settled.mono {entry : LimiterEntry} {r now t : ℚ} {burst : ℕ} (h : entry.Settled r burst now)
    (ht : now ≤ t) : entry.Settled r burst t :=
  ⟨h.limit_eq, h.burst_eq, h.tokens_nonneg, h.last_le, h.lastSeen_le.trans ht⟩

namespace KeyedLimiter

/-- A limiter between requests. Within `ttl`, an empty bucket is filled. -/
structure Settled (kl : KeyedLimiter) (now : ℚ) : Prop where
  r_pos : 0 < kl.r
  burst_pos : 1 ≤ kl.burst
  refilled : kl.burst ≤ kl.r * kl.ttl
  entry : ∀ key entry, kl.entries key = some entry → entry.Settled kl.r kl.burst now

/-- The tokens of a key at a time. -/
def balance (kl : KeyedLimiter) (key : String) (t : ℚ) : ℚ := (kl.limiterOf key).advance t

variable {kl kl' : KeyedLimiter} {now t t' : ℚ} {key key' : String}

theorem limiterOf_of_entry {entry : LimiterEntry} (h : kl.entries key = some entry) :
    kl.limiterOf key = entry.limiter := by
  unfold limiterOf
  rw [h]

theorem limiterOf_of_none (h : kl.entries key = none) : kl.limiterOf key = newLimiter kl.r kl.burst := by
  unfold limiterOf
  rw [h]

namespace Settled

theorem mono (h : kl.Settled now) (ht : now ≤ t) : kl.Settled t :=
  ⟨h.r_pos, h.burst_pos, h.refilled, fun key entry hentry => (h.entry key entry hentry).mono ht⟩

/-- What is known of the limiter of any key. -/
theorem limiterOf (h : kl.Settled now) (key : String) :
    (kl.limiterOf key).limit = kl.r ∧ (kl.limiterOf key).burst = kl.burst ∧ 0 ≤ (kl.limiterOf key).tokens := by
  cases hentry : kl.entries key with
  | none =>
    rw [limiterOf_of_none hentry]
    exact ⟨rfl, rfl, Nat.cast_nonneg _⟩
  | some entry =>
    have hsettled := h.entry key entry hentry
    rw [limiterOf_of_entry hentry]
    exact ⟨hsettled.limit_eq, hsettled.burst_eq, hsettled.tokens_nonneg⟩

theorem balance_nonneg (h : kl.Settled now) : 0 ≤ kl.balance key t := by
  obtain ⟨hlimit, -, htokens⟩ := h.limiterOf key
  exact Limiter.advance_nonneg (by rw [hlimit]; exact h.r_pos.le) htokens

end Settled

/-! ### Requests -/

/-- **A request**: the verdict and what is left are functions of the tokens that there are. -/
theorem serve_eq (h : kl.Settled now) (key : String) (t : ℚ) : ∃ e, kl.serve key t =
      (verdictOf kl.r (kl.balance key t),
        kl.setEntry key ⟨{ kl.limiterOf key with tokens := spend (kl.balance key t), last := t, lastEvent := e }, t⟩) := by
  obtain ⟨hlimit, hburst, -⟩ := h.limiterOf key
  obtain ⟨e, hrun⟩ := enforce_run (l := kl.limiterOf key) (t := t) (by rw [hlimit]; exact h.r_pos)
    (by rw [hburst]; exact h.burst_pos)
  refine ⟨e, ?_⟩
  unfold serve getLimiter
  dsimp only
  rw [hrun, hlimit]
  refine Prod.ext rfl ?_
  -- the entry is written twice
  unfold setEntry
  dsimp only
  rw [Function.update_idem]
  rfl

theorem serve_settled (h : kl.Settled now) (ht : now ≤ t) : (kl.serve key t).2.Settled t := by
  obtain ⟨e, hserve⟩ := serve_eq h key t
  obtain ⟨hlimit, hburst, -⟩ := h.limiterOf key
  rw [hserve]
  refine ⟨h.r_pos, h.burst_pos, h.refilled, fun k entry hentry => ?_⟩
  by_cases hk : k = key
  · subst hk
    unfold setEntry at hentry
    dsimp only at hentry
    rw [Function.update_self] at hentry
    obtain rfl := Option.some.inj hentry
    exact ⟨hlimit, hburst, spend_nonneg h.balance_nonneg, le_refl t, le_refl t⟩
  · unfold setEntry at hentry
    dsimp only at hentry
    rw [Function.update_of_ne hk] at hentry
    exact (h.entry k entry hentry).mono ht

/-- What the key has after its request. -/
theorem serve_balance_self (h : kl.Settled now) (ht : t ≤ t') :
    (kl.serve key t).2.balance key t' = min (kl.burst : ℚ) (spend (kl.balance key t) + kl.r * (t' - t)) := by
  obtain ⟨e, hserve⟩ := serve_eq h key t
  obtain ⟨hlimit, hburst, -⟩ := h.limiterOf key
  rw [hserve, balance, limiterOf_of_entry (Function.update_self ..), Limiter.advance_of_le ht, hlimit, hburst]

/-- A request is of no concern to other keys. -/
theorem serve_balance_of_ne (h : kl.Settled now) (hkey : key' ≠ key) :
    (kl.serve key t).2.balance key' t' = kl.balance key' t' := by
  obtain ⟨e, hserve⟩ := serve_eq h key t
  have hentry : (kl.serve key t).2.entries key' = kl.entries key' := by
    rw [hserve]
    exact Function.update_of_ne hkey ..
  have hlimiter : (kl.serve key t).2.limiterOf key' = kl.limiterOf key' := by
    unfold KeyedLimiter.limiterOf
    rw [hentry, hserve]
    rfl
  unfold balance
  rw [hlimiter]

/-! ### Cleanups -/

variable {readings : String → ℚ}

theorem cleanup_settled (h : kl.Settled now) (ht : now ≤ t) : (kl.cleanup readings).Settled t := by
  refine ⟨h.r_pos, h.burst_pos, h.refilled, fun key entry hentry => ?_⟩
  exact (h.entry key entry (Option.eq_some_of_filter_eq_some hentry)).mono ht

/-- **What is dropped is full.** From the time at which the entry was looked at, the key has what it had. -/
theorem cleanup_balance (h : kl.Settled now) (hnow : now ≤ readings key) (ht : readings key ≤ t) :
    (kl.cleanup readings).balance key t = kl.balance key t := by
  unfold balance
  cases hentry : kl.entries key with
  | none =>
    have hnone : (kl.cleanup readings).entries key = none := by
      show (kl.entries key).filter _ = none
      rw [hentry]
      rfl
    rw [limiterOf_of_none hnone, limiterOf_of_none hentry]
    rfl
  | some entry =>
    have hsettled := h.entry key entry hentry
    by_cases hidle : kl.ttl < readings key - entry.lastSeen
    · -- the old bucket has been refilled, and the new one starts full
      have hnone : (kl.cleanup readings).entries key = none := by
        show (kl.entries key).filter _ = none
        rw [hentry]
        exact Option.filter_some_neg (by simp [hidle])
      have hlong : kl.ttl ≤ t - entry.limiter.last := by linarith [hsettled.last_le]
      have hfull : (entry.limiter.burst : ℚ) ≤ entry.limiter.limit * (t - entry.limiter.last) := by
        rw [hsettled.limit_eq, hsettled.burst_eq]
        exact h.refilled.trans (mul_le_mul_of_nonneg_left hlong h.r_pos.le)
      have hlast : entry.limiter.last ≤ t :=
        hsettled.last_le.trans (hsettled.lastSeen_le.trans (hnow.trans ht))
      rw [limiterOf_of_none hnone, limiterOf_of_entry hentry, Limiter.advance_of_idle hsettled.tokens_nonneg hlast hfull,
        hsettled.burst_eq]
      exact Limiter.advance_newLimiter h.r_pos.le kl.burst t
    · have hkept : (kl.cleanup readings).entries key = some entry := by
        show (kl.entries key).filter _ = some entry
        rw [hentry]
        exact Option.filter_some_pos (by simp [hidle])
      rw [limiterOf_of_entry hkept, limiterOf_of_entry hentry]

/-! ### Two limiters -/

/-- Both have the same tokens for every key, from now on. -/
structure Agree (now : ℚ) (kl kl' : KeyedLimiter) : Prop where
  r_eq : kl.r = kl'.r
  burst_eq : kl.burst = kl'.burst
  balance_eq : ∀ key t, now ≤ t → kl.balance key t = kl'.balance key t

/-- **A request to both.** -/
theorem Agree.serve (h : Agree now kl kl') (hs : kl.Settled now) (hs' : kl'.Settled now) (ht : now ≤ t) (key : String) :
    (kl.serve key t).1 = (kl'.serve key t).1 ∧ Agree t (kl.serve key t).2 (kl'.serve key t).2 := by
  obtain ⟨e, hserve⟩ := serve_eq hs key t
  obtain ⟨e', hserve'⟩ := serve_eq hs' key t
  have hsame := h.balance_eq key t ht
  constructor
  · rw [hserve, hserve', h.r_eq, hsame]
  · refine ⟨?_, ?_, fun k t' ht' => ?_⟩
    · rw [hserve, hserve']
      exact h.r_eq
    · rw [hserve, hserve']
      exact h.burst_eq
    · by_cases hk : k = key
      · rw [hk, serve_balance_self hs ht', serve_balance_self hs' ht', hsame, h.r_eq, h.burst_eq]
      · rw [serve_balance_of_ne hs hk, serve_balance_of_ne hs' hk]
        exact h.balance_eq k t' (ht.trans ht')

/-- **A cleanup of the first.** -/
theorem Agree.cleanup (h : Agree now kl kl') (hs : kl.Settled now) (ht : now ≤ t)
    (hreadings : ∀ key, now ≤ readings key ∧ readings key ≤ t) : Agree t (kl.cleanup readings) kl' := by
  refine ⟨h.r_eq, h.burst_eq, fun key t' ht' => ?_⟩
  rw [cleanup_balance hs (hreadings key).1 ((hreadings key).2.trans ht')]
  exact h.balance_eq key t' (ht.trans ht')

/-- Limiters that agree decide alike, and it does not matter whether the first is cleaned up. -/
theorem Agree.verdicts_eq {es : List LimitEvent} (h : Agree now kl kl') (hs : kl.Settled now) (hs' : kl'.Settled now)
    (horder : LimitEvent.Ordered now es) : kl.verdicts es = kl'.verdicts (es.filter LimitEvent.isRequest) := by
  induction es generalizing kl kl' now with
  | nil => rfl
  | cons e es ih =>
    cases e with
    | request key t =>
      obtain ⟨ht, horder⟩ := horder
      obtain ⟨hverdict, hagree⟩ := h.serve hs hs' ht key
      have hrest := ih hagree (serve_settled hs ht) (serve_settled hs' ht) horder
      show (kl.serve key t).1 :: _ = (kl'.serve key t).1 :: _
      rw [hverdict, hrest]
    | tick readings done =>
      obtain ⟨ht, hreadings, horder⟩ := horder
      exact ih (h.cleanup hs ht hreadings) (cleanup_settled hs ht) (hs'.mono ht) horder

end KeyedLimiter

/-- A limiter as the middlewares make it. -/
theorem perMinute_settled {perMin : ℕ} (hpos : 0 < perMin) (now : ℚ) : (perMinute perMin perMin).Settled now where
  r_pos := div_pos (Nat.cast_pos.mpr hpos) (by norm_num)
  burst_pos := hpos
  refilled := by
    show (perMin : ℚ) ≤ perMin / 60 * (5 * 60)
    have hnonneg : (0 : ℚ) ≤ perMin := Nat.cast_nonneg perMin
    linarith
  entry := nofun

/-- **Forgetting idle limits changes no decision.** -/
theorem purge_unobservable {perMin : ℕ} (hpos : 0 < perMin) {start : ℚ} {es : List LimitEvent}
    (horder : LimitEvent.Ordered start es) :
    (perMinute perMin perMin).verdicts es = (perMinute perMin perMin).verdicts (es.filter LimitEvent.isRequest) :=
  KeyedLimiter.Agree.verdicts_eq ⟨rfl, rfl, fun _ _ _ => rfl⟩ (perMinute_settled hpos start)
    (perMinute_settled hpos start) horder

/-- Two requests of one address within a minute, then a cleanup that drops it, then another request. -/
def idleHistory : List LimitEvent :=
  [.request "192.0.2.1" 0, .request "192.0.2.1" 30, .tick (fun _ => 331) 331, .request "192.0.2.1" 332]

example : (perMinute 1 1).verdicts idleHistory = [.admitted, .tooManyRequests "30", .admitted] := by decide +kernel

theorem purge_unobservable_idleHistory :
    LimitEvent.Ordered 0 idleHistory ∧
      (perMinute 1 1).verdicts idleHistory =
        (perMinute 1 1).verdicts (idleHistory.filter LimitEvent.isRequest) := by
  have horder : LimitEvent.Ordered 0 idleHistory := by
    refine ⟨le_refl 0, by norm_num, by norm_num, fun _ => ⟨by norm_num, le_refl _⟩, by norm_num, trivial⟩
  exact ⟨horder, purge_unobservable one_pos horder⟩

end GoauthServer
