import Mathlib.Algebra.Order.Field.Basic
import Mathlib.Tactic.Linarith
import Mathlib.Tactic.Ring

/-!
# Token buckets

The limiter of `golang.org/x/time/rate`, for one token at a time and with exact numbers: time and tokens are
elements of any linearly ordered field. A bucket is full at first and is refilled at the rate `limit` up to `burst`.
`allow` takes a token if there is one. `reserve` takes it in any case, even from an empty bucket, and says when it
will be there (`timeToAct`); `cancel` gives it back, less what was reserved after it.

What a bucket holds at a time is `advance`. That it is refilled over an interval in one go or in two comes to the
same (`advance_trans`), and every operation is described by what it does to `advance`:

* `allow_of_le` and `allow_of_lt`: a token is taken exactly if there is one;
* `cancel_reserve`: a reservation that is cancelled at once leaves the bucket as it was;
* `advance_of_idle`: a bucket that has been left alone for long enough is full.

## Reservations that are still open

`InStep` compares a bucket with one on which nothing was reserved. While the reservations at the times `rs` are open,
the first holds as many tokens less as there are reservations. The times are stacked: where one is due later than
now, the bucket would be empty at that time but for the reservations made after it (`Stacked`). It follows that the
other bucket cannot overflow before the first of them is due (`Stacked.uncapped`), which is what makes the
difference constant. Time (`InStep.elapse`), a token taken from both (`InStep.allow`), a reservation
(`InStep.reserve`) and a cancellation (`InStep.cancel`) keep the two in step; the last one if the reservation is
not past, and if it is still the latest event of the bucket.
-/

namespace TokenBucket

/-! ### The limiter -/

/-- `rate.Limiter`. -/
structure Limiter (𝕜 : Type) where
  /-- Tokens per unit of time. -/
  limit : 𝕜
  burst : ℕ
  /-- The tokens at the time `last`. -/
  tokens : 𝕜
  last : 𝕜
  /-- The latest time at which an event was allowed, or is going to be. -/
  lastEvent : 𝕜
  deriving DecidableEq

/-- `rate.Reservation`, of one token. -/
structure Reservation (𝕜 : Type) where
  ok : Bool
  timeToAct : 𝕜
  deriving DecidableEq

section Operations

variable {𝕜 : Type} [Field 𝕜] [LinearOrder 𝕜]

/-- `NewLimiter`. Times count from the zero time. -/
def newLimiter (r : 𝕜) (b : ℕ) : Limiter 𝕜 where
  limit := r
  burst := b
  tokens := b
  last := 0
  lastEvent := 0

namespace Limiter

/-- `advance`: the tokens at a time. -/
def advance (l : Limiter 𝕜) (t : 𝕜) : 𝕜 := min l.burst (l.tokens + l.limit * (t - min l.last t))

/-- How long it takes until there is a token. -/
def wait (l : Limiter 𝕜) (t : 𝕜) : 𝕜 := if l.advance t - 1 < 0 then -(l.advance t - 1) / l.limit else 0

/-- `reserveN`, for one token; `none` stands for `InfDuration`, which every wait is within. -/
def reserveN (l : Limiter 𝕜) (t : 𝕜) (maxFutureReserve : Option 𝕜) : Reservation 𝕜 × Limiter 𝕜 :=
  if 1 ≤ l.burst ∧ maxFutureReserve.all fun d => l.wait t ≤ d then
    ({ ok := true, timeToAct := t + l.wait t },
      { l with tokens := l.advance t - 1, last := t, lastEvent := t + l.wait t })
  else ({ ok := false, timeToAct := 0 }, l)

/-- `Allow`. -/
def allow (l : Limiter 𝕜) (t : 𝕜) : Bool × Limiter 𝕜 :=
  ((l.reserveN t (some 0)).1.ok, (l.reserveN t (some 0)).2)

/-- `Reserve`. -/
def reserve (l : Limiter 𝕜) (t : 𝕜) : Reservation 𝕜 × Limiter 𝕜 := l.reserveN t none

/-- `Cancel`. -/
def cancel (l : Limiter 𝕜) (r : Reservation 𝕜) (t : 𝕜) : Limiter 𝕜 :=
  if ¬ r.ok ∨ r.timeToAct < t then l
  -- tokens that were reserved after it are not given back
  else if 1 - l.limit * (l.lastEvent - r.timeToAct) ≤ 0 then l
  else
    { l with
      tokens := min l.burst (l.advance t + (1 - l.limit * (l.lastEvent - r.timeToAct)))
      last := t
      lastEvent :=
        if r.timeToAct = l.lastEvent ∧ t ≤ r.timeToAct - 1 / l.limit then r.timeToAct - 1 / l.limit
        else l.lastEvent }

end Limiter

/-- `InfDuration`, in seconds. -/
def infDuration : 𝕜 := (2 ^ 63 - 1) / 10 ^ 9

/-- `Delay`. -/
def Reservation.delay (r : Reservation 𝕜) (t : 𝕜) : 𝕜 :=
  if r.ok then max 0 (r.timeToAct - t) else infDuration

end Operations

/-! ### What a bucket holds -/

section Advance

variable {𝕜 : Type} [Field 𝕜] [LinearOrder 𝕜] [IsStrictOrderedRing 𝕜] {l : Limiter 𝕜} {s t : 𝕜}

namespace Limiter

omit [IsStrictOrderedRing 𝕜] in
theorem advance_le_burst : l.advance t ≤ l.burst := min_le_left _ _

omit [IsStrictOrderedRing 𝕜] in
theorem advance_of_le (h : l.last ≤ t) : l.advance t = min (l.burst : 𝕜) (l.tokens + l.limit * (t - l.last)) := by
  unfold advance
  rw [min_eq_left h]

omit [IsStrictOrderedRing 𝕜] in
/-- A bucket whose tokens have just been set. -/
theorem advance_self {x : 𝕜} (hx : x ≤ l.burst) (e : 𝕜) :
    ({ l with tokens := x, last := t, lastEvent := e } : Limiter 𝕜).advance t = x := by
  rw [advance_of_le (le_refl t)]
  show min (l.burst : 𝕜) (x + l.limit * (t - t)) = x
  rw [sub_self, mul_zero, add_zero]
  exact min_eq_right hx

/-- **Refilling in two steps.** -/
theorem advance_trans (hlimit : 0 ≤ l.limit) (hs : l.last ≤ s) (hst : s ≤ t) :
    l.advance t = min (l.burst : 𝕜) (l.advance s + l.limit * (t - s)) := by
  have hgain : 0 ≤ l.limit * (t - s) := mul_nonneg hlimit (sub_nonneg.mpr hst)
  have hsplit : l.tokens + l.limit * (t - l.last) = l.tokens + l.limit * (s - l.last) + l.limit * (t - s) := by ring
  rw [advance_of_le (hs.trans hst), advance_of_le hs, hsplit, ← min_add_add_right, ← min_assoc]
  -- a bucket that is full at `s` is full at `t`
  rw [min_eq_left (a := (l.burst : 𝕜)) (le_add_of_nonneg_right hgain)]

/-- **A bucket that was left alone for long enough is full.** -/
theorem advance_of_idle (htokens : 0 ≤ l.tokens) (hlast : l.last ≤ t)
    (hidle : l.burst ≤ l.limit * (t - l.last)) : l.advance t = l.burst := by
  rw [advance_of_le hlast]
  exact min_eq_left (hidle.trans (le_add_of_nonneg_left htokens))

theorem advance_nonneg (hlimit : 0 ≤ l.limit) (htokens : 0 ≤ l.tokens) : 0 ≤ l.advance t :=
  le_min (Nat.cast_nonneg _) (add_nonneg htokens (mul_nonneg hlimit (sub_nonneg.mpr (min_le_right _ _))))

/-- A new bucket is full at every time. -/
theorem advance_newLimiter {r : 𝕜} (hr : 0 ≤ r) (b : ℕ) (t : 𝕜) : (newLimiter r b).advance t = b := by
  have hgain : 0 ≤ r * (t - min 0 t) := mul_nonneg hr (sub_nonneg.mpr (min_le_right _ _))
  exact min_eq_left (le_add_of_nonneg_right hgain)

end Limiter

end Advance

/-! ### What the operations do -/

section Effects

variable {𝕜 : Type} [Field 𝕜] [LinearOrder 𝕜] [IsStrictOrderedRing 𝕜] {l : Limiter 𝕜} {t : 𝕜}

namespace Limiter

theorem wait_of_le (h : 1 ≤ l.advance t) : l.wait t = 0 :=
  if_neg (not_lt.mpr (sub_nonneg.mpr h))

theorem wait_of_lt (h : l.advance t < 1) : l.wait t = (1 - l.advance t) / l.limit := by
  unfold wait
  rw [if_pos (sub_neg.mpr h), neg_sub]

theorem limit_mul_wait (hlimit : 0 < l.limit) (h : l.advance t < 1) : l.limit * l.wait t = 1 - l.advance t := by
  rw [wait_of_lt h]
  exact mul_div_cancel₀ _ hlimit.ne'

theorem wait_pos (hlimit : 0 < l.limit) (h : l.advance t < 1) : 0 < l.wait t := by
  rw [wait_of_lt h]
  exact div_pos (sub_pos.mpr h) hlimit

theorem wait_nonneg (hlimit : 0 < l.limit) : 0 ≤ l.wait t := by
  rcases le_or_gt 1 (l.advance t) with h | h
  · exact (wait_of_le h).ge
  · exact (wait_pos hlimit h).le

theorem one_le_burst (h : 1 ≤ l.advance t) : 1 ≤ l.burst := by
  have hcast : ((1 : ℕ) : 𝕜) ≤ l.burst := by
    rw [Nat.cast_one]
    exact h.trans advance_le_burst
  exact Nat.cast_le.mp hcast

/-- There is a token. -/
theorem allow_of_le (h : 1 ≤ l.advance t) :
    l.allow t = (true, { l with tokens := l.advance t - 1, last := t, lastEvent := t }) := by
  have hwait := wait_of_le h
  unfold allow reserveN
  rw [if_pos ⟨one_le_burst h, by simp [hwait]⟩, hwait, add_zero]

/-- There is none. -/
theorem allow_of_lt (hlimit : 0 < l.limit) (h : l.advance t < 1) : l.allow t = (false, l) := by
  have hwait := wait_pos hlimit h
  unfold allow reserveN
  rw [if_neg fun hok => ?_]
  have hle : l.wait t ≤ 0 := by simpa using hok.2
  exact absurd hwait (not_lt.mpr hle)

theorem allow_eq_true_iff (hlimit : 0 < l.limit) : (l.allow t).1 = true ↔ 1 ≤ l.advance t := by
  rcases le_or_gt 1 (l.advance t) with h | h
  · rw [allow_of_le h]
    exact iff_of_true rfl h
  · rw [allow_of_lt hlimit h]
    exact iff_of_false Bool.false_ne_true (not_le.mpr h)

omit [IsStrictOrderedRing 𝕜] in
theorem reserve_eq (hburst : 1 ≤ l.burst) : l.reserve t = ({ ok := true, timeToAct := t + l.wait t },
      { l with tokens := l.advance t - 1, last := t, lastEvent := t + l.wait t }) := by
  unfold reserve reserveN
  exact if_pos ⟨hburst, rfl⟩

/-- What a reservation leaves. -/
theorem advance_reserve (hburst : 1 ≤ l.burst) : (l.reserve t).2.advance t = l.advance t - 1 := by
  rw [reserve_eq hburst]
  exact advance_self ((sub_le_self _ zero_le_one).trans advance_le_burst) _

/-- **A cancellation that gives the token back.** -/
theorem cancel_eq {r : Reservation 𝕜} (hok : r.ok = true) (htime : t ≤ r.timeToAct)
    (hlatest : l.lastEvent = r.timeToAct) :
    l.cancel r t =
      { l with
        tokens := min l.burst (l.advance t + 1)
        last := t
        lastEvent :=
          if t ≤ r.timeToAct - 1 / l.limit then r.timeToAct - 1 / l.limit else l.lastEvent } := by
  have hrestore : 1 - l.limit * (l.lastEvent - r.timeToAct) = 1 := by rw [hlatest, sub_self, mul_zero, sub_zero]
  unfold cancel
  rw [if_neg (by simp [hok, htime]), hrestore, if_neg (not_le.mpr one_pos)]
  simp only [hlatest, true_and]

/-- **A reservation that is cancelled at once** leaves what there was. -/
theorem cancel_reserve (hlimit : 0 < l.limit) (hburst : 1 ≤ l.burst) :
    ∃ e, (l.reserve t).2.cancel (l.reserve t).1 t =
      { l with tokens := l.advance t, last := t, lastEvent := e } := by
  have hadvance := advance_reserve (t := t) hburst
  rw [reserve_eq hburst] at hadvance ⊢
  have htime : t ≤ t + l.wait t := le_add_of_nonneg_right (wait_nonneg hlimit)
  rw [cancel_eq rfl htime rfl, hadvance, sub_add_cancel]
  dsimp only
  rw [min_eq_right advance_le_burst]
  exact ⟨_, rfl⟩

end Limiter

end Effects

/-! ### Reservations that are still open -/

section Open

variable {𝕜 : Type} [Field 𝕜] [LinearOrder 𝕜] [IsStrictOrderedRing 𝕜] {limit a now t : 𝕜} {rs : List 𝕜}

/-- The times of reservations, the latest first, where the bucket holds `a` tokens now: each is due now, or the
bucket would be empty when it is due, were it not for those before it in the list. -/
def Stacked (limit now : 𝕜) : 𝕜 → List 𝕜 → Prop
  | _, [] => True
  | a, r :: rs => (r = now ∨ a + limit * (r - now) = 0) ∧ (∀ r' ∈ rs, r' ≤ r) ∧ Stacked limit now (a + 1) rs

namespace Stacked

omit [IsStrictOrderedRing 𝕜] in
/-- Nothing is asked of reservations that are due now. -/
theorem of_eq_now (h : ∀ r ∈ rs, r = now) (a : 𝕜) : Stacked limit now a rs := by
  induction rs generalizing a with
  | nil => trivial
  | cons r rs ih =>
    have hr : r = now := h r List.mem_cons_self
    have hrs : ∀ r' ∈ rs, r' = now := fun r' hr' => h r' (List.mem_cons_of_mem r hr')
    refine ⟨.inl hr, fun r' hr' => ?_, ih hrs (a + 1)⟩
    rw [hr, hrs r' hr']

/-- A reservation is due now, or there are no tokens when it is due. -/
theorem eq_now_or_empty (h : Stacked limit now a rs) : ∀ r ∈ rs, r = now ∨ a + limit * (r - now) ≤ 0 := by
  induction rs generalizing a with
  | nil => nofun
  | cons r rs ih =>
    intro r' hr'
    rcases List.mem_cons.mp hr' with rfl | hr'
    · exact h.1.imp_right Eq.le
    · -- those before it in the list only take tokens away
      refine (ih h.2.2 r' hr').imp_right fun hempty => ?_
      linarith

/-- Where there is a token, all reservations are due now. -/
theorem eq_now (hlimit : 0 < limit) (hdue : ∀ r ∈ rs, now ≤ r) (ha : 1 ≤ a) (h : Stacked limit now a rs) :
    ∀ r ∈ rs, r = now := by
  intro r hr
  have hgain : 0 ≤ limit * (r - now) := mul_nonneg hlimit.le (sub_nonneg.mpr (hdue r hr))
  exact (h.eq_now_or_empty r hr).resolve_right fun hempty => by linarith

/-- **Before the first reservation is due**, there would be at most one token if none had been made. -/
theorem uncapped (hlimit : 0 < limit) (hne : rs ≠ []) (hdue : ∀ r ∈ rs, t ≤ r) (hnow : now < t)
    (h : Stacked limit now a rs) : a + rs.length + limit * (t - now) ≤ 1 := by
  induction rs generalizing a with
  | nil => exact absurd rfl hne
  | cons r rs ih =>
    cases rs with
    | nil =>
      have hr : t ≤ r := hdue r List.mem_cons_self
      rcases h.1 with rfl | hempty
      · exact absurd hnow (not_lt.mpr hr)
      · have hlater : limit * (t - now) ≤ limit * (r - now) :=
          mul_le_mul_of_nonneg_left (sub_le_sub_right hr now) hlimit.le
        rw [List.length_singleton, Nat.cast_one]
        linarith
    | cons r' rs =>
      have hrest := ih (List.cons_ne_nil r' rs) (fun q hq => hdue q (List.mem_cons_of_mem r hq)) h.2.2
      rw [List.length_cons, Nat.cast_succ]
      linarith

omit [IsStrictOrderedRing 𝕜] in
/-- Time passes, but not past any of the reservations. -/
theorem elapse (hdue : ∀ r ∈ rs, t ≤ r) (hnow : now < t) (h : Stacked limit now a rs) :
    Stacked limit t (a + limit * (t - now)) rs := by
  induction rs generalizing a with
  | nil => trivial
  | cons r rs ih =>
    have hrest := ih (fun q hq => hdue q (List.mem_cons_of_mem r hq)) h.2.2
    rw [add_right_comm] at hrest
    refine ⟨.inr ?_, h.2.1, hrest⟩
    rcases h.1 with rfl | hempty
    · exact absurd hnow (not_lt.mpr (hdue r List.mem_cons_self))
    · rw [← hempty]
      ring

end Stacked

/-- **Two buckets in step.** Of the first, reservations at the times `rs` are open; on the second nothing was
reserved. -/
structure InStep (l ref : Limiter 𝕜) (now : 𝕜) (rs : List 𝕜) : Prop where
  limit_eq : ref.limit = l.limit
  burst_eq : ref.burst = l.burst
  limit_pos : 0 < l.limit
  burst_pos : 1 ≤ l.burst
  last_le : l.last ≤ now
  ref_last_le : ref.last ≤ now
  balance : l.advance now + rs.length = ref.advance now
  due : ∀ r ∈ rs, now ≤ r
  latest : ∀ r ∈ rs, r ≤ l.lastEvent
  stacked : Stacked l.limit now (l.advance now) rs

namespace InStep

variable {l ref : Limiter 𝕜} {r : Reservation 𝕜}

omit [IsStrictOrderedRing 𝕜] in
/-- At first they are the same. -/
theorem refl (hlimit : 0 < l.limit) (hburst : 1 ≤ l.burst) (hlast : l.last ≤ now) : InStep l l now [] where
  limit_eq := rfl
  burst_eq := rfl
  limit_pos := hlimit
  burst_pos := hburst
  last_le := hlast
  ref_last_le := hlast
  balance := by rw [List.length_nil, Nat.cast_zero, add_zero]
  due := nofun
  latest := nofun
  stacked := trivial

/-- What the buckets hold after some time. -/
theorem balance_elapse (h : InStep l ref now rs) (ht : now ≤ t) (hdue : ∀ r ∈ rs, t ≤ r) :
    l.advance t + rs.length = ref.advance t := by
  have hreflimit : 0 ≤ ref.limit := by
    rw [h.limit_eq]
    exact h.limit_pos.le
  rw [Limiter.advance_trans h.limit_pos.le h.last_le ht, Limiter.advance_trans hreflimit h.ref_last_le ht,
    h.limit_eq, h.burst_eq, ← h.balance]
  by_cases hne : rs = []
  · rw [hne, List.length_nil, Nat.cast_zero, add_zero, add_zero]
  rcases ht.eq_or_lt with rfl | hlt
  · -- no time has passed
    rw [sub_self, mul_zero, add_zero, add_zero, min_eq_right Limiter.advance_le_burst, h.balance, ← h.burst_eq,
      min_eq_right Limiter.advance_le_burst]
  · -- neither of the two is full
    have hone := h.stacked.uncapped h.limit_pos hne hdue hlt
    have hburst : (1 : 𝕜) ≤ l.burst := by exact_mod_cast h.burst_pos
    have hlen : (0 : 𝕜) ≤ rs.length := Nat.cast_nonneg _
    rw [min_eq_right (by linarith), min_eq_right (by linarith)]
    ring

theorem elapse (h : InStep l ref now rs) (ht : now ≤ t) (hdue : ∀ r ∈ rs, t ≤ r) : InStep l ref t rs where
  limit_eq := h.limit_eq
  burst_eq := h.burst_eq
  limit_pos := h.limit_pos
  burst_pos := h.burst_pos
  last_le := h.last_le.trans ht
  ref_last_le := h.ref_last_le.trans ht
  balance := h.balance_elapse ht hdue
  due := hdue
  latest := h.latest
  stacked := by
    by_cases hne : rs = []
    · rw [hne]
      trivial
    rcases ht.eq_or_lt with rfl | hlt
    · exact h.stacked
    have hadvance : l.advance t = l.advance now + l.limit * (t - now) := by
      have hone := h.stacked.uncapped h.limit_pos hne hdue hlt
      have hburst : (1 : 𝕜) ≤ l.burst := by exact_mod_cast h.burst_pos
      have hlen : (0 : 𝕜) ≤ rs.length := Nat.cast_nonneg _
      rw [Limiter.advance_trans h.limit_pos.le h.last_le ht]
      exact min_eq_right (by linarith)
    rw [hadvance]
    exact h.stacked.elapse hdue hlt

/-- A token is taken from both, as there is one in the first. -/
theorem allow (h : InStep l ref now rs) (ha : 1 ≤ l.advance now) : InStep (l.allow now).2 (ref.allow now).2 now rs := by
  have href : 1 ≤ ref.advance now := by
    rw [← h.balance]
    exact ha.trans (le_add_of_nonneg_right (Nat.cast_nonneg _))
  have hnow : ∀ r ∈ rs, r = now := h.stacked.eq_now h.limit_pos h.due ha
  have hself : ∀ {l : Limiter 𝕜}, l.advance now - 1 ≤ l.burst :=
    (sub_le_self _ zero_le_one).trans Limiter.advance_le_burst
  rw [Limiter.allow_of_le ha, Limiter.allow_of_le href]
  exact
    { limit_eq := h.limit_eq
      burst_eq := h.burst_eq
      limit_pos := h.limit_pos
      burst_pos := h.burst_pos
      last_le := le_refl now
      ref_last_le := le_refl now
      balance := by
        rw [Limiter.advance_self hself, Limiter.advance_self hself, ← h.balance]
        ring
      due := h.due
      latest := fun r hr => (hnow r hr).le
      stacked := Stacked.of_eq_now hnow _ }

/-- A token is reserved. -/
theorem reserve (h : InStep l ref now rs) :
    (l.reserve now).1.ok = true ∧ InStep (l.reserve now).2 ref now ((l.reserve now).1.timeToAct :: rs) := by
  have hwait := Limiter.wait_nonneg (t := now) h.limit_pos
  -- none of the open reservations is due later than the new one
  have hlatest : ∀ r ∈ rs, r ≤ now + l.wait now := by
    intro r hr
    rcases h.stacked.eq_now_or_empty r hr with rfl | hempty
    · exact le_add_of_nonneg_right hwait
    · have hgain : 0 ≤ l.limit * (r - now) := mul_nonneg h.limit_pos.le (sub_nonneg.mpr (h.due r hr))
      have hlt : l.advance now < 1 := by linarith
      have hle : l.limit * (r - now) ≤ l.limit * l.wait now := by
        rw [Limiter.limit_mul_wait h.limit_pos hlt]
        linarith
      exact sub_le_iff_le_add'.mp (le_of_mul_le_mul_left hle h.limit_pos)
  rw [Limiter.reserve_eq h.burst_pos]
  refine ⟨rfl, ?_⟩
  have hself : ({ l with tokens := l.advance now - 1, last := now, lastEvent := now + l.wait now }
      : Limiter 𝕜).advance now = l.advance now - 1 :=
    Limiter.advance_self ((sub_le_self _ zero_le_one).trans Limiter.advance_le_burst) _
  exact
    { limit_eq := h.limit_eq
      burst_eq := h.burst_eq
      limit_pos := h.limit_pos
      burst_pos := h.burst_pos
      last_le := le_refl now
      ref_last_le := h.ref_last_le
      balance := by
        rw [hself, List.length_cons, Nat.cast_succ, ← h.balance]
        ring
      due := List.forall_mem_cons.mpr ⟨le_add_of_nonneg_right hwait, h.due⟩
      latest := List.forall_mem_cons.mpr ⟨le_refl _, hlatest⟩
      stacked := by
        rw [hself]
        refine ⟨?_, hlatest, ?_⟩
        · rcases le_or_gt 1 (l.advance now) with hle | hlt
          · exact .inl (by rw [Limiter.wait_of_le hle, add_zero])
          · refine .inr ?_
            rw [add_sub_cancel_left]
            show l.advance now - 1 + l.limit * l.wait now = 0
            rw [Limiter.limit_mul_wait h.limit_pos hlt]
            ring
        · rw [sub_add_cancel]
          exact h.stacked }

/-- The event before the latest one: no open reservation is due after it. -/
theorem latest_cancel {r : 𝕜} (h : InStep l ref now (r :: rs)) :
    ∀ r' ∈ rs, r' ≤ if now ≤ r - 1 / l.limit then r - 1 / l.limit else l.lastEvent := by
  intro r' hr'
  split
  · next hprev =>
    have hstep : 0 < 1 / l.limit := one_div_pos.mpr h.limit_pos
    rcases h.stacked.2.2.eq_now_or_empty r' hr' with rfl | hempty
    · exact hprev
    · -- the two are due a token apart, or more
      have htop : l.advance now + l.limit * (r - now) = 0 := by
        refine h.stacked.1.resolve_left fun hr => ?_
        linarith
      have hone : l.limit * (1 / l.limit) = 1 := mul_one_div_cancel h.limit_pos.ne'
      have hle : l.limit * r' ≤ l.limit * (r - 1 / l.limit) := by
        rw [mul_sub, hone]
        linarith
      exact le_of_mul_le_mul_left hle h.limit_pos
  · exact h.latest r' (List.mem_cons_of_mem r hr')

/-- **The latest reservation is given back.** -/
theorem cancel (h : InStep l ref now (r.timeToAct :: rs)) (hok : r.ok = true)
    (hlatest : l.lastEvent = r.timeToAct) : InStep (l.cancel r now) ref now rs := by
  have htime : now ≤ r.timeToAct := h.due _ List.mem_cons_self
  have hbalance : l.advance now + 1 + rs.length = ref.advance now := by
    rw [← h.balance, List.length_cons, Nat.cast_succ]
    ring
  have hroom : l.advance now + 1 ≤ l.burst := by
    have hfull : ref.advance now ≤ l.burst := by
      rw [← h.burst_eq]
      exact Limiter.advance_le_burst
    have hlen : (0 : 𝕜) ≤ rs.length := Nat.cast_nonneg _
    linarith
  rw [Limiter.cancel_eq hok htime hlatest, min_eq_right hroom]
  exact
    { limit_eq := h.limit_eq
      burst_eq := h.burst_eq
      limit_pos := h.limit_pos
      burst_pos := h.burst_pos
      last_le := le_refl now
      ref_last_le := h.ref_last_le
      balance := by
        rw [Limiter.advance_self hroom]
        exact hbalance
      due := fun r' hr' => h.due r' (List.mem_cons_of_mem _ hr')
      latest := h.latest_cancel
      stacked := by
        rw [Limiter.advance_self hroom]
        exact h.stacked.2.2 }

/-- A reservation that is open and the latest event is first in the list. -/
theorem cancel_erase (h : InStep l ref now rs) (hmem : r.timeToAct ∈ rs) (hok : r.ok = true)
    (hlatest : l.lastEvent = r.timeToAct) : InStep (l.cancel r now) ref now (rs.erase r.timeToAct) := by
  cases rs with
  | nil => cases hmem
  | cons v vs =>
    have hle : r.timeToAct ≤ v := by
      rcases List.mem_cons.mp hmem with heq | hmem
      · exact heq.le
      · exact h.stacked.2.1 _ hmem
    have hge : v ≤ r.timeToAct := by
      rw [← hlatest]
      exact h.latest v List.mem_cons_self
    obtain rfl := le_antisymm hge hle
    rw [List.erase_cons_head]
    exact h.cancel hok hlatest

/-- Where nothing is open, both hold the same from now on. -/
theorem advance_eq (h : InStep l ref now []) (ht : now ≤ t) : l.advance t = ref.advance t := by
  have hbalance := h.balance_elapse ht nofun
  rw [List.length_nil, Nat.cast_zero, add_zero] at hbalance
  exact hbalance

end InStep

end Open

end TokenBucket
