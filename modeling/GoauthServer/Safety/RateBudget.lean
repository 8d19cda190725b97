import GoauthServer.Framework.Interleaving
import GoauthServer.Transport.RateLimit

/-!
# What a rejection costs

A request that finds no token reserves one to learn when there will be one, and cancels the reservation at once. The
two calls are not under one lock, so that other requests with the same key come in between and time passes.
`rejections_cost_nothing` says when this has no effect: each `Cancel` is called while its reservation is not past and
is still the latest event of the limiter. Then, once all requests have finished, the limiter is as if the rejected
ones had only made the call to `Allow` that failed. Otherwise tokens are lost: `two_rejections_cost_a_token` has two
requests whose reservations are cancelled in the order in which they were made, and one whose `Cancel` comes too late.

The limiter on which only the admitted requests act is a ghost variable (`admittedOnly`). While reservations are open,
the two are in step in the sense of `TokenBucket.InStep`. A reservation that is past and still open (`Late`) breaks
this; but then its `Cancel` is bound to come too late, which is excluded.
-/

namespace GoauthServer

open Interact TokenBucket

/-! ### The property -/

section Property

variable {ι : Type}

/-- The limiter on which only the admitted requests act: a call to `Allow` that fails, and all that follows it,
leave it alone. -/
def admittedOnly (c : Pool limiterBackend ι Verdict) (i : ι) (elapsed : ℚ≥0) (ref : Limiter ℚ) : Limiter ℚ :=
  match c.next? i with
  | some .allow =>
    if (c.world.limiter.allow (c.world.now + elapsed)).1 then (ref.allow (c.world.now + elapsed)).2 else ref
  | _ => ref

/-- A `Cancel` comes in time, and its reservation is the latest event. -/
def CancelsLatest (c : Pool limiterBackend ι Verdict) (i : ι) (elapsed : ℚ≥0) : Prop :=
  match c.next? i with
  | some (.cancel r) => c.world.now + elapsed ≤ r.timeToAct ∧ c.world.limiter.lastEvent = r.timeToAct
  | _ => True

instance (c : Pool limiterBackend ι Verdict) (i : ι) (elapsed : ℚ≥0) : Decidable (CancelsLatest c i elapsed) :=
  match h : c.next? i with
  | some (.cancel r) =>
    decidable_of_iff (c.world.now + elapsed ≤ r.timeToAct ∧ c.world.limiter.lastEvent = r.timeToAct)
      (by unfold CancelsLatest; rw [h])
  | some .allow | some .reserve | some (.delay _) | none => .isTrue (by unfold CancelsLatest; rw [h]; trivial)

/-- From now on, both limiters hold the same and decide alike. -/
structure SameBudget (now : ℚ) (l ref : Limiter ℚ) : Prop where
  balance : ∀ t, now ≤ t → l.advance t = ref.advance t
  admitted : ∀ t, now ≤ t → (l.allow t).1 = (ref.allow t).1

/-- Requests with one key, about to start. -/
def concurrentRequests (ι : Type) (now : ℚ) (l : Limiter ℚ) : Pool limiterBackend ι Verdict :=
  Pool.start (fun _ => enforce) ⟨now, l⟩

end Property

/-! ### The reservation that a request holds -/

/-- The reservation of a request, from its calls so far. -/
def heldIn : Log limiterEffects → Option (Reservation ℚ)
  | ⟨.reserve, r⟩ :: _ => some r
  | ⟨.delay r, _⟩ :: _ => some r
  | _ => none

/-- A request reserves when it holds nothing, cancels what it holds, and has finished when it holds nothing. -/
def limitProtocol : Protocol limiterEffects Verdict where
  request q log :=
    match q with
    | .allow => heldIn log = none
    | .reserve => heldIn log = none
    | .delay r => heldIn log = some r
    | .cancel r => heldIn log = some r
  result _ log := heldIn log = none

theorem enforce_obeys : enforce.Obeys limitProtocol [] := by
  refine ⟨rfl, fun ok => ?_⟩
  cases ok with
  | true => exact rfl
  | false => exact ⟨rfl, fun r => ⟨rfl, fun d => ⟨rfl, fun _ => rfl⟩⟩⟩

/-! ### Interleavings -/

section Run

variable {ι : Type} {c : Pool limiterBackend ι Verdict} {elapsed : ℚ≥0} {q : LimiterRequest}
  {k : q.Reply → Prog limiterEffects Verdict} {i : ι} {ref : Limiter ℚ}

/-- The open reservations, with the requests that hold them. -/
structure Holds (c : Pool limiterBackend ι Verdict) (held : List (ι × Reservation ℚ)) : Prop where
  nodup : held.Nodup
  mem_iff : ∀ i r, heldIn (c.threads i).log = some r ↔ (i, r) ∈ held

/-- Some reservation is past. -/
def Late (now : ℚ) (times : List ℚ) : Prop := ∃ r ∈ times, r < now

/-- The two limiters are in step, or it is too late for one of the reservations. -/
def InStepOrLate (l ref : Limiter ℚ) (now : ℚ) (held : List (ι × Reservation ℚ)) : Prop :=
  ∃ times : List ℚ, times.Perm (held.map fun h => h.2.timeToAct) ∧
    (InStep l ref now times ∧ (∀ h ∈ held, h.2.ok = true) ∨ Late now times)

namespace InStepOrLate

variable {l ref : Limiter ℚ} {now t : ℚ} {held : List (ι × Reservation ℚ)}

theorem elapse (h : InStepOrLate l ref now held) (ht : now ≤ t) : InStepOrLate l ref t held := by
  obtain ⟨times, hperm, ⟨hstep, hok⟩ | ⟨r, hr, hlate⟩⟩ := h
  · refine ⟨times, hperm, ?_⟩
    by_cases hdue : ∀ r ∈ times, t ≤ r
    · exact .inl ⟨hstep.elapse ht hdue, hok⟩
    · -- the time of one of them has passed
      push Not at hdue
      exact .inr hdue
  · exact ⟨times, hperm, .inr ⟨r, hr, hlate.trans_le ht⟩⟩

theorem allow (h : InStepOrLate l ref t held) :
    InStepOrLate (l.allow t).2 (if (l.allow t).1 then (ref.allow t).2 else ref) t held := by
  obtain ⟨times, hperm, ⟨hstep, hok⟩ | hlate⟩ := h
  · refine ⟨times, hperm, .inl ⟨?_, hok⟩⟩
    rcases le_or_gt 1 (l.advance t) with hle | hlt
    · rw [if_pos ((Limiter.allow_eq_true_iff hstep.limit_pos).mpr hle)]
      exact hstep.allow hle
    · rw [Limiter.allow_of_lt hstep.limit_pos hlt]
      exact hstep
  · exact ⟨times, hperm, .inr hlate⟩

theorem reserve (h : InStepOrLate l ref t held) (i : ι) :
    InStepOrLate (l.reserve t).2 ref t ((i, (l.reserve t).1) :: held) := by
  obtain ⟨times, hperm, hcases⟩ := h
  refine ⟨(l.reserve t).1.timeToAct :: times, hperm.cons _, ?_⟩
  rcases hcases with ⟨hstep, hok⟩ | ⟨r, hr, hlate⟩
  · obtain ⟨hnew, hstep'⟩ := hstep.reserve
    exact .inl ⟨hstep', List.forall_mem_cons.mpr ⟨hnew, hok⟩⟩
  · exact .inr ⟨r, List.mem_cons_of_mem _ hr, hlate⟩

variable [DecidableEq ι]

theorem cancel (h : InStepOrLate l ref t held) {i : ι} {r : Reservation ℚ} (hmem : (i, r) ∈ held)
    (htime : t ≤ r.timeToAct) (hlatest : l.lastEvent = r.timeToAct) :
    InStepOrLate (l.cancel r t) ref t (held.erase (i, r)) := by
  obtain ⟨times, hperm, hcases⟩ := h
  have hsplit : times.Perm (r.timeToAct :: (held.erase (i, r)).map fun h => h.2.timeToAct) :=
    hperm.trans ((List.perm_cons_erase hmem).map _)
  have hin : r.timeToAct ∈ times := hsplit.mem_iff.mpr List.mem_cons_self
  refine ⟨times.erase r.timeToAct, ?_, ?_⟩
  · have herase := hsplit.erase r.timeToAct
    rw [List.erase_cons_head] at herase
    exact herase
  rcases hcases with ⟨hstep, hok⟩ | ⟨q, hq, hlate⟩
  · exact .inl ⟨hstep.cancel_erase hin (hok (i, r) hmem) hlatest, fun h hh => hok h (List.mem_of_mem_erase hh)⟩
  · -- the one that is late is another one
    have hne : q ≠ r.timeToAct := (hlate.trans_le htime).ne
    exact .inr ⟨q, (List.mem_erase_of_ne hne).mpr hq, hlate⟩

end InStepOrLate

/-- A step of one request. -/
theorem Holds.step [DecidableEq ι] {held held' : List (ι × Reservation ℚ)} (h : Holds c held)
    (hi : (c.threads i).prog = .call q k) (hnodup : held'.Nodup)
    (hself : ∀ r, heldIn (⟨q, (q.respond elapsed c.world).1⟩ :: (c.threads i).log) = some r ↔ (i, r) ∈ held')
    (hother : ∀ j r, j ≠ i → ((j, r) ∈ held' ↔ (j, r) ∈ held)) : Holds (c.step i elapsed) held' := by
  refine ⟨hnodup, fun j r => ?_⟩
  by_cases hij : j = i
  · subst hij
    rw [Pool.step_threads_self hi]
    exact hself r
  · rw [Pool.step_threads_of_ne hij, h.mem_iff j r]
    exact (hother j r hij).symm

/-- A step after which the request holds what it held. -/
theorem Holds.step_same [DecidableEq ι] {held : List (ι × Reservation ℚ)} (h : Holds c held)
    (hi : (c.threads i).prog = .call q k)
    (hsame : heldIn (⟨q, (q.respond elapsed c.world).1⟩ :: (c.threads i).log) = heldIn (c.threads i).log) :
    Holds (c.step i elapsed) held := by
  refine h.step hi h.nodup (fun r => ?_) fun _ _ _ => Iff.rfl
  rw [hsame]
  exact h.mem_iff i r

/-- **The invariant** of the interleaved requests. -/
def BudgetKept (ref : Limiter ℚ) (c : Pool limiterBackend ι Verdict) : Prop :=
  ∃ held, Holds c held ∧ InStepOrLate c.world.limiter ref c.world.now held

theorem admittedOnly_of_ne
    (hi : (c.threads i).prog = .call q k) (hq : q ≠ .allow) : admittedOnly c i elapsed ref = ref := by
  unfold admittedOnly
  rw [Pool.next?_of_call hi]
  cases q with
  | allow => exact absurd rfl hq
  | reserve => rfl
  | delay r => rfl
  | cancel r => rfl

/-- **One call** keeps the invariant. -/
theorem budgetKept_step [DecidableEq ι]
    (hi : (c.threads i).prog = .call q k) (hq : limitProtocol.request q (c.threads i).log)
    (hcancel : CancelsLatest c i elapsed) (h : BudgetKept ref c) :
    BudgetKept (admittedOnly c i elapsed ref) (c.step i elapsed) := by
  obtain ⟨held, hheld, hstep⟩ := h
  have hstep := hstep.elapse (le_add_of_nonneg_right (NNRat.coe_nonneg elapsed))
  unfold BudgetKept
  rw [Pool.step_world_of_call hi]
  cases q with
  | allow =>
    refine ⟨held, hheld.step_same hi (Eq.symm hq), ?_⟩
    unfold admittedOnly
    rw [Pool.next?_of_call hi]
    exact hstep.allow
  | reserve =>
    rw [admittedOnly_of_ne hi nofun]
    have hnone : ∀ r, (i, r) ∉ held := fun r hr => by
      rw [← hheld.mem_iff, show heldIn (c.threads i).log = none from hq] at hr
      cases hr
    refine ⟨_, hheld.step hi (List.nodup_cons.mpr ⟨hnone _, hheld.nodup⟩) (fun r => ?_) (fun j r hj => ?_),
      hstep.reserve i⟩
    · constructor
      · intro hr
        obtain rfl := Option.some.inj hr
        exact List.mem_cons_self
      · intro hr
        rcases List.mem_cons.mp hr with hr | hr
        · exact congrArg some (Prod.mk.inj hr).2.symm
        · exact absurd hr (hnone r)
    · rw [List.mem_cons]
      exact or_iff_right fun hr => hj (Prod.mk.inj hr).1
  | delay r =>
    rw [admittedOnly_of_ne hi nofun]
    exact ⟨held, hheld.step_same hi (Eq.symm hq), hstep⟩
  | cancel r =>
    rw [admittedOnly_of_ne hi nofun]
    unfold CancelsLatest at hcancel
    rw [Pool.next?_of_call hi] at hcancel
    obtain ⟨htime, hlatest⟩ := hcancel
    have hmem : (i, r) ∈ held := (hheld.mem_iff i r).mp hq
    refine ⟨held.erase (i, r), hheld.step hi (hheld.nodup.erase _) (fun r' => ?_) (fun j r' hj => ?_),
      hstep.cancel hmem htime hlatest⟩
    · -- it held nothing else
      constructor
      · intro hr
        cases hr
      · intro hr
        rw [hheld.nodup.mem_erase_iff, ← hheld.mem_iff, show heldIn (c.threads i).log = some r from hq] at hr
        exact absurd (congrArg (Prod.mk i) (Option.some.inj hr.2).symm) hr.1
    · exact List.mem_erase_of_ne fun hr => hj (Prod.mk.inj hr).1

/-- **A rejection costs nothing** if each reservation is cancelled in time and while it is the latest event. -/
theorem rejections_cost_nothing [DecidableEq ι] {l : Limiter ℚ} (hlimit : 0 < l.limit) (hburst : 1 ≤ l.burst)
    {now : ℚ} (hlast : l.last ≤ now) {schedule : List (ι × ℚ≥0)}
    (hfinished : ((concurrentRequests ι now l).run schedule).Finished)
    (hcancels : Pool.Along CancelsLatest (concurrentRequests ι now l) schedule) :
    SameBudget ((concurrentRequests ι now l).run schedule).world.now
      ((concurrentRequests ι now l).run schedule).world.limiter
      (Pool.ghost admittedOnly l (concurrentRequests ι now l) schedule) := by
  have hobeys : Pool.Obeys (fun _ => limitProtocol) (concurrentRequests ι now l) := fun _ => enforce_obeys
  have hstart : BudgetKept l (concurrentRequests ι now l) :=
    ⟨[], ⟨List.nodup_nil, fun _ _ => ⟨nofun, nofun⟩⟩, [], .nil, .inl ⟨.refl hlimit hburst hlast, nofun⟩⟩
  obtain ⟨held, hheld, times, hperm, hcases⟩ := Pool.ghost_invariant_along (I := BudgetKept)
    (fun c i elapsed ref hdone => by unfold admittedOnly; rw [hdone])
    (fun ref c i elapsed q k hi hq hcancel h => budgetKept_step hi hq hcancel h) hobeys hstart hcancels
  -- who has finished holds nothing
  have hnone : held = [] := by
    refine List.eq_nil_iff_forall_not_mem.mpr fun ⟨i, r⟩ hr => ?_
    obtain ⟨v, hv⟩ := Option.isSome_iff_exists.mp (hfinished i)
    have hresult : heldIn _ = none := (hobeys.run schedule).result hv
    rw [← hheld.mem_iff, hresult] at hr
    cases hr
  rw [hnone, List.map_nil, List.perm_nil] at hperm
  subst hperm
  rcases hcases with ⟨hstep, -⟩ | ⟨r, hr, -⟩
  · have hbalance := fun t (ht : _ ≤ t) => hstep.advance_eq ht
    refine ⟨hbalance, fun t ht => ?_⟩
    have hiff := Limiter.allow_eq_true_iff (t := t) hstep.limit_pos
    rw [hbalance t ht, ← Limiter.allow_eq_true_iff (by rw [hstep.limit_eq]; exact hstep.limit_pos)] at hiff
    exact Bool.eq_iff_iff.mpr hiff
  · cases hr

end Run

section Examples

/-- The limiter of a token endpoint whose tokens have all been taken. -/
def emptied : Limiter ℚ := { newLimiter (10 / 60) 10 with tokens := 0 }

/-- Two rejected requests. The second makes its reservation while that of the first is open, and gives it back
before. -/
def nested : List (Bool × ℚ≥0) :=
  [(false, 0), (true, 0), (false, 0), (false, 1), (true, 0), (true, 0), (true, 1), (false, 1)]

theorem rejections_cost_nothing_nested :
    ((concurrentRequests Bool 0 emptied).run nested).Finished ∧
      SameBudget ((concurrentRequests Bool 0 emptied).run nested).world.now
        ((concurrentRequests Bool 0 emptied).run nested).world.limiter
        (Pool.ghost admittedOnly emptied (concurrentRequests Bool 0 emptied) nested) := by
  have hfinished : ((concurrentRequests Bool 0 emptied).run nested).Finished := by
    show ∀ i, (((concurrentRequests Bool 0 emptied).run nested).result? i).isSome
    decide +kernel
  exact ⟨hfinished, rejections_cost_nothing (by decide +kernel) (by decide +kernel) (by decide +kernel) hfinished
    (by decide +kernel)⟩

/-- Two rejected requests. Both have reserved when the first one cancels. -/
def overlapping : List (Bool × ℚ≥0) :=
  [(false, 0), (true, 0), (false, 0), (true, 0), (false, 0), (true, 0), (false, 0), (true, 0)]

/-- A rejected request that comes to cancel a second after its reservation was due. -/
def tooLate : List (Unit × ℚ≥0) := [((), 0), ((), 0), ((), 0), ((), 7)]

/-- **Rejections cost tokens.** Of two overlapping reservations the first is not given back, so that a token is
missing, and a request six seconds later is rejected that would have been admitted. Nor is one given back whose
time has passed. -/
theorem two_rejections_cost_a_token :
    (((concurrentRequests Bool 0 emptied).run overlapping).Finished ∧
      ((concurrentRequests Bool 0 emptied).run overlapping).world.limiter.advance 0 = -1 ∧
      (Pool.ghost admittedOnly emptied (concurrentRequests Bool 0 emptied) overlapping).advance 0 = 0 ∧
      (((concurrentRequests Bool 0 emptied).run overlapping).world.limiter.allow 6).1 = false ∧
      ((Pool.ghost admittedOnly emptied (concurrentRequests Bool 0 emptied) overlapping).allow 6).1 = true) ∧
    ((concurrentRequests Unit 0 emptied).run tooLate).Finished ∧
      ((concurrentRequests Unit 0 emptied).run tooLate).world.limiter.advance 7 = 1 / 6 ∧
      (Pool.ghost admittedOnly emptied (concurrentRequests Unit 0 emptied) tooLate).advance 7 = 7 / 6 := by
  refine ⟨⟨?_, by decide +kernel, by decide +kernel, by decide +kernel, by decide +kernel⟩, ?_, by decide +kernel,
    by decide +kernel⟩
  · show ∀ i, (((concurrentRequests Bool 0 emptied).run overlapping).result? i).isSome
    decide +kernel
  · intro i
    cases i
    decide +kernel

end Examples

end GoauthServer
