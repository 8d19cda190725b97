import GoauthServer.Framework.Program

/-!
# Concurrent calls that share a world

A `Pool` is any number of calls, one for each element of an index type, over one world. A
*schedule* is a list of pairs `(i, d)`: call `i` makes its next request, answered against the draw
`d`. Every interleaving of the requests of the calls is a schedule, so a statement about all
schedules is a statement about all interleavings. A step of a call that has finished changes
nothing.

`Pool.invariant` is the induction rule of this file. Where every call obeys its protocol, a
property of pools that one request of one call preserves is preserved by every schedule;
the request is given with what the protocol says about it, and with any condition that all steps of
the schedule meet.
-/

namespace Interact

variable {S : Signature} {α ι : Type}

/-- A call in progress: what is left of its program, and what it has done. -/
structure Thread (S : Signature) (α : Type) where
  prog : Prog S α
  log : Log S

/-- A call that has not started. -/
def Thread.start (p : Prog S α) : Thread S α := ⟨p, []⟩

/-- The calls in progress and the world they share. -/
structure Pool (B : Backend S) (ι α : Type) where
  threads : ι → Thread S α
  world : B.World

namespace Pool

variable {B : Backend S} {c : Pool B ι α} {i : ι} {d : B.Draw} {ls : List (ι × B.Draw)} {q : S.Req}
  {k : S.Rep q → Prog S α} {P : Pool B ι α → ι → B.Draw → Prop}

/-- Calls that are about to start in the world `w`. -/
def start (p : ι → Prog S α) (w : B.World) : Pool B ι α := ⟨fun i => .start (p i), w⟩

/-- The result of call `i`, once it has finished. -/
def result? (c : Pool B ι α) (i : ι) : Option α := (c.threads i).prog.result?

/-- All calls have finished. -/
def Finished (c : Pool B ι α) : Prop := ∀ i, (c.result? i).isSome

/-- Call `i` has finished without an error. -/
def Succeeded {ε : Type} (c : Pool B ι (Except ε α)) (i : ι) : Prop :=
  ∃ a, c.result? i = some (.ok a)

instance {ε : Type} (c : Pool B ι (Except ε α)) (i : ι) : Decidable (c.Succeeded i) :=
  match h : c.result? i with
  | some (.ok a) => .isTrue ⟨a, h⟩
  | some (.error _) => .isFalse fun ⟨_, h'⟩ => by rw [h] at h'; cases h'
  | none => .isFalse fun ⟨_, h'⟩ => by rw [h] at h'; cases h'

/-- The next request of call `i`, if it has not finished. -/
def next? (c : Pool B ι α) (i : ι) : Option S.Req :=
  match (c.threads i).prog with
  | .ret _ => none
  | .call q _ => some q

theorem next?_of_call (h : (c.threads i).prog = .call q k) : c.next? i = some q := by
  unfold next?; rw [h]

theorem call_of_next? (h : c.next? i = some q) : ∃ k, (c.threads i).prog = .call q k := by
  unfold next? at h
  split at h
  · cases h
  · next q' k hprog =>
    obtain rfl := Option.some.inj h
    exact ⟨k, hprog⟩

variable [DecidableEq ι]

/-- Call `i` makes its next request. -/
def step (c : Pool B ι α) (i : ι) (d : B.Draw) : Pool B ι α :=
  match (c.threads i).prog with
  | .ret _ => c
  | .call q k =>
    { threads := Function.update c.threads i
        ⟨k (B.respond q d c.world).1, ⟨q, (B.respond q d c.world).1⟩ :: (c.threads i).log⟩
      world := (B.respond q d c.world).2 }

/-- Run a schedule. -/
def run (c : Pool B ι α) : List (ι × B.Draw) → Pool B ι α
  | [] => c
  | l :: ls => (c.step l.1 l.2).run ls

/-- Every step of the schedule meets `P`, in the pool before it. -/
def Along (P : Pool B ι α → ι → B.Draw → Prop) : Pool B ι α → List (ι × B.Draw) → Prop
  | _, [] => True
  | c, l :: ls => P c l.1 l.2 ∧ Along P (c.step l.1 l.2) ls

instance decidableAlong {P : Pool B ι α → ι → B.Draw → Prop} [∀ c i d, Decidable (P c i d)] :
    (c : Pool B ι α) → (ls : List (ι × B.Draw)) → Decidable (Along P c ls)
  | _, [] => .isTrue trivial
  | c, l :: ls =>
    have := decidableAlong (P := P) (c.step l.1 l.2) ls
    inferInstanceAs (Decidable (P c l.1 l.2 ∧ Along P (c.step l.1 l.2) ls))

@[simp] theorem run_nil (c : Pool B ι α) : c.run [] = c := rfl

@[simp] theorem run_cons (c : Pool B ι α) (l : ι × B.Draw) (ls : List (ι × B.Draw)) :
    c.run (l :: ls) = (c.step l.1 l.2).run ls := rfl

theorem run_append (c : Pool B ι α) (ls ls' : List (ι × B.Draw)) :
    c.run (ls ++ ls') = (c.run ls).run ls' := by
  induction ls generalizing c with
  | nil => rfl
  | cons l ls ih => exact ih _

theorem Along.mono {P P' : Pool B ι α → ι → B.Draw → Prop} (hP : ∀ c i d, P c i d → P' c i d)
    (h : Along P c ls) : Along P' c ls := by
  induction ls generalizing c with
  | nil => trivial
  | cons l ls ih => exact ⟨hP _ _ _ h.1, ih h.2⟩

theorem Along.and {P P' : Pool B ι α → ι → B.Draw → Prop} (h : Along P c ls) (h' : Along P' c ls) :
    Along (fun c i d => P c i d ∧ P' c i d) c ls := by
  induction ls generalizing c with
  | nil => trivial
  | cons l ls ih => exact ⟨⟨h.1, h'.1⟩, ih h.2 h'.2⟩

theorem along_of_forall (hP : ∀ c i d, P c i d) (c : Pool B ι α) (ls : List (ι × B.Draw)) : Along P c ls := by
  induction ls generalizing c with
  | nil => trivial
  | cons l ls ih => exact ⟨hP c l.1 l.2, ih _⟩

theorem along_append {ls ls' : List (ι × B.Draw)} :
    Along P c (ls ++ ls') ↔ Along P c ls ∧ Along P (c.run ls) ls' := by
  induction ls generalizing c with
  | nil => exact ⟨fun h => ⟨trivial, h⟩, fun h => h.2⟩
  | cons l ls ih => exact Iff.trans (and_congr_right fun _ => ih) and_assoc.symm

/-- Some step of the schedule meets `P`, in the pool before it. -/
def Somewhere (P : Pool B ι α → ι → B.Draw → Prop) (c : Pool B ι α) (ls : List (ι × B.Draw)) :
    Prop :=
  ∃ before l after, ls = before ++ l :: after ∧ P (c.run before) l.1 l.2

theorem along_not_of_not_somewhere (h : ¬ Somewhere P c ls) : Along (fun c i d => ¬ P c i d) c ls := by
  induction ls generalizing c with
  | nil => trivial
  | cons l ls ih =>
    refine ⟨fun hl => h ⟨[], l, ls, rfl, hl⟩, ih ?_⟩
    rintro ⟨before, l', after, rfl, hl'⟩
    exact h ⟨l :: before, l', after, rfl, hl'⟩

theorem step_of_ret {a : α} (h : (c.threads i).prog = .ret a) : c.step i d = c := by
  unfold step; rw [h]

theorem step_of_call (h : (c.threads i).prog = .call q k) : c.step i d =
      { threads := Function.update c.threads i
          ⟨k (B.respond q d c.world).1, ⟨q, (B.respond q d c.world).1⟩ :: (c.threads i).log⟩
        world := (B.respond q d c.world).2 } := by
  unfold step; rw [h]

theorem step_world_of_call (h : (c.threads i).prog = .call q k) :
    (c.step i d).world = (B.respond q d c.world).2 := by
  rw [step_of_call h]

theorem step_threads_self (h : (c.threads i).prog = .call q k) : (c.step i d).threads i =
      ⟨k (B.respond q d c.world).1, ⟨q, (B.respond q d c.world).1⟩ :: (c.threads i).log⟩ := by
  rw [step_of_call h]
  exact Function.update_self ..

theorem step_threads_of_ne {i j : ι} (hij : j ≠ i) : (c.step i d).threads j = c.threads j := by
  cases h : (c.threads i).prog with
  | ret a => rw [step_of_ret h]
  | call q k =>
    rw [step_of_call h]
    exact Function.update_of_ne hij ..

/-- What a log says once it keeps saying. -/
theorem step_log_mono {P : Log S → Prop} (hgrow : ∀ e log, P log → P (e :: log)) {i j : ι}
    (h : P (c.threads j).log) :
    P ((c.step i d).threads j).log := by
  by_cases hij : j = i
  · subst hij
    cases hj : (c.threads j).prog with
    | ret a => rw [step_of_ret hj]; exact h
    | call q k => rw [step_threads_self hj]; exact hgrow _ _ h
  · rw [step_threads_of_ne hij]
    exact h

theorem mem_log_step {i j : ι} {e : Event S} (h : e ∈ (c.threads j).log) : e ∈ ((c.step i d).threads j).log :=
  step_log_mono (P := fun log => e ∈ log) (fun e' _ h => List.mem_cons_of_mem e' h) h

/-- A property of the programs that every reply preserves is kept by a step. -/
theorem forall_prog_step {P : ι → Prog S α → Prop} (hP : ∀ i q k, P i (.call q k) → ∀ r, P i (k r))
    (h : ∀ j, P j (c.threads j).prog) :
    ∀ j, P j ((c.step i d).threads j).prog := by
  intro j
  by_cases hij : j = i
  · subst hij
    cases hj : (c.threads j).prog with
    | ret a =>
      rw [step_of_ret hj]
      exact h j
    | call q k =>
      have hcall := h j
      rw [hj] at hcall
      rw [step_threads_self hj]
      exact hP j q k hcall _
  · rw [step_threads_of_ne hij]
    exact h j

/-- A finished call stays finished, with the same result. -/
theorem step_result? {i j : ι} {a : α} (h : c.result? j = some a) : (c.step i d).result? j = some a := by
  have hret := Prog.result?_eq_some h
  by_cases hij : j = i
  · subst hij
    rw [step_of_ret hret]
    exact h
  · unfold result?
    rw [step_threads_of_ne hij]
    exact h

end Pool

/-! ### The invariant rule -/

namespace Pool

variable {B : Backend S} {c : Pool B ι α} {i : ι} {d : B.Draw} {ls : List (ι × B.Draw)} {q : S.Req}
  {k : S.Rep q → Prog S α} {P : ι → Protocol S α} {I : Pool B ι α → Prop}
  {C : Pool B ι α → ι → B.Draw → Prop}

/-- Every call keeps to its protocol from here on. -/
def Obeys (P : ι → Protocol S α) (c : Pool B ι α) : Prop :=
  ∀ i, (c.threads i).prog.Obeys (P i) (c.threads i).log

theorem Obeys.start {p : ι → Prog S α} (h : ∀ i, (p i).Obeys (P i) [])
    (w : B.World) : Obeys P (Pool.start p w) := h

theorem Obeys.request (h : Obeys P c) (hi : (c.threads i).prog = .call q k) :
    (P i).request q (c.threads i).log := by
  have hp := h i
  rw [hi] at hp
  exact hp.1

/-- The result of a finished call is as its protocol says. -/
theorem Obeys.result (h : Obeys P c) {a : α} (hi : c.result? i = some a) : (P i).result a (c.threads i).log := by
  have hp := h i
  rw [Prog.result?_eq_some hi] at hp
  exact hp

variable [DecidableEq ι]

theorem Obeys.step (h : Obeys P c) (i : ι) (d : B.Draw) : Obeys P (c.step i d) := by
  cases hi : (c.threads i).prog with
  | ret a => rw [step_of_ret hi]; exact h
  | call q k =>
    intro j
    by_cases hij : j = i
    · subst hij
      rw [step_threads_self hi]
      have hp := h j
      rw [hi] at hp
      exact hp.2 _
    · rw [step_threads_of_ne hij]
      exact h j

theorem Obeys.run (h : Obeys P c) (ls : List (ι × B.Draw)) : Obeys P (c.run ls) := by
  induction ls generalizing c with
  | nil => exact h
  | cons l ls ih => exact ih (h.step l.1 l.2)

/-- A property of each call's log and the world is kept by a step, if the call that moves keeps it
and the step does no harm to the others. -/
theorem forall_log_step {J : ι → Log S → B.World → Prop} (hi : (c.threads i).prog = .call q k)
    (hself : J i (c.threads i).log c.world →
      J i (⟨q, (B.respond q d c.world).1⟩ :: (c.threads i).log) (B.respond q d c.world).2)
    (hother : ∀ j, j ≠ i → J j (c.threads j).log c.world → J j (c.threads j).log (B.respond q d c.world).2)
    (h : ∀ j, J j (c.threads j).log c.world) :
    ∀ j, J j ((c.step i d).threads j).log (c.step i d).world := by
  intro j
  rw [step_world_of_call hi]
  by_cases hij : j = i
  · subst hij
    rw [step_threads_self hi]
    exact hself (h j)
  · rw [step_threads_of_ne hij]
    exact hother j hij (h j)

/-- **The invariant rule.** A property of pools that holds at the start, and that one
request of one call preserves, holds after every schedule whose steps meet `C`. -/
theorem invariant (hstep : ∀ c i d q k, (c.threads i).prog = .call q k → (P i).request q (c.threads i).log →
      C c i d → I c → I (c.step i d)) (h : Obeys P c) (hI : I c)
    (hC : Along C c ls) : I (c.run ls) := by
  induction ls generalizing c with
  | nil => exact hI
  | cons l ls ih =>
    refine ih (h.step l.1 l.2) ?_ hC.2
    cases hi : (c.threads l.1).prog with
    | ret a => rw [step_of_ret hi]; exact hI
    | call q k => exact hstep c l.1 l.2 q k hi (h.request hi) hC.1 hI

/-- **What holds at every step.** Where the invariant says that a step with `C` has `Q`, every step of the
schedule has `Q`. -/
theorem along_of_invariant {C Q : Pool B ι α → ι → B.Draw → Prop}
    (hstep : ∀ c i d q k, (c.threads i).prog = .call q k → (P i).request q (c.threads i).log →
      C c i d → I c → I (c.step i d))
    (hQ : ∀ c i d, Obeys P c → C c i d → I c → Q c i d) (h : Obeys P c) (hI : I c)
    (hC : Along C c ls) : Along Q c ls := by
  induction ls generalizing c with
  | nil => trivial
  | cons l ls ih =>
    have hone : Along C c [l] := ⟨hC.1, trivial⟩
    exact ⟨hQ c l.1 l.2 h hC.1 hI, ih (h.step l.1 l.2) (invariant hstep h hI hone) hC.2⟩

/-- The rule where no condition on the steps is needed. -/
theorem invariant_of_step
    (hstep : ∀ c i d q k, (c.threads i).prog = .call q k → (P i).request q (c.threads i).log →
      I c → I (c.step i d)) (h : Obeys P c) (hI : I c) (ls : List (ι × B.Draw)) : I (c.run ls) :=
  invariant (C := fun _ _ _ => True) (fun c i d q k hi hq _ => hstep c i d q k hi hq) h hI
    (along_of_forall (fun _ _ _ => trivial) c ls)

/-- **What a protocol asks of a request** stays true of its event, if a longer log does no harm to it. -/
theorem forall_events {G : ι → S.Req → Log S → Prop} (hP : ∀ i q log, (P i).request q log → G i q log)
    (hgrow : ∀ i q e log, G i q log → G i q (e :: log)) (h : Obeys P c)
    (hG : ∀ i, ∀ e ∈ (c.threads i).log, G i e.1 (c.threads i).log) (ls : List (ι × B.Draw)) :
    ∀ i, ∀ e ∈ ((c.run ls).threads i).log, G i e.1 ((c.run ls).threads i).log := by
  refine invariant_of_step (I := fun c => ∀ i, ∀ e ∈ (c.threads i).log, G i e.1 (c.threads i).log) ?_ h hG ls
  intro c i d q k hi hq hI
  refine forall_log_step (J := fun i log _ => ∀ e ∈ log, G i e.1 log) hi ?_ (fun _ _ h => h) hI
  intro hself e he
  rcases List.mem_cons.mp he with rfl | he
  · exact hgrow _ _ _ _ (hP i q _ hq)
  · exact hgrow _ _ _ _ (hself e he)

/-! ### Ghost variables -/

variable {σ : Type}

/-- A ghost variable: a value that is computed along the schedule, from the pool before each step. -/
def ghost (g : Pool B ι α → ι → B.Draw → σ → σ) : σ → Pool B ι α → List (ι × B.Draw) → σ
  | s, _, [] => s
  | s, c, l :: ls => ghost g (g c l.1 l.2 s) (c.step l.1 l.2) ls

theorem ghost_append (g : Pool B ι α → ι → B.Draw → σ → σ) (s : σ) (c : Pool B ι α)
    (ls ms : List (ι × B.Draw)) :
    ghost g s c (ls ++ ms) = ghost g (ghost g s c ls) (c.run ls) ms := by
  induction ls generalizing s c with
  | nil => rfl
  | cons l ls ih => exact ih _ _

/-- **The rule for ghost variables.** What every step that meets `C` preserves about the variable and the pool
holds at the end of the schedule. A step of a call that has finished is to leave the variable alone. -/
theorem ghost_invariant_along {g : Pool B ι α → ι → B.Draw → σ → σ}
    {I : σ → Pool B ι α → Prop} (hdone : ∀ c i d s, c.next? i = none → g c i d s = s)
    (hstep : ∀ s c i d q k, (c.threads i).prog = .call q k → (P i).request q (c.threads i).log →
      C c i d → I s c → I (g c i d s) (c.step i d))
    (h : Obeys P c) {s : σ} (hI : I s c) (hC : Along C c ls) :
    I (ghost g s c ls) (c.run ls) := by
  induction ls generalizing c s with
  | nil => exact hI
  | cons l ls ih =>
    refine ih (h.step l.1 l.2) ?_ hC.2
    cases hi : (c.threads l.1).prog with
    | ret a =>
      have hnext : c.next? l.1 = none := by
        unfold next?
        rw [hi]
      rw [step_of_ret hi, hdone c l.1 l.2 s hnext]
      exact hI
    | call q k => exact hstep s c l.1 l.2 q k hi (h.request hi) hC.1 hI

/-- The rule where no condition on the steps is needed. -/
theorem ghost_invariant {g : Pool B ι α → ι → B.Draw → σ → σ}
    {I : σ → Pool B ι α → Prop} (hdone : ∀ c i d s, c.next? i = none → g c i d s = s)
    (hstep : ∀ s c i d q k, (c.threads i).prog = .call q k → (P i).request q (c.threads i).log →
      I s c → I (g c i d s) (c.step i d)) (h : Obeys P c) {s : σ} (hI : I s c) (ls : List (ι × B.Draw)) :
    I (ghost g s c ls) (c.run ls) :=
  ghost_invariant_along (C := fun _ _ _ => True) hdone
    (fun s c i d q k hi hq _ => hstep s c i d q k hi hq) h hI (along_of_forall (fun _ _ _ => trivial) c ls)

/-- A ghost variable and the pool are related by `Q` at every point of the schedule. -/
def Tracks (g : Pool B ι α → ι → B.Draw → σ → σ) (Q : σ → Pool B ι α → Prop) (s : σ) (c : Pool B ι α)
    (ls : List (ι × B.Draw)) : Prop :=
  ∀ before, before <+: ls → Q (ghost g s c before) (c.run before)

theorem tracks_nil {g : Pool B ι α → ι → B.Draw → σ → σ} {Q : σ → Pool B ι α → Prop} {s : σ} :
    Tracks g Q s c [] ↔ Q s c := by
  constructor
  · exact fun h => h [] List.nil_prefix
  · intro h before hbefore
    obtain rfl := List.prefix_nil.mp hbefore
    exact h

theorem tracks_cons {g : Pool B ι α → ι → B.Draw → σ → σ} {Q : σ → Pool B ι α → Prop} {s : σ} {l : ι × B.Draw} :
    Tracks g Q s c (l :: ls) ↔ Q s c ∧ Tracks g Q (g c l.1 l.2 s) (c.step l.1 l.2) ls := by
  constructor
  · intro h
    refine ⟨h [] List.nil_prefix, fun before hbefore => ?_⟩
    exact h (l :: before) ((List.prefix_cons_inj l).mpr hbefore)
  · rintro ⟨hc, h⟩ before hbefore
    rcases List.prefix_cons_iff.mp hbefore with rfl | ⟨rest, rfl, hrest⟩
    · exact hc
    · exact h rest hrest

/-- What holds at every point holds at the first one. -/
theorem Tracks.start {g : Pool B ι α → ι → B.Draw → σ → σ} {Q : σ → Pool B ι α → Prop} {s : σ}
    (h : Tracks g Q s c ls) : Q s c :=
  h [] List.nil_prefix

end Pool

end Interact
