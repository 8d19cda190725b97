import Mathlib.Data.Nat.Notation
import Mathlib.Logic.Function.Basic

/-!
# Programs over an effect signature

A service call is a sequence of requests to its surroundings (a database, a clock, a source of
randomness) with pure code in between. `Prog S α` is such a call as a value: it is finished, or it
waits for the reply to one request. The same value is read in three ways:

* `Prog.run` executes it alone, from the first request to the result;
* `Pool.step` (in `Framework/Interleaving.lean`) executes one request of one of many calls that
  share a world;
* `Prog.Obeys` says that on every path, whatever the replies, the requests and the result keep to
  a `Protocol`.

The surroundings are a `Backend`. A reply may depend on choices that no program controls (how much
time passed, which random bytes were drawn, whether the connection broke), so each request is
answered against a `Draw`, and `Backend.respond` is a function of it.

A protocol speaks about the *log* of a call, the requests it made with the replies it got, newest
first. It does not mention the world: that a call obeys its protocol is a fact about its text. What
the replies say about the world is proved once for the backend, and the two meet in the invariant
rules, `Prog.Obeys.run` for a call alone and `Pool.invariant` for interleaved calls: a property
of the world and of the logs that one request made within the protocol preserves is preserved by
a whole run.
-/

namespace Interact

/-- An effect signature: requests, and the type of the reply to each. -/
structure Signature where
  Req : Type
  Rep : Req → Type

/-- A program: a result, or a request together with what to do with its reply. -/
inductive Prog (S : Signature) (α : Type) : Type where
  | ret (a : α) : Prog S α
  | call (q : S.Req) (k : S.Rep q → Prog S α) : Prog S α

/-- One request and the reply it got. -/
abbrev Event (S : Signature) : Type := (q : S.Req) × S.Rep q

/-- The events of a call, newest first. -/
abbrev Log (S : Signature) : Type := List (Event S)

/-- What answers the requests. `respond` is deterministic in the draw. -/
structure Backend (S : Signature) where
  World : Type
  Draw : Type
  respond : (q : S.Req) → Draw → World → S.Rep q × World

variable {S : Signature} {α β : Type} {p : Prog S α} {log : Log S} {q : S.Req} {k : S.Rep q → Prog S α}

namespace Prog

/-- Sequential composition. -/
def bind : Prog S α → (α → Prog S β) → Prog S β
  | .ret a, f => f a
  | .call q k, f => .call q fun r => (k r).bind f

/-- Apply a function to the result. -/
def map (f : α → β) (p : Prog S α) : Prog S β :=
  p.bind fun a => .ret (f a)

@[simp] theorem bind_ret (a : α) (f : α → Prog S β) : (ret a : Prog S α).bind f = f a := rfl

@[simp] theorem bind_call (q : S.Req) (k : S.Rep q → Prog S α) (f : α → Prog S β) :
    (call q k).bind f = call q fun r => (k r).bind f := rfl

theorem bind_assoc {γ : Type} (p : Prog S α) (f : α → Prog S β) (g : β → Prog S γ) :
    (p.bind f).bind g = p.bind fun a => (f a).bind g := by
  induction p with
  | ret a => rfl
  | call q k ih => exact congrArg (call q) (funext fun r => ih r)

theorem map_map {γ : Type} (f : α → β) (g : β → γ) (p : Prog S α) : (p.map f).map g = p.map (g ∘ f) :=
  bind_assoc p _ _

/-- The result, once there is one. -/
def result? : Prog S α → Option α
  | .ret a => some a
  | .call _ _ => none

theorem result?_eq_some {a : α} (h : p.result? = some a) : p = ret a := by
  cases p with
  | ret b =>
    obtain rfl := Option.some.inj h
    rfl
  | call q k => cases h

/-- Execute a program alone: the `n`-th request is answered against the `n`-th draw. -/
def run (B : Backend S) : Prog S α → (ℕ → B.Draw) → B.World → α × B.World
  | .ret a, _, w => (a, w)
  | .call q k, ds, w =>
    let r := B.respond q (ds 0) w
    (k r.1).run B (fun n => ds (n + 1)) r.2

/-- The number of requests of the run. -/
def steps (B : Backend S) : Prog S α → (ℕ → B.Draw) → B.World → ℕ
  | .ret _, _, _ => 0
  | .call q k, ds, w =>
    let r := B.respond q (ds 0) w
    (k r.1).steps B (fun n => ds (n + 1)) r.2 + 1

/-- The events of the run, newest first, on top of those in `log`. -/
def trace (B : Backend S) : Prog S α → (ℕ → B.Draw) → B.World → Log S → Log S
  | .ret _, _, _, log => log
  | .call q k, ds, w, log =>
    let r := B.respond q (ds 0) w
    (k r.1).trace B (fun n => ds (n + 1)) r.2 (⟨q, r.1⟩ :: log)

/-- Every request of the run meets `P`. -/
def Along (B : Backend S) (P : (q : S.Req) → B.Draw → B.World → Prop) :
    Prog S α → (ℕ → B.Draw) → B.World → Prop
  | .ret _, _, _ => True
  | .call q k, ds, w =>
    let r := B.respond q (ds 0) w
    P q (ds 0) w ∧ (k r.1).Along B P (fun n => ds (n + 1)) r.2

instance decidableAlong {B : Backend S} {P : (q : S.Req) → B.Draw → B.World → Prop}
    [∀ q d w, Decidable (P q d w)] :
    (p : Prog S α) → (ds : ℕ → B.Draw) → (w : B.World) → Decidable (p.Along B P ds w)
  | .ret _, _, _ => .isTrue trivial
  | .call q k, ds, w =>
    have := decidableAlong (P := P) (k (B.respond q (ds 0) w).1) (fun n => ds (n + 1))
      (B.respond q (ds 0) w).2
    inferInstanceAs (Decidable (P q (ds 0) w ∧
      (k (B.respond q (ds 0) w).1).Along B P (fun n => ds (n + 1)) (B.respond q (ds 0) w).2))

section Run

variable {B : Backend S} {f : α → Prog S β} {g : α → β}

@[simp] theorem run_ret (a : α) (ds : ℕ → B.Draw) (w : B.World) :
    (ret a : Prog S α).run B ds w = (a, w) := rfl

theorem run_call (q : S.Req) (k : S.Rep q → Prog S α) (ds : ℕ → B.Draw) (w : B.World) :
    (call q k).run B ds w =
      (k (B.respond q (ds 0) w).1).run B (fun n => ds (n + 1)) (B.respond q (ds 0) w).2 := rfl

/-- Sequential composition: the second part runs where the first has ended. -/
theorem run_bind (p : Prog S α) (f : α → Prog S β) (ds : ℕ → B.Draw) (w : B.World) : (p.bind f).run B ds w =
      (f (p.run B ds w).1).run B (fun n => ds (n + p.steps B ds w)) (p.run B ds w).2 := by
  induction p generalizing ds w with
  | ret a => rfl
  | call q k ih => exact ih _ _ _

theorem steps_bind (p : Prog S α) (f : α → Prog S β) (ds : ℕ → B.Draw) (w : B.World) :
    (p.bind f).steps B ds w = p.steps B ds w +
      (f (p.run B ds w).1).steps B (fun n => ds (n + p.steps B ds w)) (p.run B ds w).2 := by
  induction p generalizing ds w with
  | ret a => exact (Nat.zero_add _).symm
  | call q k ih =>
    have hrest := ih (B.respond q (ds 0) w).1 (fun n => ds (n + 1)) (B.respond q (ds 0) w).2
    exact (congrArg (· + 1) hrest).trans (Nat.add_right_comm _ _ _)

/-- A second part that makes no request only changes the result. -/
theorem run_bind_ret (h : ∀ a, f a = .ret (g a)) (ds : ℕ → B.Draw) (w : B.World) :
    (p.bind f).run B ds w = (g (p.run B ds w).1, (p.run B ds w).2) := by
  induction p generalizing ds w with
  | ret a => rw [bind_ret, h a]; rfl
  | call q k ih => exact ih _ _ _

variable {P : (q : S.Req) → B.Draw → B.World → Prop}

theorem along_call (q : S.Req) (k : S.Rep q → Prog S α) (ds : ℕ → B.Draw) (w : B.World) :
    (call q k).Along B P ds w ↔ P q (ds 0) w ∧
      (k (B.respond q (ds 0) w).1).Along B P (fun n => ds (n + 1)) (B.respond q (ds 0) w).2 :=
  Iff.rfl

theorem along_of_forall (hP : ∀ q d w, P q d w) (p : Prog S α) (ds : ℕ → B.Draw) (w : B.World) :
    p.Along B P ds w := by
  induction p generalizing ds w with
  | ret a => trivial
  | call q k ih => exact ⟨hP _ _ _, ih _ _ _⟩

/-- A second part that makes no request does not matter for the requests. -/
theorem along_bind_ret (h : ∀ a, f a = .ret (g a))
    (ds : ℕ → B.Draw) (w : B.World) : (p.bind f).Along B P ds w ↔ p.Along B P ds w := by
  induction p generalizing ds w with
  | ret a =>
    rw [bind_ret, h a]
    exact Iff.rfl
  | call q k ih => exact and_congr_right fun _ => ih _ _ _

end Run

end Prog

/-! ### Protocols -/

/-- What a call may do: the requests it may make, and the results it may end with, after what it
has done. -/
structure Protocol (S : Signature) (α : Type) where
  request : S.Req → Log S → Prop
  result : α → Log S → Prop

/-- With `log` behind it, `p` keeps to the protocol on every path. -/
def Prog.Obeys (P : Protocol S α) : Prog S α → Log S → Prop
  | .ret a, log => P.result a log
  | .call q k, log => P.request q log ∧ ∀ r, (k r).Obeys P (⟨q, r⟩ :: log)

namespace Prog.Obeys

variable {P : Protocol S α} {B : Backend S} {C : (q : S.Req) → B.Draw → B.World → Prop}
  {J : Log S → B.World → Prop} {ds : ℕ → B.Draw} {w : B.World} {f : α → Prog S β} {Q : Protocol S α}

@[simp] theorem ret_iff {a : α} : (Prog.ret a).Obeys P log ↔ P.result a log := Iff.rfl

/-- **Sequential composition.** The first part hands over to the second. -/
theorem bind {P : Protocol S β}
    (h : p.Obeys ⟨P.request, fun a log => (f a).Obeys P log⟩ log) : (p.bind f).Obeys P log := by
  induction p generalizing log with
  | ret a => exact h
  | call q k ih => exact ⟨h.1, fun r => ih r (h.2 r)⟩

theorem mono {P P' : Protocol S α} (hreq : ∀ q log, P.request q log → P'.request q log)
    (hres : ∀ a log, P.result a log → P'.result a log) (h : p.Obeys P log) : p.Obeys P' log := by
  induction p generalizing log with
  | ret a => exact hres a log h
  | call q k ih => exact ⟨hreq q log h.1, fun r => ih r (h.2 r)⟩

/-- The protocol that allows everything. -/
theorem anything (p : Prog S α) (log : Log S) : p.Obeys ⟨fun _ _ => True, fun _ _ => True⟩ log := by
  induction p generalizing log with
  | ret a => trivial
  | call q k ih => exact ⟨trivial, fun r => ih r _⟩

/-- Two protocols at once. -/
theorem and {P P' : Protocol S α} (h : p.Obeys P log) (h' : p.Obeys P' log) :
    p.Obeys ⟨fun q log => P.request q log ∧ P'.request q log,
      fun a log => P.result a log ∧ P'.result a log⟩ log := by
  induction p generalizing log with
  | ret a => exact ⟨h, h'⟩
  | call q k ih => exact ⟨⟨h.1, h'.1⟩, fun r => ih r (h.2 r) (h'.2 r)⟩

/-- Sequential composition, where the first part has a protocol `Q` of its own. -/
theorem andThen {P : Protocol S β} (hp : p.Obeys Q log)
    (hreq : ∀ q log, Q.request q log → P.request q log) (hf : ∀ a log, Q.result a log → (f a).Obeys P log) :
    (p.bind f).Obeys P log :=
  bind (hp.mono hreq hf)

/-- **A run alone.** A property of the log and the world that one request within the protocol
preserves holds at the end of the run, where the result is as the protocol says. -/
theorem run_trace (hstep : ∀ q log d w, P.request q log → C q d w → J log w →
      J (⟨q, (B.respond q d w).1⟩ :: log) (B.respond q d w).2)
    (h : p.Obeys P log) (hC : p.Along B C ds w) (hJ : J log w) :
    P.result (p.run B ds w).1 (p.trace B ds w log) ∧ J (p.trace B ds w log) (p.run B ds w).2 := by
  induction p generalizing log ds w with
  | ret a => exact ⟨h, hJ⟩
  | call q k ih => exact ih _ (h.2 _) hC.2 (hstep q log (ds 0) w h.1 hC.1 hJ)

/-- The rule for a run alone, where the events of the run do not matter. -/
theorem run (hstep : ∀ q log d w, P.request q log → C q d w → J log w →
      J (⟨q, (B.respond q d w).1⟩ :: log) (B.respond q d w).2)
    (h : p.Obeys P log) (hC : p.Along B C ds w) (hJ : J log w) :
    ∃ log', P.result (p.run B ds w).1 log' ∧ J log' (p.run B ds w).2 :=
  ⟨p.trace B ds w log, run_trace hstep h hC hJ⟩

/-- **A run up to a point of no return.** As long as the requests meet `C` the run keeps `J`. The first
one that does not establishes `K`, and `K` stays. So at the end `J` holds and all requests met `C`, or `K`
holds and they did not. -/
theorem run_until {C₀ : (q : S.Req) → B.Draw → B.World → Prop} {K : B.World → Prop}
    (hgood : ∀ q log d w, P.request q log → C₀ q d w → C q d w → J log w →
      J (⟨q, (B.respond q d w).1⟩ :: log) (B.respond q d w).2)
    (hbad : ∀ q log d w, P.request q log → C₀ q d w → ¬ C q d w → J log w → K (B.respond q d w).2)
    (hstay : ∀ q log d w, P.request q log → K w → K (B.respond q d w).2)
    (h : p.Obeys P log) (hC₀ : p.Along B C₀ ds w) (hJ : J log w) :
    (p.Along B C ds w ∧ ∃ log', J log' (p.run B ds w).2) ∨ (¬ p.Along B C ds w ∧ K (p.run B ds w).2) := by
  induction p generalizing log ds w with
  | ret a => exact Or.inl ⟨trivial, log, hJ⟩
  | call q k ih =>
    by_cases hC : C q (ds 0) w
    · have hJ' := hgood q log (ds 0) w h.1 hC₀.1 hC hJ
      rcases ih _ (h.2 _) hC₀.2 hJ' with ⟨halong, hend⟩ | ⟨hnot, hend⟩
      · exact Or.inl ⟨⟨hC, halong⟩, hend⟩
      · exact Or.inr ⟨fun hall => hnot hall.2, hend⟩
    · -- from here on only `K` matters, for which every request may follow
      have hK := hbad q log (ds 0) w h.1 hC₀.1 hC hJ
      have hrest := run (C := fun _ _ _ => True) (J := fun _ w => K w)
        (fun q log d w hq _ => hstay q log d w hq) (h.2 (B.respond q (ds 0) w).1)
        (along_of_forall (fun _ _ _ => trivial) _ (fun n => ds (n + 1)) _) hK
      obtain ⟨_, _, hend⟩ := hrest
      exact Or.inr ⟨fun hall => hC hall.1, hend⟩

/-- A call whose result is only renamed. -/
theorem map {P : Protocol S β} {f : α → β}
    (hp : p.Obeys Q log) (hreq : ∀ q log, Q.request q log → P.request q log)
    (hres : ∀ a log, Q.result a log → P.result (f a) log) : (p.map f).Obeys P log :=
  hp.andThen hreq hres

end Prog.Obeys

/-! ### Programs that keep to a set of requests -/

/-- Every request of `p`, on every path, meets `R`. -/
def Prog.Only (R : S.Req → Prop) : Prog S α → Prop
  | .ret _ => True
  | .call q k => R q ∧ ∀ r, (k r).Only R

namespace Prog.Only

variable {R : S.Req → Prop}

theorem bind {f : α → Prog S β} (hp : p.Only R) (hf : ∀ a, (f a).Only R) : (p.bind f).Only R := by
  induction p with
  | ret a => exact hf a
  | call q k ih => exact ⟨hp.1, fun r => ih r (hp.2 r)⟩

theorem map (hp : p.Only R) (f : α → β) : (p.map f).Only R :=
  hp.bind fun _ => trivial

theorem mono {R' : S.Req → Prop} (h : ∀ q, R q → R' q) (hp : p.Only R) : p.Only R' := by
  induction p with
  | ret a => trivial
  | call q k ih => exact ⟨h q hp.1, fun r => ih r (hp.2 r)⟩

/-- Such a program obeys a protocol, if a property of the log that these requests preserve allows them
and any result. -/
theorem obeys_of_stable {G : Log S → Prop} (hG : ∀ q r log, R q → G log → G (⟨q, r⟩ :: log))
    (hreq : ∀ q log, R q → G log → P.request q log) (hres : ∀ a log, G log → P.result a log) (hp : p.Only R)
    (h : G log) : p.Obeys P log := by
  induction p generalizing log with
  | ret a => exact hres a log h
  | call q k ih => exact ⟨hreq q log hp.1 h, fun r => ih r (hp.2 r) (hG q r log hp.1 h)⟩

/-- Such a program obeys every protocol that allows these requests and any result. -/
theorem obeys (hreq : ∀ q log, R q → P.request q log)
    (hres : ∀ a log, P.result a log) (hp : p.Only R) (log : Log S) :
    p.Obeys P log :=
  hp.obeys_of_stable (G := fun _ => True) (fun _ _ _ _ _ => trivial) (fun q log hq _ => hreq q log hq)
    (fun a log _ => hres a log) trivial

end Prog.Only

end Interact
