import GoauthServer.Framework.Program

/-!
# Postconditions of runs

Rules for the result of a program that runs alone. `Prog.Ensures B C p Q w` says that from the world `w`
every run of `p` whose requests all meet `C` ends with a result and a world that meet `Q`. The rules follow
the text of the program: `ret`, `call` and `bind`. They do not mention the draws of the run, only the draw of
the request at hand.
-/

namespace Interact

variable {S : Signature} {α β : Type} {B : Backend S}

namespace Prog

/-- Every run from `w` whose requests all meet `C` ends as `Q` says. -/
def Ensures (B : Backend S) (C : (q : S.Req) → B.Draw → B.World → Prop) (p : Prog S α)
    (Q : α → B.World → Prop) (w : B.World) : Prop :=
  ∀ ds, p.Along B C ds w → Q (p.run B ds w).1 (p.run B ds w).2

namespace Ensures

variable {C : (q : S.Req) → B.Draw → B.World → Prop} {w : B.World} {p : Prog S α}
  {Q : α → B.World → Prop}

theorem ret {a : α} (h : Q a w) : (Prog.ret a : Prog S α).Ensures B C Q w := fun _ _ => h

theorem call {q : S.Req} {k : S.Rep q → Prog S α}
    (h : ∀ d, C q d w → (k (B.respond q d w).1).Ensures B C Q (B.respond q d w).2) :
    (Prog.call q k).Ensures B C Q w := by
  intro ds halong
  exact h (ds 0) halong.1 (fun n => ds (n + 1)) halong.2

/-- **Sequential composition.** -/
theorem bind {f : α → Prog S β} {Q : β → B.World → Prop}
    (h : p.Ensures B C (fun a w' => (f a).Ensures B C Q w') w) : (p.bind f).Ensures B C Q w := by
  induction p generalizing w with
  | ret a =>
    intro ds halong
    exact h ds trivial ds halong
  | call q k ih =>
    refine call fun d hd => ih _ ?_
    -- a run of the rest, with the draw of the first request put in front
    intro ds halong
    exact h (fun n => n.casesOn d ds) ⟨hd, halong⟩

/-- Where nothing is asked of the requests, every run ends as `Q` says. -/
theorem run
    (h : p.Ensures B (fun _ _ _ => True) Q w) (ds : ℕ → B.Draw) : Q (p.run B ds w).1 (p.run B ds w).2 :=
  h ds (along_of_forall (fun _ _ _ => trivial) p ds w)

theorem map {f : α → β} {Q : β → B.World → Prop}
    (h : p.Ensures B C (fun a w' => Q (f a) w') w) : (p.map f).Ensures B C Q w :=
  bind fun ds halong => ret (h ds halong)

theorem mono {Q Q' : α → B.World → Prop} (h : p.Ensures B C Q w)
    (hQ : ∀ a w', Q a w' → Q' a w') : p.Ensures B C Q' w :=
  fun ds halong => hQ _ _ (h ds halong)

end Ensures

end Prog

end Interact
