import GoauthServer.Framework.Program

/-!
# Two runs side by side

A relation between two runs that are answered against the same draws, one request at a time. Each of the two
programs has a world of its own, and the requests and replies of a pair of steps may differ.
`p.Lockstep B Q p' w w'` says that, whatever the draws, the two make the same number of requests and end in
results and worlds that `Q` relates. The rules follow the text of the programs, as those of
`Framework/Hoare.lean` do for one run.

Where both programs are one and the same, and each of its requests gets the same reply in worlds that `R`
relates, the results are equal (`Lockstep.of_only`). The replies that the program ignores may differ
(`Lockstep.of_reactsTo`).

`p.Alike B C Q p' w w'` is weaker: the runs against the same draws end as `Q` says, if each request of the first
one meets `C`, and one of them may go on for a while after the other has ended.

The last part is about one program and two replies to one of its requests. `p.Insensitive R f` says that after
replies that `R` relates the rest of the program is the same, as far as `f` shows its result.
-/

namespace Interact

variable {S : Signature} {B : Backend S} {α β γ δ : Type} {p : Prog S α} {p' : Prog S β} {q : S.Req}
  {k : S.Rep q → Prog S α} {R : γ → B.World → δ → B.World → Prop}

namespace Prog

/-- Each request of `p` meets `C`, or it meets `I` and `p` goes on in the same way after every reply. -/
def ReactsTo (C I : S.Req → Prop) : Prog S α → Prop
  | .ret _ => True
  | .call q k => (C q ∨ I q ∧ ∀ r r', k r = k r') ∧ ∀ r, (k r).ReactsTo C I

namespace ReactsTo

variable {C I : S.Req → Prop}

theorem of_only (hp : p.Only C) : p.ReactsTo C I := by
  induction p with
  | ret a => trivial
  | call q k ih => exact ⟨Or.inl hp.1, fun r => ih r (hp.2 r)⟩

theorem only (hp : p.ReactsTo C I) : p.Only fun q => C q ∨ I q := by
  induction p with
  | ret a => trivial
  | call q k ih => exact ⟨hp.1.imp id And.left, fun r => ih r (hp.2 r)⟩

theorem bind {f : α → Prog S β} (hp : p.ReactsTo C I) (hf : ∀ a, (f a).ReactsTo C I) :
    (p.bind f).ReactsTo C I := by
  induction p with
  | ret a => exact hf a
  | call q k ih =>
    refine ⟨hp.1.imp id fun h => ⟨h.1, fun r r' => ?_⟩, fun r => ih r (hp.2 r)⟩
    exact congrArg (Prog.bind · f) (h.2 r r')

theorem map (hp : p.ReactsTo C I) (f : α → β) : (p.map f).ReactsTo C I :=
  hp.bind fun _ => trivial

end ReactsTo

/-- The two programs, answered request by request against the same draws, end as `Q` says. -/
def Lockstep (B : Backend S) (Q : α → B.World → β → B.World → Prop) :
    Prog S α → Prog S β → B.World → B.World → Prop
  | .ret a, .ret b, w, w' => Q a w b w'
  | .call q k, .call q' k', w, w' =>
    ∀ d, (k (B.respond q d w).1).Lockstep B Q (k' (B.respond q' d w').1) (B.respond q d w).2
      (B.respond q' d w').2
  | _, _, _, _ => False

namespace Lockstep

variable {Q : α → B.World → β → B.World → Prop} {w w' : B.World}

theorem ret {a : α} {b : β} (h : Q a w b w') : (Prog.ret a : Prog S α).Lockstep B Q (.ret b) w w' := h

theorem call {q' : S.Req} {k' : S.Rep q' → Prog S β}
    (h : ∀ d, (k (B.respond q d w).1).Lockstep B Q (k' (B.respond q' d w').1) (B.respond q d w).2
      (B.respond q' d w').2) :
    (Prog.call q k).Lockstep B Q (.call q' k') w w' := h

theorem mono {Q' : α → B.World → β → B.World → Prop} (hQ : ∀ a w b w', Q a w b w' → Q' a w b w')
    (h : p.Lockstep B Q p' w w') : p.Lockstep B Q' p' w w' := by
  induction p generalizing p' w w' with
  | ret a =>
    cases p' with
    | ret b => exact hQ a w b w' h
    | call q' k' => exact h
  | call q k ih =>
    cases p' with
    | ret b => exact h
    | call q' k' => exact fun d => ih _ (h d)

/-- **Sequential composition.** The first parts hand over to the second. -/
theorem bind {f : α → Prog S γ}
    {f' : β → Prog S δ} (h : p.Lockstep B (fun a w b w' => (f a).Lockstep B R (f' b) w w') p' w w') :
    (p.bind f).Lockstep B R (p'.bind f') w w' := by
  induction p generalizing p' w w' with
  | ret a =>
    cases p' with
    | ret b => exact h
    | call q' k' => exact h.elim
  | call q k ih =>
    cases p' with
    | ret b => exact h.elim
    | call q' k' => exact fun d => ih _ (h d)

theorem map {f : α → γ} {f' : β → δ} (h : p.Lockstep B (fun a w b w' => R (f a) w (f' b) w') p' w w') :
    (p.map f).Lockstep B R (p'.map f') w w' := bind h

/-- **The runs.** -/
theorem run (h : p.Lockstep B Q p' w w') (ds : ℕ → B.Draw) :
    Q (p.run B ds w).1 (p.run B ds w).2 (p'.run B ds w').1 (p'.run B ds w').2 := by
  induction p generalizing p' w w' ds with
  | ret a =>
    cases p' with
    | ret b => exact h
    | call q' k' => exact h.elim
  | call q k ih =>
    cases p' with
    | ret b => exact h.elim
    | call q' k' => exact ih _ (h (ds 0)) _

/-- **One program in two worlds.** If the requests whose replies it looks at get the same replies in worlds that
`R` relates, and all its requests keep `R`, the results are equal. -/
theorem of_reactsTo {C I : S.Req → Prop} {R : B.World → B.World → Prop}
    (hC : ∀ q d w w', C q → R w w' → (B.respond q d w).1 = (B.respond q d w').1 ∧
      R (B.respond q d w).2 (B.respond q d w').2)
    (hI : ∀ q d w w', I q → R w w' → R (B.respond q d w).2 (B.respond q d w').2) (hp : p.ReactsTo C I)
    (h : R w w') :
    p.Lockstep B (fun a w b w' => a = b ∧ R w w') p w w' := by
  induction p generalizing w w' with
  | ret a => exact ⟨rfl, h⟩
  | call q k ih =>
    intro d
    rcases hp.1 with hq | ⟨hq, hignores⟩
    · obtain ⟨hreply, hR'⟩ := hC q d w w' hq h
      rw [← hreply]
      exact ih _ (hp.2 _) hR'
    · -- the replies may differ, but the rest of the program does not
      rw [hignores (B.respond q d w').1 (B.respond q d w).1]
      exact ih _ (hp.2 _) (hI q d w w' hq h)

/-- One program, all of whose requests get the same replies. -/
theorem of_only {C : S.Req → Prop} {R : B.World → B.World → Prop}
    (hR : ∀ q d w w', C q → R w w' → (B.respond q d w).1 = (B.respond q d w').1 ∧
      R (B.respond q d w).2 (B.respond q d w').2) (hp : p.Only C) (h : R w w') :
    p.Lockstep B (fun a w b w' => a = b ∧ R w w') p w w' :=
  of_reactsTo (I := fun _ => False) hR (fun _ _ _ _ hq => hq.elim) (.of_only hp) h

end Lockstep

/-! ### Runs that end alike -/

/-- Answered against the same draws, the two programs end as `Q` says, if each request of the first meets `C`.
They need not make the same number of requests. -/
def Alike (B : Backend S) (C : (q : S.Req) → B.Draw → B.World → Prop)
    (Q : α → B.World → β → B.World → Prop) (p : Prog S α) (p' : Prog S β) (w w' : B.World) : Prop :=
  ∀ ds, p.Along B C ds w →
    Q (p.run B ds w).1 (p.run B ds w).2 (p'.run B ds w').1 (p'.run B ds w').2

namespace Alike

variable {C : (q : S.Req) → B.Draw → B.World → Prop} {Q : α → B.World → β → B.World → Prop}
  {w w' : B.World} {f : α → Prog S γ} {f' : β → Prog S δ}

theorem ret {a : α} {b : β} (h : Q a w b w') :
    (Prog.ret a : Prog S α).Alike B C Q (.ret b) w w' := fun _ _ => h

/-- A request of both. -/
theorem call {q' : S.Req} {k' : S.Rep q' → Prog S β}
    (h : ∀ d, C q d w → (k (B.respond q d w).1).Alike B C Q (k' (B.respond q' d w').1)
      (B.respond q d w).2 (B.respond q' d w').2) :
    (Prog.call q k).Alike B C Q (.call q' k') w w' :=
  fun ds halong => h (ds 0) halong.1 _ halong.2

theorem of_lockstep (h : p.Lockstep B Q p' w w') : p.Alike B C Q p' w w' := fun ds _ => h.run ds

/-- A request of the first program alone. -/
theorem call_left {b : β}
    (h : ∀ d, C q d w → (k (B.respond q d w).1).Alike B C Q (.ret b) (B.respond q d w).2 w') :
    (Prog.call q k).Alike B C Q (.ret b) w w' :=
  fun ds halong => h (ds 0) halong.1 _ halong.2

/-- Two programs whose requests, on either side, keep `J`. -/
theorem of_only {R : S.Req → Prop} {J : B.World → B.World → Prop}
    (hleft : ∀ q d w w', R q → J w w' → J (B.respond q d w).2 w')
    (hright : ∀ q d w w', R q → J w w' → J w (B.respond q d w').2) (hp : p.Only R) (hp' : p'.Only R)
    (h : J w w') :
    p.Alike B C (fun _ w _ w' => J w w') p' w w' := by
  intro ds halong
  clear halong
  have hfirst : J (p.run B ds w).2 w' := by
    induction p generalizing w ds with
    | ret a => exact h
    | call q k ih => exact ih _ (hp.2 _) (hleft q (ds 0) w w' hp.1 h) _
  clear h
  generalize (p.run B ds w).2 = v at hfirst ⊢
  induction p' generalizing w' ds with
  | ret b => exact hfirst
  | call q k ih => exact ih _ (hp'.2 _) _ (hright q (ds 0) v w' hp'.1 hfirst)

theorem mono {Q' : α → B.World → β → B.World → Prop} (hQ : ∀ a w b w', Q a w b w' → Q' a w b w')
    (h : p.Alike B C Q p' w w') : p.Alike B C Q' p' w w' :=
  fun ds halong => hQ _ _ _ _ (h ds halong)

/-- **Sequential composition**, where the first parts keep step. -/
theorem bind (h : p.Lockstep B (fun a w b w' => (f a).Alike B C R (f' b) w w') p' w w') :
    (p.bind f).Alike B C R (p'.bind f') w w' := by
  induction p generalizing p' w w' with
  | ret a =>
    cases p' with
    | ret b => exact h
    | call q' k' => exact h.elim
  | call q k ih =>
    cases p' with
    | ret b => exact h.elim
    | call q' k' => exact call fun d _ => ih _ (h d)

/-- Second parts that make no request only change the results. -/
theorem bind_ret {g : α → γ} {g' : β → δ} (hf : ∀ a, f a = .ret (g a))
    (hf' : ∀ b, f' b = .ret (g' b)) (h : p.Alike B C (fun a w b w' => R (g a) w (g' b) w') p' w w') :
    (p.bind f).Alike B C R (p'.bind f') w w' := by
  intro ds halong
  rw [along_bind_ret hf] at halong
  rw [run_bind_ret hf, run_bind_ret hf']
  exact h ds halong

theorem map {f : α → γ} {f' : β → δ} (h : p.Alike B C (fun a w b w' => R (f a) w (f' b) w') p' w w') :
    (p.map f).Alike B C R (p'.map f') w w' := h.bind_ret (fun _ => rfl) fun _ => rfl

end Alike

/-! ### Replies that make no difference -/

/-- The rest of the program is the same after replies that `R` relates, up to `f` of the result. -/
def Insensitive (R : (q : S.Req) → S.Rep q → S.Rep q → Prop) (f : α → β) : Prog S α → Prop
  | .ret _ => True
  | .call q k => (∀ r r', R q r r' → (k r).map f = (k r').map f) ∧ ∀ r, (k r).Insensitive R f

namespace Insensitive

variable {R : (q : S.Req) → S.Rep q → S.Rep q → Prop} {f : α → β}

/-- A program without requests that `R` is about. -/
theorem of_only {C : S.Req → Prop} (hR : ∀ q r r', C q → ¬ R q r r') (hp : p.Only C) : p.Insensitive R f := by
  induction p with
  | ret a => trivial
  | call q k ih => exact ⟨fun r r' h => absurd h (hR q r r' hp.1), fun r => ih r (hp.2 r)⟩

theorem map {g : γ → α} {p : Prog S γ} (h : p.Insensitive R (f ∘ g)) : (p.map g).Insensitive R f := by
  induction p with
  | ret c => trivial
  | call q k ih =>
    refine ⟨fun r r' hr => ?_, fun r => ih r (h.2 r)⟩
    show ((k r).map g).map f = ((k r').map g).map f
    rw [map_map, map_map]
    exact h.1 r r' hr

end Insensitive

end Prog

end Interact
