import Mathlib.Logic.Basic

/-!
# Exclusive ownership

`H k x` says that `x` holds the thing `k`. It is *exclusive* if nothing has two holders. Three
steps keep it so: holders let go (`Exclusive.mono`), a holder hands a thing over to a new one
(`Exclusive.handOver`), and something that has no holder gets its first one (`Exclusive.add`).

`AppendedOnce` is what exclusive ownership is used for: of the parties that may append to a list,
at most one has done so, and once.
-/

namespace Interact

variable {κ X : Type}

/-- Nothing has two holders. -/
def Exclusive (H : κ → X → Prop) : Prop := ∀ k x y, H k x → H k y → x = y

namespace Exclusive

variable {H H' : κ → X → Prop}

theorem mono (h : Exclusive H) (hsub : ∀ k z, H' k z → H k z) : Exclusive H' :=
  fun k x y hx hy => h k x y (hsub k x hx) (hsub k y hy)

/-- What `x` held, `y` may hold from now on, and `x` holds nothing any more. -/
theorem handOver (h : Exclusive H) (x y : X)
    (hstep : ∀ k z, H' k z → H k z ∧ z ≠ x ∨ z = y ∧ H k x) : Exclusive H' := by
  intro k z z' hz hz'
  rcases hstep k z hz with ⟨hk, hne⟩ | ⟨rfl, hk⟩
  · rcases hstep k z' hz' with ⟨hk', _⟩ | ⟨_, hk'⟩
    · exact h k z z' hk hk'
    · exact absurd (h k z x hk hk') hne
  · rcases hstep k z' hz' with ⟨hk', hne⟩ | ⟨rfl, _⟩
    · exact absurd (h k z' x hk' hk) hne
    · rfl

/-- A thing that nobody held gets a holder. -/
theorem add (h : Exclusive H) (k₀ : κ) (y : X) (hfree : ∀ z, ¬ H k₀ z)
    (hstep : ∀ k z, H' k z → H k z ∨ k = k₀ ∧ z = y) : Exclusive H' := by
  intro k z z' hz hz'
  rcases hstep k z hz with hk | ⟨rfl, rfl⟩
  · rcases hstep k z' hz' with hk' | ⟨rfl, _⟩
    · exact h k z z' hk hk'
    · exact absurd hk (hfree z)
  · rcases hstep k z' hz' with hk' | ⟨_, rfl⟩
    · exact absurd hk' (hfree z')
    · rfl

end Exclusive

/-! ### Appending once -/

section AppendedOnce

variable {ρ : Type} {done done' : X → Prop} {rows₀ rows : List ρ}

/-- Nothing was appended to `rows₀`, or one element by a party that is done. -/
def AppendedOnce (done : X → Prop) (rows₀ rows : List ρ) : Prop :=
  rows = rows₀ ∨ ∃ x r, done x ∧ rows = rows₀ ++ [r]

namespace AppendedOnce

theorem refl (done : X → Prop) (rows₀ : List ρ) : AppendedOnce done rows₀ rows₀ := Or.inl rfl

theorem mono (h : AppendedOnce done rows₀ rows) (hsub : ∀ x, done x → done' x) :
    AppendedOnce done' rows₀ rows := by
  rcases h with h | ⟨x, r, hx, h⟩
  · exact Or.inl h
  · exact Or.inr ⟨x, r, hsub x hx, h⟩

/-- Where nobody is done, somebody may append. -/
theorem append (h : AppendedOnce done rows₀ rows) (hnone : ∀ x, ¬ done x) {y : X}
    (hy : done' y) (r : ρ) : AppendedOnce done' rows₀ (rows ++ [r]) := by
  rcases h with rfl | ⟨x, _, hx, _⟩
  · exact Or.inr ⟨y, r, hy, rfl⟩
  · exact absurd hx (hnone x)

theorem exists_append (h : AppendedOnce done rows₀ rows) : ∃ new, rows = rows₀ ++ new ∧ new.length ≤ 1 := by
  rcases h with rfl | ⟨x, r, _, rfl⟩
  · exact ⟨[], by simp⟩
  · exact ⟨[r], rfl, Nat.le_refl 1⟩

end AppendedOnce

end AppendedOnce

end Interact
