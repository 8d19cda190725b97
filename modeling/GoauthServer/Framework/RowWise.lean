import GoauthServer.Framework.Table
import Mathlib.Data.List.Forall2
import Mathlib.Data.List.Sort

/-!
# Tables that agree row by row

Two tables with the same number of rows, of which those at the same place are related by `R`. If a condition
does not tell related rows apart, a statement with this condition finds, changes or removes the same rows in
both, and what it returns is related again. This is what a comparison of two databases needs that differ in
columns which no condition reads.
-/

namespace Relational

/-! ### Lists -/

section Lists

variable {ρ : Type} {R : ρ → ρ → Prop} {l l' : List ρ} {p p' : ρ → Bool}

/-- Conditions that do not tell related rows apart. -/
def Agrees (R : ρ → ρ → Prop) (p p' : ρ → Bool) : Prop := ∀ r r', R r r' → p r = p' r'

theorem find?_of_forall₂ (h : List.Forall₂ R l l') (hp : Agrees R p p') :
    Option.Rel R (l.find? p) (l'.find? p') := by
  induction h with
  | nil => exact .none
  | cons hr _ ih =>
    rw [List.find?_cons, List.find?_cons, ← hp _ _ hr]
    split
    · exact .some hr
    · exact ih

theorem filter_of_forall₂ (h : List.Forall₂ R l l') (hp : Agrees R p p') :
    List.Forall₂ R (l.filter p) (l'.filter p') := by
  induction h with
  | nil => exact .nil
  | cons hr _ ih =>
    rw [List.filter_cons, List.filter_cons, ← hp _ _ hr]
    split
    · exact .cons hr ih
    · exact ih

theorem countP_of_forall₂ (h : List.Forall₂ R l l') (hp : Agrees R p p') : l.countP p = l'.countP p' := by
  rw [List.countP_eq_length_filter, List.countP_eq_length_filter]
  exact (filter_of_forall₂ h hp).length_eq

theorem any_of_forall₂ (h : List.Forall₂ R l l') (hp : Agrees R p p') : l.any p = l'.any p' := by
  induction h with
  | nil => rfl
  | cons hr _ ih => rw [List.any_cons, List.any_cons, hp _ _ hr, ih]

/-- An order that does not tell related rows apart sorts both lists in the same way. -/
theorem insertionSort_of_forall₂ (h : List.Forall₂ R l l') {le : ρ → ρ → Prop} [DecidableRel le]
    (hle : ∀ a a' b b', R a a' → R b b' → (le a b ↔ le a' b')) :
    List.Forall₂ R (l.insertionSort le) (l'.insertionSort le) := by
  -- one row at a time
  have hinsert : ∀ {a a' : ρ} {m m' : List ρ}, R a a' → List.Forall₂ R m m' →
      List.Forall₂ R (m.orderedInsert le a) (m'.orderedInsert le a') := by
    intro a a' m m' ha hm
    induction hm with
    | nil => exact .cons ha .nil
    | @cons b b' _ _ hb hm ih =>
      rw [List.orderedInsert, List.orderedInsert]
      by_cases hab : le a b
      · rw [if_pos hab, if_pos ((hle _ _ _ _ ha hb).mp hab)]
        exact .cons ha (.cons hb hm)
      · rw [if_neg hab, if_neg fun hab' => hab ((hle _ _ _ _ ha hb).mpr hab')]
        exact .cons hb ih
  induction h with
  | nil => exact .nil
  | cons hr _ ih => exact hinsert hr ih

end Lists

/-! ### Tables -/

namespace Table

variable {ρ : Type} [Keyed ρ] {R : ρ → ρ → Prop} {t t' : Table ρ} {p p' : ρ → Bool}

/-- The rows at the same place are related. -/
def RowWise (R : ρ → ρ → Prop) (t t' : Table ρ) : Prop := List.Forall₂ R t.rows t'.rows

theorem RowWise.select (h : RowWise R t t') (hp : Agrees R p p') :
    Option.Rel R (t.select p) (t'.select p') := find?_of_forall₂ h hp

/-- The rows of an update. (They are written out, as in `exists_of_mem_update`.) -/
theorem RowWise.update_rows (h : RowWise R t t') (f f' : ρ → ρ) (hp : Agrees R p p')
    (hR : ∀ r r', R r r' → R (f r) (f' r')) :
    List.Forall₂ R (t.rows.map fun r => if p r then f r else r)
      (t'.rows.map fun r => if p' r then f' r else r) := by
  rw [List.forall₂_map_left_iff, List.forall₂_map_right_iff]
  refine List.Forall₂.imp (fun r r' hr => ?_) h
  rw [← hp r r' hr]
  split
  · exact hR r r' hr
  · exact hr

theorem RowWise.delete (h : RowWise R t t') (hp : Agrees R p p') : RowWise R (t.delete p) (t'.delete p') := by
  refine filter_of_forall₂ h fun r r' hr => ?_
  rw [hp r r' hr]

/-- Where related rows have the same unique columns, related rows can be inserted into both or into none. -/
theorem RowWise.insert (h : RowWise R t t') (hkey : ∀ r r' : ρ, R r r' → Keyed.key r = Keyed.key r')
    {r r' : ρ} (hr : R r r') : Option.Rel (RowWise R) (t.insert r) (t'.insert r') := by
  have hclash : Agrees R (fun a => Keyed.clash (Keyed.key a) (Keyed.key r))
      (fun a => Keyed.clash (Keyed.key a) (Keyed.key r')) := by
    intro a a' ha
    dsimp only
    rw [hkey a a' ha, hkey r r' hr]
  have hany := any_of_forall₂ h hclash
  cases hins : t.insert r with
  | none =>
    cases hins' : t'.insert r' with
    | none => exact .none
    | some u' =>
      -- a row of `t` clashes, and so does its counterpart
      exfalso
      have hno : (t'.rows.any fun a => Keyed.clash (Keyed.key a) (Keyed.key r')) = false := by
        rw [List.any_eq_false]
        intro a ha
        rw [(insert_eq_some hins').2 a ha]
        exact Bool.false_ne_true
      rw [← hany, List.any_eq_false] at hno
      obtain ⟨u, hu⟩ := exists_insert fun a ha => Bool.not_eq_true _ ▸ hno a ha
      rw [hins] at hu
      cases hu
  | some u =>
    have hno : (t.rows.any fun a => Keyed.clash (Keyed.key a) (Keyed.key r)) = false := by
      rw [List.any_eq_false]
      intro a ha
      rw [(insert_eq_some hins).2 a ha]
      exact Bool.false_ne_true
    rw [hany, List.any_eq_false] at hno
    obtain ⟨u', hu'⟩ := exists_insert fun a ha => Bool.not_eq_true _ ▸ hno a ha
    rw [hu']
    refine .some ?_
    show List.Forall₂ R u.rows u'.rows
    rw [(insert_eq_some hins).1, (insert_eq_some hu').1]
    exact List.rel_append h (.cons hr .nil)

end Table

end Relational
