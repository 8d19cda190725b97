import Mathlib.Data.List.Basic
import Mathlib.Data.List.Pairwise

/-!
# Tables with unique columns

A `Table` is a list of rows of which no two share the value of a unique column. The constraint is
a field of the structure, so a table that violates it cannot be built: `Table.insert` fails where
the row would clash, and `Table.update` takes the proof that the update leaves the unique columns
alone.

The four statements of SQL that the development needs are here:

* `SELECT * … WHERE p LIMIT 1` is `Table.select`;
* `INSERT` is `Table.insert`, which is `none` on a unique violation;
* `UPDATE … SET f WHERE p` is `Table.update`, and `Table.returning` is its row, if there is one;
* `DELETE … WHERE p` is `Table.delete`.

`Table.Evolves R` says that every row of one table is still there in another, changed at most by
`R`. It is the form in which facts about rows that were read once survive later statements.
`Table.Step` says all that one statement can do to a table; that rows persist, and where a row comes
from, is read off it.
-/

namespace Relational

/-- Rows with unique columns. `clash` holds of two keys that agree in a unique column. -/
class Keyed (ρ : Type) where
  Key : Type
  key : ρ → Key
  clash : Key → Key → Bool
  clash_comm : ∀ k k', clash k k' = clash k' k

/-- A table: rows of which no two clash. -/
@[ext] structure Table (ρ : Type) [Keyed ρ] where
  rows : List ρ
  unique : rows.Pairwise fun a b => Keyed.clash (Keyed.key a) (Keyed.key b) = false

namespace Table

variable {ρ : Type} [Keyed ρ] {t : Table ρ} {r : ρ} {p : ρ → Bool} {f : ρ → ρ} {R : ρ → ρ → Prop}

/-- The table without rows. -/
def empty : Table ρ := ⟨[], List.Pairwise.nil⟩

/-- The first row that satisfies `p`. -/
def select (t : Table ρ) (p : ρ → Bool) : Option ρ := t.rows.find? p

/-- Apply `f` to the rows that satisfy `p`. -/
def update (t : Table ρ) (p : ρ → Bool) (f : ρ → ρ) (hf : ∀ r, Keyed.key (f r) = Keyed.key r) :
    Table ρ where
  rows := t.rows.map fun r => if p r then f r else r
  unique := by
    refine List.pairwise_map.mpr (t.unique.imp fun {a b} h => ?_)
    have hkey : ∀ r : ρ, Keyed.key (if p r then f r else r) = Keyed.key r := by
      intro r
      split
      · exact hf r
      · rfl
    rw [hkey a, hkey b]
    exact h

/-- The row an update of the row with `p` returns. -/
def returning (t : Table ρ) (p : ρ → Bool) (f : ρ → ρ) : Option ρ := (t.select p).map f

/-- Append a row, unless it clashes with one that is there. -/
def insert (t : Table ρ) (r : ρ) : Option (Table ρ) :=
  if h : t.rows.all fun a => !Keyed.clash (Keyed.key a) (Keyed.key r) then
    some
      { rows := t.rows ++ [r]
        unique := by
          refine List.pairwise_append.mpr ⟨t.unique, List.pairwise_singleton _ _, ?_⟩
          intro a ha b hb
          rw [List.mem_singleton] at hb
          subst hb
          simpa using List.all_eq_true.mp h a ha }
  else none

/-- Remove the rows that satisfy `p`. -/
def delete (t : Table ρ) (p : ρ → Bool) : Table ρ where
  rows := t.rows.filter fun r => !p r
  unique := t.unique.filter _

/-! ### Reading -/

theorem mem_of_select (h : t.select p = some r) : r ∈ t.rows := List.mem_of_find?_eq_some h

theorem prop_of_select (h : t.select p = some r) : p r = true := List.find?_some h

theorem select_eq_none : t.select p = none ↔ ∀ r ∈ t.rows, ¬ p r = true := List.find?_eq_none

/-- Two rows that agree in a unique column are one row. -/
theorem eq_of_clash {a b : ρ} (ha : a ∈ t.rows) (hb : b ∈ t.rows)
    (h : Keyed.clash (Keyed.key a) (Keyed.key b) = true) : a = b := by
  by_contra hne
  have hsymm : Std.Symm fun a b : ρ => Keyed.clash (Keyed.key a) (Keyed.key b) = false :=
    ⟨fun x y hxy => by rw [Keyed.clash_comm]; exact hxy⟩
  have hno := t.unique.forall ha hb hne
  rw [h] at hno
  exact absurd hno (by simp)

/-- A row that satisfies `p` is the selected one, if the rows with `p` agree in a unique column. -/
theorem select_eq_some (hr : r ∈ t.rows) (hp : p r = true)
    (huniq : ∀ a, p a = true → Keyed.clash (Keyed.key a) (Keyed.key r) = true) :
    t.select p = some r := by
  cases h : t.select p with
  | none => exact absurd hp (select_eq_none.mp h r hr)
  | some a => rw [eq_of_clash (mem_of_select h) hr (huniq a (prop_of_select h))]

/-! ### Writing -/

/-- Where a row of an updated table comes from. (The rows are written out, since the proof in an
`update` cannot be found by unification.) -/
theorem exists_of_mem_update (h : r ∈ t.rows.map fun r => if p r then f r else r) :
    ∃ a ∈ t.rows, (if p a then f a else a) = r := List.mem_map.mp h

/-- What becomes of a row of an updated table. -/
theorem mem_update (h : r ∈ t.rows) : (if p r then f r else r) ∈ t.rows.map fun r => if p r then f r else r :=
  List.mem_map_of_mem h

/-- A row that the update does not reach. -/
theorem mem_update_of_not (h : r ∈ t.rows) (hp : ¬ p r = true) :
    r ∈ t.rows.map fun r => if p r then f r else r := by
  have hmem := mem_update (p := p) (f := f) h
  rwa [if_neg hp] at hmem

/-- A row that the update reaches, and that is not a new value, is gone. -/
theorem not_mem_update (hp : p r = true) (hf : ∀ a, f a ≠ r) :
    r ∉ t.rows.map fun r => if p r then f r else r := by
  intro hmem
  obtain ⟨a, _, ha⟩ := exists_of_mem_update hmem
  split at ha
  · exact hf a ha
  · next hne => exact hne (ha ▸ hp)

theorem mem_delete : r ∈ (t.delete p).rows ↔ r ∈ t.rows ∧ p r = false := by
  simp [delete, List.mem_filter]

/-- An insert that succeeds appends the row, which clashed with none. -/
theorem insert_eq_some {t t' : Table ρ} (h : t.insert r = some t') :
    t'.rows = t.rows ++ [r] ∧ ∀ a ∈ t.rows, Keyed.clash (Keyed.key a) (Keyed.key r) = false := by
  unfold insert at h
  split at h
  · next hall =>
    obtain rfl := Option.some.inj h
    exact ⟨rfl, fun a ha => by simpa using List.all_eq_true.mp hall a ha⟩
  · exact absurd h (by simp)

/-- A row that clashes with none can be inserted. -/
theorem exists_insert (h : ∀ a ∈ t.rows, Keyed.clash (Keyed.key a) (Keyed.key r) = false) :
    ∃ t', t.insert r = some t' := by
  have hall : (t.rows.all fun a => !Keyed.clash (Keyed.key a) (Keyed.key r)) = true := by
    rw [List.all_eq_true]
    intro a ha
    rw [h a ha]
    rfl
  unfold insert
  rw [dif_pos hall]
  exact ⟨_, rfl⟩

theorem insert_eq_none {a r : ρ} (ha : a ∈ t.rows)
    (h : Keyed.clash (Keyed.key a) (Keyed.key r) = true) : t.insert r = none := by
  cases hins : t.insert r with
  | none => rfl
  | some t' =>
    rw [(insert_eq_some hins).2 a ha] at h
    cases h

theorem mem_of_insert {t t' : Table ρ} {r a : ρ} (h : t.insert r = some t') :
    a ∈ t'.rows ↔ a ∈ t.rows ∨ a = r := by
  rw [(insert_eq_some h).1, List.mem_append, List.mem_singleton]

/-! ### Rows that are left out

A table without some of its rows next to the whole table: the same statement in both has the same effect, up to
the rows that are left out. -/

section LeftOut

variable {t : Table ρ} {g p : ρ → Bool}

/-- What is selected by a unique column is found in the rest, unless it is left out. -/
theorem select_delete
    (huniq : ∀ a b, p a = true → p b = true → Keyed.clash (Keyed.key a) (Keyed.key b) = true) :
    (t.delete g).select p = (t.select p).filter fun r => !g r := by
  cases hsel : t.select p with
  | none =>
    refine select_eq_none.mpr fun r hr => ?_
    exact select_eq_none.mp hsel r (mem_delete.mp hr).1
  | some r =>
    have hr := mem_of_select hsel
    have hp := prop_of_select hsel
    cases hg : g r with
    | false =>
      rw [Option.filter_some, hg]
      exact select_eq_some (mem_delete.mpr ⟨hr, hg⟩) hp fun a ha => huniq a r ha hp
    | true =>
      rw [Option.filter_some, hg]
      refine select_eq_none.mpr fun a ha hpa => ?_
      -- the only row with `p` is the one that is left out
      obtain rfl : a = r := eq_of_clash (mem_delete.mp ha).1 hr (huniq a r hpa hp)
      rw [(mem_delete.mp ha).2] at hg
      cases hg

theorem delete_update {f : ρ → ρ} (hf : ∀ r, Keyed.key (f r) = Keyed.key r) (hg : ∀ r, g (f r) = g r) :
    (t.update p f hf).delete g = (t.delete g).update p f hf := by
  have hrow : ((fun r => !g r) ∘ fun r => if p r then f r else r) = fun r => !g r := by
    funext r
    show (!g (if p r then f r else r)) = !g r
    split
    · rw [hg]
    · rfl
  refine Table.ext ?_
  show (t.rows.map fun r => if p r then f r else r).filter _ = (t.rows.filter _).map _
  rw [List.filter_map, hrow]

/-- An update of rows that are left out. -/
theorem delete_update_of_left {f : ρ → ρ} (hf : ∀ r, Keyed.key (f r) = Keyed.key r)
    (hg : ∀ r, g (f r) = g r) (hleft : ∀ r, p r = true → g r = true) :
    (t.update p f hf).delete g = t.delete g := by
  rw [delete_update hf hg]
  refine Table.ext ?_
  show (t.delete g).rows.map (fun r => if p r then f r else r) = (t.delete g).rows
  refine (List.map_congr_left fun r hr => ?_).trans (List.map_id _)
  -- no row of the rest is one of the updated ones
  have hkept := (mem_delete.mp hr).2
  refine if_neg fun hp => ?_
  rw [hleft r hp] at hkept
  cases hkept

theorem delete_comm : (t.delete p).delete g = (t.delete g).delete p := by
  refine Table.ext ?_
  show (t.rows.filter _).filter _ = (t.rows.filter _).filter _
  rw [List.filter_filter, List.filter_filter]
  exact List.filter_congr fun r _ => Bool.and_comm _ _

/-- A row that is not left out is inserted in both, if it clashes with none that is. -/
theorem insert_delete {r : ρ} (hg : g r = false)
    (hkept : ∀ a ∈ t.rows, Keyed.clash (Keyed.key a) (Keyed.key r) = true → g a = false) :
    (t.delete g).insert r = (t.insert r).map fun u => u.delete g := by
  cases hins : t.insert r with
  | none =>
    -- the row that clashes is in the rest, too
    by_contra hne
    obtain ⟨u, hu⟩ := Option.ne_none_iff_exists'.mp hne
    have hfree : ∀ a ∈ t.rows, Keyed.clash (Keyed.key a) (Keyed.key r) = false := by
      intro a ha
      by_contra hclash
      rw [Bool.not_eq_false] at hclash
      have hmem := mem_delete.mpr ⟨ha, hkept a ha hclash⟩
      rw [(insert_eq_some hu).2 a hmem] at hclash
      cases hclash
    obtain ⟨v, hv⟩ := exists_insert hfree
    rw [hins] at hv
    cases hv
  | some u =>
    obtain ⟨hrows, hfree⟩ := insert_eq_some hins
    obtain ⟨v, hv⟩ := exists_insert (t := t.delete g) fun a ha => hfree a (mem_delete.mp ha).1
    rw [hv]
    refine congrArg some (Table.ext ?_)
    rw [(insert_eq_some hv).1]
    show _ = u.rows.filter _
    rw [hrows, List.filter_append]
    simp [delete, hg]

end LeftOut

/-! ### Rows with a column that is cleared

A table next to the one in which `f` was applied to the rows with `p`. -/

section Cleared

variable {t : Table ρ} {p q : ρ → Bool} {f : ρ → ρ}

theorem select_update (hf : ∀ r, Keyed.key (f r) = Keyed.key r) (hq : ∀ r, q (f r) = q r) :
    (t.update p f hf).select q = (t.select q).map fun r => if p r then f r else r := by
  show (t.rows.map fun r => if p r then f r else r).find? q = _
  have hrow : (q ∘ fun r => if p r then f r else r) = q := by
    funext r
    show q (if p r then f r else r) = q r
    split
    · exact hq r
    · rfl
  rw [List.find?_map, hrow]
  rfl

theorem update_comm {g : ρ → ρ} (hf : ∀ r, Keyed.key (f r) = Keyed.key r)
    (hg : ∀ r, Keyed.key (g r) = Keyed.key r) (hp : ∀ r, p (g r) = p r) (hq : ∀ r, q (f r) = q r)
    (hfg : ∀ r, f (g r) = g (f r)) :
    (t.update p f hf).update q g hg = (t.update q g hg).update p f hf := by
  refine Table.ext ?_
  show (t.rows.map _).map _ = (t.rows.map _).map _
  rw [List.map_map, List.map_map]
  refine List.map_congr_left fun r _ => ?_
  by_cases hpr : p r = true <;> by_cases hqr : q r = true <;> simp [hpr, hqr, hp, hq, hfg]

theorem insert_update (hf : ∀ r, Keyed.key (f r) = Keyed.key r) {r : ρ} (hp : p r = false) :
    (t.update p f hf).insert r = (t.insert r).map fun u => u.update p f hf := by
  have hkey : ∀ a, Keyed.key (if p a then f a else a) = Keyed.key a := by
    intro a
    split
    · exact hf a
    · rfl
  cases hins : t.insert r with
  | none =>
    by_contra hne
    obtain ⟨u, hu⟩ := Option.ne_none_iff_exists'.mp hne
    have hfree : ∀ a ∈ t.rows, Keyed.clash (Keyed.key a) (Keyed.key r) = false := by
      intro a ha
      rw [← hkey a]
      exact (insert_eq_some hu).2 _ (mem_update ha)
    obtain ⟨v, hv⟩ := exists_insert hfree
    rw [hins] at hv
    cases hv
  | some u =>
    obtain ⟨hrows, hfree⟩ := insert_eq_some hins
    have hfree' : ∀ b ∈ (t.update p f hf).rows, Keyed.clash (Keyed.key b) (Keyed.key r) = false := by
      intro b hb
      obtain ⟨a, ha, rfl⟩ := exists_of_mem_update hb
      rw [hkey a]
      exact hfree a ha
    obtain ⟨v, hv⟩ := exists_insert hfree'
    rw [hv]
    refine congrArg some (Table.ext ?_)
    rw [(insert_eq_some hv).1]
    show _ = u.rows.map _
    rw [hrows, List.map_append]
    simp [update, hp]

end Cleared

/-! ### Rows that persist -/

/-- Every row of `t` is in `t'`, changed at most by `R`. -/
def Evolves (R : ρ → ρ → Prop) (t t' : Table ρ) : Prop := ∀ r ∈ t.rows, ∃ r' ∈ t'.rows, R r r'

theorem Evolves.refl (hR : ∀ r, R r r) (t : Table ρ) : Evolves R t t :=
  fun r hr => ⟨r, hr, hR r⟩

theorem Evolves.trans (hR : ∀ a b c, R a b → R b c → R a c)
    {t₁ t₂ t₃ : Table ρ} (h : Evolves R t₁ t₂) (h' : Evolves R t₂ t₃) : Evolves R t₁ t₃ := by
  intro r hr
  obtain ⟨r', hr', h₁⟩ := h r hr
  obtain ⟨r'', hr'', h₂⟩ := h' r' hr'
  exact ⟨r'', hr'', hR _ _ _ h₁ h₂⟩

theorem Evolves.mono {R R' : ρ → ρ → Prop} {t t' : Table ρ} (h : Evolves R t t')
    (hR : ∀ r r', R r r' → R' r r') : Evolves R' t t' := by
  intro r hr
  obtain ⟨r', hr', h₁⟩ := h r hr
  exact ⟨r', hr', hR r r' h₁⟩

/-! ### What one statement does -/

/-- `t'` is what a statement makes of `t`: it changes the rows in place by `R`, it appends a row of `new`, or, if
it is one that `deletes`, it removes rows. The rows that it leaves alone are related to themselves. -/
inductive Step (R : ρ → ρ → Prop) (new : ρ → Prop) (deletes : Prop) (t t' : Table ρ) : Prop
  | change (g : ρ → ρ) (hg : ∀ r, R r (g r)) (hrows : t'.rows = t.rows.map g)
  | append (r : ρ) (hR : ∀ r, R r r) (hnew : new r) (hins : t.insert r = some t')
  | remove (p : ρ → Bool) (hR : ∀ r, R r r) (hdel : deletes) (heq : t' = t.delete p)

namespace Step

variable {R : ρ → ρ → Prop} {new : ρ → Prop} {deletes : Prop} {t t' : Table ρ}

theorem same (hR : ∀ r, R r r) : Step R new deletes t t := .change (fun r => r) hR (List.map_id' _).symm

/-- The rows of an update. (They are written out, as in `exists_of_mem_update`.) -/
theorem update {p : ρ → Bool} {f : ρ → ρ} (hrows : t'.rows = t.rows.map fun r => if p r then f r else r)
    (h : ∀ r, R r (if p r then f r else r)) : Step R new deletes t t' := .change _ h hrows

/-- **Where a row comes from.** -/
theorem origin (h : Step R new deletes t t') {r' : ρ} (hr' : r' ∈ t'.rows) :
    (∃ r ∈ t.rows, R r r') ∨ new r' := by
  cases h with
  | change g hg hrows =>
    rw [hrows] at hr'
    obtain ⟨r, hr, rfl⟩ := List.mem_map.mp hr'
    exact Or.inl ⟨r, hr, hg r⟩
  | append r hR hnew hins =>
    rcases (mem_of_insert hins).mp hr' with hold | rfl
    · exact Or.inl ⟨r', hold, hR r'⟩
    · exact Or.inr hnew
  | remove p hR _ heq =>
    subst heq
    exact Or.inl ⟨r', (mem_delete.mp hr').1, hR r'⟩

/-- **What becomes of a row**, unless it is deleted. -/
theorem evolves (h : Step R new deletes t t') (hdel : ¬ deletes) : Evolves R t t' := by
  intro r hr
  cases h with
  | change g hg hrows =>
    rw [hrows]
    exact ⟨g r, List.mem_map_of_mem hr, hg r⟩
  | append r' hR _ hins => exact ⟨r, (mem_of_insert hins).mpr (Or.inl hr), hR r⟩
  | remove _ _ hdel' _ => exact absurd hdel' hdel

end Step

end Table

end Relational
