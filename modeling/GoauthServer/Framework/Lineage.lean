import Mathlib.Data.List.Chain

/-!
# Lineages

A *lineage* is a list of elements each of which names the one before it as its predecessor, and
the first of which has none. It is the shape of a chain of successors that is stored as a set of
records with a back pointer: the list is an order in which the records were created.

* The first element is the only one without a predecessor (`Lineage.root_unique`), every other
  predecessor is in the list (`Lineage.exists_pred`), and none is named twice
  (`Lineage.succ_unique`).
* An element that nobody names is the last (`Lineage.last`), and only then the list can be
  extended by a successor of it (`Lineage.append`).
-/

namespace Interact

variable {ρ κ : Type}

/-- Each element of `l` names the one before it, and the first has no predecessor. -/
structure Lineage (id : ρ → κ) (prev : ρ → Option κ) (l : List ρ) : Prop where
  root : ∀ t ∈ l.head?, prev t = none
  link : l.IsChain fun a b => prev b = some (id a)

namespace Lineage

variable {id : ρ → κ} {prev : ρ → Option κ} {l : List ρ}

theorem nil : Lineage id prev [] := ⟨by simp, .nil⟩

theorem singleton {r : ρ} (h : prev r = none) : Lineage id prev [r] := by
  refine ⟨fun t ht => ?_, .singleton r⟩
  obtain rfl := Option.some.inj ht
  exact h

/-- A change of the records that keeps the pointers keeps the lineage. -/
theorem map (h : Lineage id prev l) {g : ρ → ρ} (hid : ∀ t, id (g t) = id t)
    (hprev : ∀ t, prev (g t) = prev t) : Lineage id prev (l.map g) := by
  refine ⟨fun t ht => ?_, ?_⟩
  · rw [List.head?_map] at ht
    obtain ⟨t₀, ht₀, rfl⟩ := Option.map_eq_some_iff.mp ht
    rw [hprev]
    exact h.root t₀ ht₀
  · refine (List.isChain_map g).mpr (h.link.imp fun a b hab => ?_)
    rw [hprev, hid]
    exact hab

/-- An element is the first, or follows the one it names. -/
theorem head_or_pred (h : Lineage id prev l) {x : ρ} (hx : x ∈ l) :
    l.head? = some x ∨ ∃ i, ∃ hi : i + 1 < l.length, l[i + 1] = x ∧ prev x = some (id l[i]) := by
  obtain ⟨i, hi, rfl⟩ := List.mem_iff_getElem.mp hx
  cases i with
  | zero => exact Or.inl (List.head?_eq_getElem?.trans (List.getElem?_eq_getElem hi))
  | succ i => exact Or.inr ⟨i, hi, rfl, List.isChain_iff_getElem.mp h.link i hi⟩

/-- Only the first has no predecessor. -/
theorem root_unique (h : Lineage id prev l) {x y : ρ} (hx : x ∈ l) (hy : y ∈ l)
    (hpx : prev x = none) (hpy : prev y = none) : x = y := by
  have hhead : ∀ z ∈ l, prev z = none → l.head? = some z := by
    intro z hz hpz
    rcases h.head_or_pred hz with hh | ⟨i, _, _, hp⟩
    · exact hh
    · rw [hpz] at hp
      cases hp
  exact Option.some.inj ((hhead x hx hpx).symm.trans (hhead y hy hpy))

/-- A predecessor is in the list. -/
theorem exists_pred (h : Lineage id prev l) {x : ρ} (hx : x ∈ l) {k : κ}
    (hk : prev x = some k) : ∃ a ∈ l, id a = k := by
  rcases h.head_or_pred hx with hh | ⟨i, hi, _, hp⟩
  · rw [h.root x hh] at hk
    cases hk
  · exact ⟨l[i], List.getElem_mem _, Option.some.inj (hp.symm.trans hk)⟩

/-- No element is the predecessor of two. -/
theorem succ_unique (h : Lineage id prev l) (hnodup : (l.map id).Nodup) {x y : ρ} (hx : x ∈ l)
    (hy : y ∈ l) {k : κ} (hpx : prev x = some k) (hpy : prev y = some k) : x = y := by
  rcases h.head_or_pred hx with hh | ⟨i, hi, rfl, hp⟩
  · rw [h.root x hh] at hpx
    cases hpx
  rcases h.head_or_pred hy with hh | ⟨j, hj, rfl, hp'⟩
  · rw [h.root y hh] at hpy
    cases hpy
  -- both predecessors have the same name, so they stand at the same place
  have hid : id l[i] = id l[j] := by
    rw [hp] at hpx
    rw [hp'] at hpy
    exact Option.some.inj (hpx.trans hpy.symm)
  have hij : i = j := by
    have hi' : i < (l.map id).length := by simpa using Nat.lt_of_succ_lt hi
    have hj' : j < (l.map id).length := by simpa using Nat.lt_of_succ_lt hj
    have heq : (l.map id)[i] = (l.map id)[j] := by simpa using hid
    exact (List.getElem_inj hnodup).mp heq
  subst hij
  rfl

/-- An element that nobody names is the last. -/
theorem last (h : Lineage id prev l) {x : ρ} (hx : x ∈ l)
    (hno : ∀ b ∈ l, prev b ≠ some (id x)) : l.getLast? = some x := by
  obtain ⟨i, hi, rfl⟩ := List.mem_iff_getElem.mp hx
  by_cases hlast : i + 1 < l.length
  · have hlink := List.isChain_iff_getElem.mp h.link i hlast
    exact absurd hlink (hno _ (List.getElem_mem hlast))
  · have hlen : i = l.length - 1 := by omega
    subst hlen
    rw [List.getLast?_eq_getElem?]
    exact List.getElem?_eq_getElem hi

/-- The last element gets a successor. -/
theorem append (h : Lineage id prev l) {x r : ρ} (hlast : l.getLast? = some x)
    (hr : prev r = some (id x)) : Lineage id prev (l ++ [r]) := by
  refine ⟨fun t ht => ?_, List.isChain_append.mpr ⟨h.link, .singleton r, ?_⟩⟩
  · cases l with
    | nil => cases hlast
    | cons a l => exact h.root t ht
  · intro y hy z hz
    obtain rfl := Option.some.inj (hlast.symm.trans hy)
    obtain rfl := Option.some.inj hz
    exact hr

end Lineage

end Interact
