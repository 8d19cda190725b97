import Mathlib.Algebra.Group.Nat.Defs

/-!
# String functions of Go's `strings` and `strconv`
-/

namespace Text

/-- `strings.Contains(s, sub)`. -/
def contains (sub : List Char) : List Char → Bool
  | [] => sub.isEmpty
  | c :: cs => sub.isPrefixOf (c :: cs) || contains sub cs

theorem contains_iff_infix (sub s : List Char) : contains sub s = true ↔ sub <:+: s := by
  induction s with
  | nil => rw [contains, List.isEmpty_iff, List.infix_nil]
  | cons c cs ih => rw [contains, Bool.or_eq_true, List.isPrefixOf_iff_prefix, ih, List.infix_cons_iff]

theorem infix_intercalate {sep w : List Char} {ls : List (List Char)} (h : w ∈ ls) : w <:+: sep.intercalate ls := by
  induction ls with
  | nil => cases h
  | cons l ls ih =>
    cases ls with
    | nil =>
      have hone : sep.intercalate [l] = w := List.intercalate_singleton.trans (List.mem_singleton.mp h).symm
      exact hone.symm ▸ List.infix_rfl
    | cons l' ls =>
      rw [List.intercalate_cons_cons]
      rcases List.mem_cons.mp h with rfl | hmem
      · exact (List.prefix_append w sep).isInfix.trans (List.prefix_append _ _).isInfix
      · exact (ih hmem).trans (List.suffix_append _ _).isInfix

/-- A piece of a text that was split is a part of it. -/
theorem infix_of_mem_splitOn {sep : Char} {s w : List Char} (h : w ∈ s.splitOn sep) : w <:+: s := by
  have hinfix : w <:+: [sep].intercalate (s.splitOn sep) := infix_intercalate h
  rwa [List.intercalate_splitOn] at hinfix

/-- `strings.SplitN(s, sep, 2)`: what stands before the first separator and, if there is one,
what stands after it. -/
def splitFirst (sep : Char) : List Char → List Char × Option (List Char)
  | [] => ([], none)
  | c :: cs =>
    if c = sep then ([], some cs)
    else ((c :: (splitFirst sep cs).1), (splitFirst sep cs).2)

theorem splitFirst_append {sep : Char} {s : List Char} (h : sep ∉ s) (rest : List Char) :
    splitFirst sep (s ++ sep :: rest) = (s, some rest) := by
  induction s with
  | nil => simp [splitFirst]
  | cons c cs ih =>
    have hne : c ≠ sep := fun heq => h (heq ▸ List.mem_cons_self)
    rw [List.cons_append, splitFirst, if_neg hne, ih fun hc => h (List.mem_cons_of_mem c hc)]

/-- `unicode.IsSpace`. -/
def isSpace (c : Char) : Bool :=
  (9 ≤ c.toNat && c.toNat ≤ 13) || (0x2000 ≤ c.toNat && c.toNat ≤ 0x200a) ||
    [0x20, 0x85, 0xa0, 0x1680, 0x2028, 0x2029, 0x202f, 0x205f, 0x3000].contains c.toNat

/-- `strings.TrimSpace`. -/
def trimSpace (s : String) : String :=
  String.ofList (((s.toList.dropWhile isSpace).reverse.dropWhile isSpace).reverse)

/-- The value of a decimal digit. -/
def digitValue (c : Char) : Option ℕ :=
  if '0' ≤ c ∧ c ≤ '9' then some (c.toNat - '0'.toNat) else none

/-- The value of a string of decimal digits, read after `acc`. -/
def digits (acc : ℕ) : List Char → Option ℕ
  | [] => some acc
  | c :: cs => (digitValue c).bind fun v => digits (acc * 10 + v) cs

/-- `strconv.ParseUint(s, 10, bits)`. -/
def parseUint (bits : ℕ) (s : List Char) : Option ℕ :=
  if s.isEmpty then none
  else (digits 0 s).bind fun n => if n < 2 ^ bits then some n else none

end Text
