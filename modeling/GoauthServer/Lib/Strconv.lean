import GoauthServer.Lib.Text
import Mathlib.Data.Int.Notation
import Mathlib.Data.Nat.Digits.Defs

/-!
# Numbers and truth values in text

`strconv.Atoi` and `strconv.ParseBool`, which read the parameters of a query, and `fmt.Sscanf` for one integer.

`Denotes` says which integer a text stands for, of any size. `Atoi` reads the texts that stand for an integer of 64
bits, and reads that integer (`atoi_eq_some_iff`).
-/

namespace Strconv

variable {ds : List Char}

/-- `strconv.Atoi` where `int` has 64 bits: a sign, digits, and nothing else. -/
def atoi (s : String) : Option ℤ :=
  match s.toList with
  | '-' :: ds => (Text.parseUint 64 ds).bind fun n => if n ≤ 2 ^ 63 then some (-(n : ℤ)) else none
  | '+' :: ds => (Text.parseUint 63 ds).map fun n => (n : ℤ)
  | ds => (Text.parseUint 63 ds).map fun n => (n : ℤ)

/-- `strconv.ParseBool`. -/
def parseBool (s : String) : Option Bool :=
  if ["1", "t", "T", "TRUE", "true", "True"].contains s then some true
  else if ["0", "f", "F", "FALSE", "false", "False"].contains s then some false
  else none

/-- `fmt.Sscanf(s, "%d", &n)`: what stands behind the digits is not looked at. -/
def scanInt (s : String) : Option ℤ :=
  -- blanks in front are skipped, a line break among them is an error
  match s.toList.dropWhile fun c => Text.isSpace c && c != '\n' with
  | '+' :: cs => atoi (String.ofList ('+' :: cs.takeWhile fun c => (Text.digitValue c).isSome))
  | '-' :: cs => atoi (String.ofList ('-' :: cs.takeWhile fun c => (Text.digitValue c).isSome))
  | cs => atoi (String.ofList (cs.takeWhile fun c => (Text.digitValue c).isSome))

/-! ### What a text stands for -/

/-- Decimal digits, at least one. -/
structure Numeral (ds : List Char) : Prop where
  ne_nil : ds ≠ []
  digit : ∀ c ∈ ds, '0' ≤ c ∧ c ≤ '9'

/-- The number in these digits, the last one counting ones. -/
def value (ds : List Char) : ℕ := Nat.ofDigits 10 (ds.reverse.map fun c => c.toNat - '0'.toNat)

/-- The text stands for the integer: a numeral, with a sign or without. -/
inductive Denotes : List Char → ℤ → Prop where
  | unsigned {ds : List Char} (h : Numeral ds) : Denotes ds (value ds)
  | plus {ds : List Char} (h : Numeral ds) : Denotes ('+' :: ds) (value ds)
  | minus {ds : List Char} (h : Numeral ds) : Denotes ('-' :: ds) (-(value ds : ℤ))

theorem value_cons (c : Char) (ds : List Char) :
    value (c :: ds) = (c.toNat - '0'.toNat) * 10 ^ ds.length + value ds := by
  unfold value
  rw [List.reverse_cons, List.map_append, Nat.ofDigits_append, List.length_map, List.length_reverse]
  simp [Nat.mul_comm, Nat.add_comm]

theorem digits_eq_some_iff {acc n : ℕ} :
    Text.digits acc ds = some n ↔ (∀ c ∈ ds, '0' ≤ c ∧ c ≤ '9') ∧ n = acc * 10 ^ ds.length + value ds := by
  induction ds generalizing acc with
  | nil => simp [Text.digits, value, eq_comm]
  | cons c ds ih =>
    rw [Text.digits, Text.digitValue]
    by_cases hc : '0' ≤ c ∧ c ≤ '9'
    · rw [if_pos hc, Option.bind_some, ih, value_cons, List.length_cons, List.forall_mem_cons, and_iff_right hc]
      have hpow : (acc * 10 + (c.toNat - '0'.toNat)) * 10 ^ ds.length + value ds =
          acc * 10 ^ (ds.length + 1) + ((c.toNat - '0'.toNat) * 10 ^ ds.length + value ds) := by ring
      rw [hpow]
    · rw [if_neg hc, List.forall_mem_cons]
      exact iff_of_false (by simp) fun h => hc h.1.1

theorem parseUint_eq_some_iff {bits n : ℕ} :
    Text.parseUint bits ds = some n ↔ Numeral ds ∧ n = value ds ∧ n < 2 ^ bits := by
  unfold Text.parseUint
  by_cases hnil : ds = []
  · rw [hnil]
    exact iff_of_false (by simp) fun h => h.1.ne_nil rfl
  · rw [if_neg (by simpa using hnil), Option.bind_eq_some_iff]
    constructor
    · rintro ⟨m, hm, hlt⟩
      obtain ⟨hdigits, hvalue⟩ := digits_eq_some_iff.mp hm
      split at hlt
      · next h =>
        obtain rfl := Option.some.inj hlt
        exact ⟨⟨hnil, hdigits⟩, by simpa using hvalue, h⟩
      · cases hlt
    · rintro ⟨hnum, rfl, hlt⟩
      exact ⟨value ds, digits_eq_some_iff.mpr ⟨hnum.digit, by simp⟩, if_pos hlt⟩

/-- A numeral without a minus sign, as an integer. -/
theorem parseUint_map_eq_some_iff {n : ℤ} :
    ((Text.parseUint 63 ds).map fun n => (n : ℤ)) = some n ↔ Numeral ds ∧ n = value ds ∧ n < 2 ^ 63 := by
  cases hm : Text.parseUint 63 ds with
  | none =>
    refine iff_of_false (by simp) ?_
    rintro ⟨hnum, rfl, hlt⟩
    rw [parseUint_eq_some_iff.mpr ⟨hnum, rfl, by omega⟩] at hm
    cases hm
  | some m =>
    obtain ⟨hnum, rfl, hlt⟩ := parseUint_eq_some_iff.mp hm
    show some (value ds : ℤ) = some n ↔ _
    rw [Option.some.injEq, and_iff_right hnum]
    omega

/-- A sign is not a digit. -/
theorem not_numeral_plus (ds : List Char) : ¬ Numeral ('+' :: ds) :=
  fun h => absurd (h.digit _ List.mem_cons_self) (by decide)

theorem not_numeral_minus (ds : List Char) : ¬ Numeral ('-' :: ds) :=
  fun h => absurd (h.digit _ List.mem_cons_self) (by decide)

/-- A text stands for one integer at most. -/
theorem Denotes.unique {s : List Char} {n m : ℤ} (h : Denotes s n) (h' : Denotes s m) : n = m := by
  cases h with
  | unsigned hs =>
    cases h' with
    | unsigned _ => rfl
    | plus _ => exact absurd hs (not_numeral_plus _)
    | minus _ => exact absurd hs (not_numeral_minus _)
  | plus _ =>
    cases h' with
    | unsigned hs => exact absurd hs (not_numeral_plus _)
    | plus _ => rfl
  | minus _ =>
    cases h' with
    | unsigned hs => exact absurd hs (not_numeral_minus _)
    | minus _ => rfl

/-- **What `Atoi` reads.** -/
theorem atoi_eq_some_iff {s : String} {n : ℤ} :
    atoi s = some n ↔ Denotes s.toList n ∧ -2 ^ 63 ≤ n ∧ n < 2 ^ 63 := by
  unfold atoi
  split
  · next ds heq =>
    rw [heq, Option.bind_eq_some_iff]
    constructor
    · rintro ⟨m, hm, hn⟩
      obtain ⟨hnum, rfl, _⟩ := parseUint_eq_some_iff.mp hm
      split at hn
      · obtain rfl := Option.some.inj hn
        exact ⟨.minus hnum, by omega, by omega⟩
      · cases hn
    · rintro ⟨h, hlo, hhi⟩
      cases h with
      | unsigned hs => exact absurd hs (not_numeral_minus _)
      | minus hnum =>
        refine ⟨value ds, parseUint_eq_some_iff.mpr ⟨hnum, rfl, by omega⟩, ?_⟩
        rw [if_pos (by omega)]
  · next ds heq =>
    rw [heq, parseUint_map_eq_some_iff]
    constructor
    · rintro ⟨hnum, rfl, hlt⟩
      exact ⟨.plus hnum, by omega, hlt⟩
    · rintro ⟨h, _, hhi⟩
      cases h with
      | unsigned hs => exact absurd hs (not_numeral_plus _)
      | plus hnum => exact ⟨hnum, rfl, hhi⟩
  · next hminus hplus =>
    rw [parseUint_map_eq_some_iff]
    constructor
    · rintro ⟨hnum, rfl, hlt⟩
      exact ⟨.unsigned hnum, by omega, hlt⟩
    · rintro ⟨h, _, hhi⟩
      generalize s.toList = t at h hminus hplus
      cases h with
      | unsigned hnum => exact ⟨hnum, rfl, hhi⟩
      | plus _ => exact absurd rfl (hplus _)
      | minus _ => exact absurd rfl (hminus _)

end Strconv
