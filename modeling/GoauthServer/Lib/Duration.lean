import Mathlib.Algebra.Group.Int.Defs
import Mathlib.Data.Nat.Notation

/-!
# Durations, as Go's `time` computes them

A `time.Duration` is a signed 64-bit count of nanoseconds. Products such as
`time.Duration(n) * time.Second` wrap around, and the difference of two instants saturates. An
instant is an integer here: the range of `time.Time` is wide enough for every sum the code forms.
-/

namespace GoTime

/-- `time.Duration`. -/
abbrev Duration : Type := Int64

def second : Duration := 1000000000

def minute : Duration := 60000000000

def hour : Duration := 3600000000000

/-- `t.Add(d)`. -/
def add (t : ℤ) (d : Duration) : ℤ := t + d.toInt

/-- `t.Sub(u)`, and `time.Since(u)` at the time `t`. -/
def sub (t u : ℤ) : Duration :=
  if t - u > Int64.maxValue.toInt then Int64.maxValue
  else if t - u < Int64.minValue.toInt then Int64.minValue
  else Int64.ofInt (t - u)

/-- `int64(d.Seconds())`. -/
def seconds (d : Duration) : Int64 := d / second

theorem maxValue_toInt : Int64.maxValue.toInt = 2 ^ 63 - 1 := by decide

theorem toInt_le_max (d : Duration) : d.toInt ≤ 2 ^ 63 - 1 := by
  have h := d.toInt_le
  rw [maxValue_toInt] at h
  exact h

/-- A difference that is not negative compares as an integer, up to saturation at the largest
duration. -/
theorem sub_le_iff {t u : ℤ} (h : u ≤ t) (d : Duration) :
    sub t u ≤ d ↔ t - u ≤ d.toInt ∨ d = Int64.maxValue := by
  have hd := toInt_le_max d
  have hmin : Int64.minValue.toInt = -2 ^ 63 := by decide
  rw [Int64.le_iff_toInt_le]
  unfold sub
  by_cases hbig : t - u > Int64.maxValue.toInt
  · -- the difference saturates, and only the largest duration is not below it
    rw [if_pos hbig, maxValue_toInt]
    rw [maxValue_toInt] at hbig
    constructor
    · intro hle
      exact Or.inr (Int64.toInt_inj.mp (by rw [maxValue_toInt]; omega))
    · rintro (hle | rfl)
      · omega
      · exact Int.le_of_eq maxValue_toInt.symm
  · rw [maxValue_toInt] at hbig
    have hfit : (Int64.ofInt (t - u)).toInt = t - u :=
      Int64.toInt_ofInt_of_le (by omega) (by omega)
    rw [if_neg (by rw [maxValue_toInt]; exact hbig), if_neg (by rw [hmin]; omega), hfit]
    constructor
    · exact Or.inl
    · rintro (hle | rfl)
      · exact hle
      · rw [maxValue_toInt]; omega

/-- A difference that is at most a duration, not a negative one, compares as such. -/
theorem sub_le_of_le {t u : ℤ} {d : Duration} (hd : 0 ≤ d.toInt) (h : t - u ≤ d.toInt) : sub t u ≤ d := by
  by_cases hle : u ≤ t
  · exact (sub_le_iff hle d).mpr (Or.inl h)
  · have hmin : Int64.minValue.toInt = -2 ^ 63 := by decide
    rw [Int64.le_iff_toInt_le]
    unfold sub
    rw [if_neg (by rw [maxValue_toInt]; omega)]
    split
    · rw [hmin]
      omega
    · next hlow =>
      rw [hmin] at hlow
      rw [Int64.toInt_ofInt_of_le (by omega) (by omega)]
      exact h

/-- A later time is farther from `u`. -/
theorem sub_le_of_earlier {t t' u : ℤ} {d : Duration} (h : t ≤ t') (hd : sub t' u ≤ d) : sub t u ≤ d := by
  have hlow := d.le_toInt
  have hmin : Int64.minValue.toInt = -2 ^ 63 := by decide
  rw [Int64.le_iff_toInt_le] at hd ⊢
  unfold sub at hd ⊢
  simp only [maxValue_toInt, hmin] at hd ⊢
  -- the two differences saturate at the same ends
  split at hd
  · have hmax : Int64.maxValue.toInt ≤ d.toInt := hd
    exact Int.le_trans (Int64.toInt_le _) hmax
  · split
    · omega
    · split at hd
      · split
        · rw [hmin]
          exact hlow
        · omega
      · rw [Int64.toInt_ofInt_of_le (by omega) (by omega)] at hd
        split
        · rw [hmin]
          exact hlow
        · rw [Int64.toInt_ofInt_of_le (by omega) (by omega)]
          omega

/-- A product of a count and a unit that stays within 64 bits does not wrap around. -/
theorem toInt_mul_of_le {a b : Duration} (hlo : -2 ^ 63 ≤ a.toInt * b.toInt)
    (hhi : a.toInt * b.toInt ≤ 2 ^ 63 - 1) : (a * b).toInt = a.toInt * b.toInt := by
  rw [Int64.toInt_mul]
  exact Int.bmod_eq_of_le (by omega) (by omega)

/-- **A count of a unit.** The product is that many units, and positive, exactly if the count is positive and the
product stays within 64 bits. -/
theorem scaled_iff {n u : Duration} (hu : 0 < u.toInt) :
    0 < (n * u).toInt ∧ (n * u).toInt = n.toInt * u.toInt ↔ 0 < n.toInt ∧ n.toInt * u.toInt ≤ 2 ^ 63 - 1 := by
  constructor
  · rintro ⟨hpos, heq⟩
    refine ⟨Int.not_le.mp fun hn => ?_, by rw [← heq]; exact toInt_le_max _⟩
    have hle : n.toInt * u.toInt ≤ 0 := Int.mul_nonpos_of_nonpos_of_nonneg hn (by omega)
    omega
  · rintro ⟨hpos, hle⟩
    have hprod : 0 < n.toInt * u.toInt := Int.mul_pos hpos hu
    have heq : (n * u).toInt = n.toInt * u.toInt := toInt_mul_of_le (by omega) hle
    exact ⟨by rw [heq]; exact hprod, heq⟩

end GoTime
