import Mathlib.Data.List.Basic

/-!
# Text as bytes

Go's strings are bytes in UTF-8. Read rune by rune, as `utf8.DecodeRune` does, a byte that starts no
valid sequence counts as U+FFFD, and reading goes on with the next byte. So every sequence of bytes has
its runes, and those of an encoded text are the text (`runes_encode`).
-/

namespace Utf8

/-- The bytes of a text. -/
def encode (s : List Char) : List UInt8 := s.flatMap String.utf8EncodeChar

/-- The rune that the bytes start with, if it is a valid one. -/
def firstRune (bs : List UInt8) : Option Char := bs.toByteArray.utf8DecodeChar? 0

/-- At most `n` runes. -/
def takeRunes : ℕ → List UInt8 → List Char
  | 0, _ => []
  | _ + 1, [] => []
  | n + 1, b :: bs =>
    match firstRune (b :: bs) with
    | some c => c :: takeRunes n ((b :: bs).drop c.utf8Size)
    | none => '\uFFFD' :: takeRunes n bs

/-- The runes of a sequence of bytes. There are no more of them than bytes. -/
def runes (bs : List UInt8) : List Char := takeRunes bs.length bs

@[simp] theorem encode_cons (c : Char) (s : List Char) :
    encode (c :: s) = String.utf8EncodeChar c ++ encode s := List.flatMap_cons

theorem firstRune_append (c : Char) (bs : List UInt8) :
    firstRune (String.utf8EncodeChar c ++ bs) = some c := by
  unfold firstRune
  rw [List.toByteArray_append]
  exact ByteArray.utf8DecodeChar?_utf8EncodeChar_append

theorem length_le_length_encode (s : List Char) : s.length ≤ (encode s).length := by
  induction s with
  | nil => exact Nat.le_refl 0
  | cons c s ih =>
    have hpos := c.utf8Size_pos
    rw [encode_cons, List.length_append, String.length_utf8EncodeChar, List.length_cons]
    omega

theorem takeRunes_encode {n : ℕ} (s : List Char) (h : s.length ≤ n) : takeRunes n (encode s) = s := by
  induction s generalizing n with
  | nil => cases n <;> rfl
  | cons c s ih =>
    cases n with
    | zero => cases h
    | succ n =>
      obtain ⟨b, bs, hb⟩ := List.exists_cons_of_ne_nil (l := String.utf8EncodeChar c)
        String.utf8EncodeChar_ne_nil
      have hfirst := firstRune_append c (encode s)
      have hdrop : (String.utf8EncodeChar c ++ encode s).drop c.utf8Size = encode s := by
        rw [← String.length_utf8EncodeChar c, List.drop_left]
      rw [encode_cons]
      rw [hb, List.cons_append] at hfirst hdrop ⊢
      rw [takeRunes, hfirst]
      dsimp only
      rw [hdrop, ih (Nat.le_of_succ_le_succ h)]

/-- **The runes of an encoded text** are the text. -/
theorem runes_encode (s : List Char) : runes (encode s) = s :=
  takeRunes_encode s (length_le_length_encode s)

end Utf8
