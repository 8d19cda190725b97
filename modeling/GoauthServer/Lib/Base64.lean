import Mathlib.Data.List.Basic
import Mathlib.Tactic.IntervalCases

/-!
# Unpadded base64, as Go's `encoding/base64` reads and writes it

`RawURLEncoding` and `RawStdEncoding` differ in two digits of the alphabet, which are the
parameters of `Alphabet`. Encoding writes three bytes as four digits and a rest of one or two bytes
as two or three digits, with zeros in the bits that are left over. Decoding, in the default mode
that is not strict, is more liberal in two respects: it skips CR and LF, and it ignores the bits
that are left over. So decoding inverts encoding (`decode_encode`), but it is not injective, and a
string is the encoding of what it decodes to only when it is spelled in the one canonical way
(`Canonical`).
-/

namespace Base64

/-- Bytes, as the code's `[]byte`. -/
abbrev Bytes : Type := List UInt8

/-- The two digits in which the alphabets of the encodings differ. -/
structure Alphabet where
  digit62 : Char
  digit63 : Char

/-- `base64.RawURLEncoding`. -/
def rawURL : Alphabet := ⟨'-', '_'⟩

/-- `base64.RawStdEncoding`. -/
def rawStd : Alphabet := ⟨'+', '/'⟩

/-- The digit of a value below 64. -/
def Alphabet.digit (A : Alphabet) (n : ℕ) : Char :=
  if n < 26 then Char.ofNat (65 + n)
  else if n < 52 then Char.ofNat (97 + (n - 26))
  else if n < 62 then Char.ofNat (48 + (n - 52))
  else if n = 62 then A.digit62
  else A.digit63

/-- The value of a digit. -/
def Alphabet.value (A : Alphabet) (c : Char) : Option ℕ :=
  if 65 ≤ c.toNat ∧ c.toNat ≤ 90 then some (c.toNat - 65)
  else if 97 ≤ c.toNat ∧ c.toNat ≤ 122 then some (c.toNat - 97 + 26)
  else if 48 ≤ c.toNat ∧ c.toNat ≤ 57 then some (c.toNat - 48 + 52)
  else if c = A.digit62 then some 62
  else if c = A.digit63 then some 63
  else none

/-- Bytes as digit values, three bytes to four digits. -/
def toSextets : Bytes → List ℕ
  | [] => []
  | [a] => [a.toNat / 4, a.toNat % 4 * 16]
  | [a, b] => [a.toNat / 4, a.toNat % 4 * 16 + b.toNat / 16, b.toNat % 16 * 4]
  | a :: b :: c :: rest =>
    a.toNat / 4 :: (a.toNat % 4 * 16 + b.toNat / 16) :: (b.toNat % 16 * 4 + c.toNat / 64) ::
      c.toNat % 64 :: toSextets rest

/-- Digit values as bytes. A single digit left over is an error; the unused low bits of the last
of two or three digits are ignored. -/
def ofSextets : List ℕ → Option Bytes
  | [] => some []
  | [_] => none
  | [p, q] => some [UInt8.ofNat (p * 4 + q / 16)]
  | [p, q, r] => some [UInt8.ofNat (p * 4 + q / 16), UInt8.ofNat (q % 16 * 16 + r / 4)]
  | p :: q :: r :: s :: rest =>
    (ofSextets rest).map fun bs =>
      UInt8.ofNat (p * 4 + q / 16) :: UInt8.ofNat (q % 16 * 16 + r / 4) ::
        UInt8.ofNat (r % 4 * 64 + s) :: bs

/-- `EncodeToString`. -/
def encode (A : Alphabet) (bs : Bytes) : List Char := (toSextets bs).map A.digit

/-- The characters the decoder skips. -/
def isNewline (c : Char) : Bool := c == '\r' || c == '\n'

/-- `DecodeString`, not strict. -/
def decode (A : Alphabet) (s : List Char) : Option Bytes :=
  ((s.filter fun c => !isNewline c).mapM A.value).bind ofSextets

/-- `s` is spelled the way the encoder spells the bytes it stands for. -/
def Canonical (A : Alphabet) (s : List Char) : Prop :=
  ∃ bs, decode A s = some bs ∧ s = encode A bs

/-! ### Digits -/

/-- An alphabet whose two extra digits are distinct, and not letters, decimal digits or line
breaks. -/
structure Alphabet.Lawful (A : Alphabet) : Prop where
  value_digit : ∀ n < 64, A.value (A.digit n) = some n
  not_newline : ∀ n < 64, isNewline (A.digit n) = false
  not_dot : ∀ n < 64, A.digit n ≠ '.'

theorem rawURL_lawful : rawURL.Lawful where
  value_digit n hn := by revert n; decide
  not_newline n hn := by revert n; decide
  not_dot n hn := by revert n; decide

theorem toSextets_lt (bs : Bytes) : ∀ n ∈ toSextets bs, n < 64 := by
  fun_induction toSextets bs with
  | case1 => simp
  | case2 a =>
    have ha := a.toNat_lt
    simp only [List.mem_cons, List.not_mem_nil, or_false]
    rintro n (rfl | rfl) <;> omega
  | case3 a b =>
    have ha := a.toNat_lt
    have hb := b.toNat_lt
    simp only [List.mem_cons, List.not_mem_nil, or_false]
    rintro n (rfl | rfl | rfl) <;> omega
  | case4 a b c rest ih =>
    have ha := a.toNat_lt
    have hb := b.toNat_lt
    have hc := c.toNat_lt
    simp only [List.mem_cons]
    rintro n (rfl | rfl | rfl | rfl | hn)
    · omega
    · omega
    · omega
    · omega
    · exact ih n hn

/-! ### Decoding inverts encoding -/

/-- A byte is determined by its value. -/
theorem ofNat_eq {n : ℕ} {a : UInt8} (h : n = a.toNat) : UInt8.ofNat n = a := by
  subst h
  exact UInt8.ofNat_toNat

theorem ofSextets_toSextets (bs : Bytes) : ofSextets (toSextets bs) = some bs := by
  fun_induction toSextets bs with
  | case1 => rfl
  | case2 a =>
    have ha := a.toNat_lt
    have h₁ : UInt8.ofNat (a.toNat / 4 * 4 + a.toNat % 4 * 16 / 16) = a := ofNat_eq (by omega)
    rw [ofSextets, h₁]
  | case3 a b =>
    have ha := a.toNat_lt
    have hb := b.toNat_lt
    have h₁ : UInt8.ofNat (a.toNat / 4 * 4 + (a.toNat % 4 * 16 + b.toNat / 16) / 16) = a :=
      ofNat_eq (by omega)
    have h₂ : UInt8.ofNat ((a.toNat % 4 * 16 + b.toNat / 16) % 16 * 16 + b.toNat % 16 * 4 / 4) = b :=
      ofNat_eq (by omega)
    rw [ofSextets, h₁, h₂]
  | case4 a b c rest ih =>
    have ha := a.toNat_lt
    have hb := b.toNat_lt
    have hc := c.toNat_lt
    have h₁ : UInt8.ofNat (a.toNat / 4 * 4 + (a.toNat % 4 * 16 + b.toNat / 16) / 16) = a :=
      ofNat_eq (by omega)
    have h₂ : UInt8.ofNat ((a.toNat % 4 * 16 + b.toNat / 16) % 16 * 16 +
        (b.toNat % 16 * 4 + c.toNat / 64) / 4) = b := ofNat_eq (by omega)
    have h₃ : UInt8.ofNat ((b.toNat % 16 * 4 + c.toNat / 64) % 4 * 64 + c.toNat % 64) = c :=
      ofNat_eq (by omega)
    rw [ofSextets, ih, Option.map_some, h₁, h₂, h₃]

section Lawful

variable {A : Alphabet} (hA : A.Lawful)

include hA

theorem mapM_value_digit {ns : List ℕ} (h : ∀ n ∈ ns, n < 64) : (ns.map A.digit).mapM A.value = some ns := by
  induction ns with
  | nil => rfl
  | cons n ns ih =>
    have hn := hA.value_digit n (h n List.mem_cons_self)
    have hns := ih fun m hm => h m (List.mem_cons_of_mem _ hm)
    rw [List.map_cons, List.mapM_cons, hn, hns]
    rfl

theorem filter_newline_encode (bs : Bytes) : (encode A bs).filter (fun c => !isNewline c) = encode A bs := by
  refine List.filter_eq_self.mpr fun c hc => ?_
  obtain ⟨n, hn, rfl⟩ := List.mem_map.mp hc
  rw [hA.not_newline n (toSextets_lt bs n hn)]
  rfl

/-- **Round trip.** The decoder reads back what the encoder wrote. -/
theorem decode_encode (bs : Bytes) : decode A (encode A bs) = some bs := by
  unfold decode
  rw [filter_newline_encode hA bs]
  unfold encode
  rw [mapM_value_digit hA (toSextets_lt bs)]
  exact ofSextets_toSextets bs

theorem dot_notMem_encode (bs : Bytes) : '.' ∉ encode A bs := by
  intro hc
  obtain ⟨n, hn, heq⟩ := List.mem_map.mp hc
  exact hA.not_dot n (toSextets_lt bs n hn) heq

/-- A string that decodes to `bs` is canonical exactly when it is the encoding of `bs`. -/
theorem canonical_iff {s : List Char} {bs : Bytes} (h : decode A s = some bs) :
    Canonical A s ↔ s = encode A bs := by
  constructor
  · rintro ⟨bs', hd, rfl⟩
    rw [decode_encode hA] at h
    rw [Option.some.inj h]
  · intro hs
    exact ⟨bs, h, hs⟩

end Lawful

/-- A string with a character that is neither a digit nor a line break does not decode. -/
theorem notMem_of_decode {A : Alphabet} {s : List Char} {bs : Bytes} {c : Char} (h : decode A s = some bs)
    (hvalue : A.value c = none) (hc : isNewline c = false) : c ∉ s := by
  intro hmem
  obtain ⟨ns, hns, hbytes⟩ := Option.bind_eq_some_iff.mp h
  clear hbytes
  have hkept : c ∈ s.filter fun c => !isNewline c := by
    rw [List.mem_filter, hc]
    exact ⟨hmem, rfl⟩
  generalize s.filter (fun c => !isNewline c) = t at hns hkept
  induction t generalizing ns with
  | nil => cases hkept
  | cons a t ih =>
    rw [List.mapM_cons] at hns
    obtain ⟨n, hn, hrest⟩ := Option.bind_eq_some_iff.mp hns
    obtain ⟨ns', hns', _⟩ := Option.bind_eq_some_iff.mp hrest
    rcases List.mem_cons.mp hkept with rfl | hkept
    · rw [hvalue] at hn
      cases hn
    · exact ih ns' hns' hkept

/-- Decoding is not injective: the low bits of a last digit that stands alone are ignored. -/
example : decode rawURL "AA".toList = decode rawURL "AB".toList := by decide

end Base64
