import GoauthServer.Service.Deployment

/-!
# The password policy

`password.Validate` is documented to ask for an upper-case letter A-Z, a lower-case letter a-z and a digit 0-9. Its
loop asks `unicode.IsUpper(r) && r <= 'Z'`, `unicode.IsLower(r) && r >= 'a'` and `unicode.IsDigit(r)`. The first
is what the policy says, since there is no upper-case letter below `A`. The other two let in letters and digits of
other scripts: `é` counts as a lower-case letter, and `٣` as a digit (`foreign_letters_accepted`).

`validate_ok_iff` says exactly what is accepted, and `policy_exact_iff` when that is the policy.
-/

namespace GoauthServer

/-! ### The library -/

/-- What is known of the character classes of Go's `unicode`: what they are among the ASCII characters, and that
digits are not letters. -/
structure Lib.UnicodeClasses (lib : Lib) : Prop where
  upper : ∀ c : Char, c.toNat < 128 → (lib.isUpper c = true ↔ 'A' ≤ c ∧ c ≤ 'Z')
  lower : ∀ c : Char, c.toNat < 128 → (lib.isLower c = true ↔ 'a' ≤ c ∧ c ≤ 'z')
  digit : ∀ c : Char, c.toNat < 128 → (lib.isDigit c = true ↔ '0' ≤ c ∧ c ≤ '9')
  digit_not_lower : ∀ c : Char, lib.isDigit c = true → lib.isLower c = false

/-- The entries of the denylist, by the text of the file (`init`; the case is folded in `validatePassword`). -/
def denyEntries (denylistRaw : String) : List String :=
  ((denylistRaw.toList.splitOn '\n').map fun line => Text.trimSpace (String.ofList line)).filter (· ≠ "")

/-- The library with this denylist. -/
def Lib.withDenylist (lib : Lib) (denylistRaw : String) : Lib := { lib with denylist := denyEntries denylistRaw }

/-! ### The policy -/

/-- The rules of the policy apart from lower-case letters and digits. -/
structure OtherRules (lib : Lib) (denylistRaw password userEmail : String) : Prop where
  length : 12 ≤ password.toList.length
  upper : ∃ c ∈ password.toList, 'A' ≤ c ∧ c ≤ 'Z'
  special : ∃ c ∈ password.toList, c ∈ specialChars
  notDenied : ∀ line ∈ denylistRaw.toList.splitOn '\n', Text.trimSpace (String.ofList line) ≠ "" →
    lib.toLower password ≠ lib.toLower (Text.trimSpace (String.ofList line))
  notEmail : localPart userEmail ≠ [] →
    ¬ (lib.toLower (String.ofList (localPart userEmail))).toList <:+: (lib.toLower password).toList

/-- The password has a lower-case letter a-z and a digit 0-9. -/
def HasAsciiClasses (password : String) : Prop :=
  (∃ c ∈ password.toList, 'a' ≤ c ∧ c ≤ 'z') ∧ ∃ c ∈ password.toList, '0' ≤ c ∧ c ≤ '9'

/-- What the loop takes for these. -/
def HasUnicodeClasses (lib : Lib) (password : String) : Prop :=
  (∃ c ∈ password.toList, 'a' ≤ c ∧ lib.isLower c = true) ∧ ∃ c ∈ password.toList, lib.isDigit c = true

/-- **The policy**, as it is documented. -/
def MeetsPolicy (lib : Lib) (denylistRaw password userEmail : String) : Prop :=
  OtherRules lib denylistRaw password userEmail ∧ HasAsciiClasses password

/-! ### The loop -/

/-- A character that counts for the first class of the loop. -/
def countsUpper (lib : Lib) (c : Char) : Bool := lib.isUpper c && decide (c ≤ 'Z')

def countsLower (lib : Lib) (c : Char) : Bool := !countsUpper lib c && (lib.isLower c && decide ('a' ≤ c))

def countsDigit (lib : Lib) (c : Char) : Bool :=
  !countsUpper lib c && !(lib.isLower c && decide ('a' ≤ c)) && lib.isDigit c

def countsSpecial (lib : Lib) (c : Char) : Bool :=
  !countsUpper lib c && !(lib.isLower c && decide ('a' ≤ c)) && !lib.isDigit c && specialChars.contains c

/-- **The flags after the loop.** -/
theorem foldl_add (lib : Lib) (cs : List Char) (acc : CharClasses) : cs.foldl (CharClasses.add lib) acc =
      ⟨acc.upper || cs.any (countsUpper lib), acc.lower || cs.any (countsLower lib),
        acc.digit || cs.any (countsDigit lib), acc.special || cs.any (countsSpecial lib)⟩ := by
  induction cs generalizing acc with
  | nil => simp
  | cons c cs ih =>
    rw [List.foldl_cons, ih]
    simp only [List.any_cons, ← Bool.or_assoc]
    -- one turn of the loop sets the flag of the first class that the character is in
    unfold CharClasses.add countsLower countsDigit countsSpecial countsUpper
    cases lib.isUpper c && decide (c ≤ 'Z')
    · cases lib.isLower c && decide ('a' ≤ c)
      · cases lib.isDigit c
        · cases specialChars.contains c <;> simp
        · simp
      · simp
    · simp

section Classes

variable {lib : Lib} (h : lib.UnicodeClasses) {c : Char}

include h

theorem countsUpper_iff : countsUpper lib c = true ↔ 'A' ≤ c ∧ c ≤ 'Z' := by
  unfold countsUpper
  rw [Bool.and_eq_true, decide_eq_true_eq]
  constructor
  · rintro ⟨hupper, hle⟩
    exact (h.upper c (lt_of_le_of_lt (show c.toNat ≤ 'Z'.toNat from hle) (by decide))).mp hupper
  · rintro ⟨hge, hle⟩
    exact ⟨(h.upper c (lt_of_le_of_lt (show c.toNat ≤ 'Z'.toNat from hle) (by decide))).mpr ⟨hge, hle⟩, hle⟩

/-- There is nothing to count from `a` on but what `IsLower` says. -/
theorem countsLower_iff : countsLower lib c = true ↔ 'a' ≤ c ∧ lib.isLower c = true := by
  unfold countsLower
  rw [Bool.and_eq_true, Bool.and_eq_true, Bool.not_eq_true', decide_eq_true_eq]
  constructor
  · rintro ⟨_, hlower, hge⟩
    exact ⟨hge, hlower⟩
  · rintro ⟨hge, hlower⟩
    refine ⟨?_, hlower, hge⟩
    rw [Bool.eq_false_iff, Ne, countsUpper_iff h]
    rintro ⟨_, hle⟩
    exact absurd (Char.le_trans hge hle) (by decide)

theorem countsDigit_iff : countsDigit lib c = true ↔ lib.isDigit c = true := by
  unfold countsDigit
  rw [Bool.and_eq_true, Bool.and_eq_true, Bool.not_eq_true', Bool.not_eq_true']
  constructor
  · exact fun hc => hc.2
  · intro hdigit
    refine ⟨⟨?_, ?_⟩, hdigit⟩
    · rw [Bool.eq_false_iff, Ne, countsUpper_iff h]
      rintro ⟨hge, hle⟩
      -- an upper-case letter is an ASCII character, and the ASCII digits come before them
      have hascii : c.toNat < 128 := lt_of_le_of_lt (show c.toNat ≤ 'Z'.toNat from hle) (by decide)
      exact absurd (Char.le_trans hge ((h.digit c hascii).mp hdigit).2) (by decide)
    · rw [h.digit_not_lower c hdigit, Bool.false_and]

theorem countsSpecial_iff : countsSpecial lib c = true ↔ c ∈ specialChars := by
  unfold countsSpecial
  rw [Bool.and_eq_true, Bool.and_eq_true, Bool.and_eq_true, Bool.not_eq_true', Bool.not_eq_true',
    Bool.not_eq_true', List.contains_iff_mem]
  constructor
  · exact fun hc => hc.2
  · intro hspecial
    -- the special characters are ASCII characters of no other class
    have hclass : (specialChars.all fun c => decide (c.toNat < 128 ∧ ¬ ('A' ≤ c ∧ c ≤ 'Z') ∧ ¬ ('a' ≤ c ∧ c ≤ 'z') ∧
        ¬ ('0' ≤ c ∧ c ≤ '9'))) = true := by decide
    obtain ⟨hascii, hupper, hlower, hdigit⟩ := of_decide_eq_true (List.all_eq_true.mp hclass c hspecial)
    refine ⟨⟨⟨?_, ?_⟩, ?_⟩, hspecial⟩
    · rw [Bool.eq_false_iff, Ne, countsUpper_iff h]
      exact hupper
    · rw [Bool.eq_false_iff.mpr (mt (h.lower c hascii).mp hlower), Bool.false_and]
    · exact Bool.eq_false_iff.mpr (mt (h.digit c hascii).mp hdigit)

/-- A lower-case letter a-z and a digit 0-9 count as such. -/
theorem HasAsciiClasses.unicode {password : String} (hascii : HasAsciiClasses password) :
    HasUnicodeClasses lib password := by
  obtain ⟨⟨c, hc, hge, hle⟩, d, hd, hdge, hdle⟩ := hascii
  have hc128 : c.toNat < 128 := lt_of_le_of_lt (show c.toNat ≤ 'z'.toNat from hle) (by decide)
  have hd128 : d.toNat < 128 := lt_of_le_of_lt (show d.toNat ≤ '9'.toNat from hdle) (by decide)
  exact ⟨⟨c, hc, hge, (h.lower c hc128).mpr ⟨hge, hle⟩⟩, d, hd, (h.digit d hd128).mpr ⟨hdge, hdle⟩⟩

end Classes

/-! ### What is accepted -/

theorem mem_denyEntries {lib : Lib} {denylistRaw password : String} :
    lib.toLower password ∈ (denyEntries denylistRaw).map lib.toLower ↔
      ∃ line ∈ denylistRaw.toList.splitOn '\n', Text.trimSpace (String.ofList line) ≠ "" ∧
        lib.toLower password = lib.toLower (Text.trimSpace (String.ofList line)) := by
  simp only [denyEntries, List.mem_map, List.mem_filter, decide_eq_true_eq]
  constructor
  · rintro ⟨entry, ⟨⟨line, hline, rfl⟩, hne⟩, heq⟩
    exact ⟨line, hline, hne, heq.symm⟩
  · rintro ⟨line, hline, hne, heq⟩
    exact ⟨_, ⟨⟨line, hline, rfl⟩, hne⟩, heq.symm⟩

/-- A check that a call must pass. -/
theorem ite_error_eq_ok {P : Prop} [Decidable P] {e : AuthError} {r : Except AuthError Unit} :
    (if P then .error e else r) = .ok () ↔ ¬ P ∧ r = .ok () := by
  by_cases hP : P <;> simp [hP]

/-- **What `Validate` accepts.** -/
theorem validate_ok_iff {lib : Lib} (h : lib.UnicodeClasses) (denylistRaw password userEmail : String) :
    validatePassword (lib.withDenylist denylistRaw) password userEmail = .ok () ↔
      OtherRules lib denylistRaw password userEmail ∧ HasUnicodeClasses lib password := by
  have hany : ∀ {p : Char → Bool} {P : Char → Prop}, (∀ c, p c = true ↔ P c) →
      (password.toList.any p = true ↔ ∃ c ∈ password.toList, P c) := by
    intro p P hp
    simp only [List.any_eq_true, hp]
  have hupper := hany fun c => countsUpper_iff h (c := c)
  have hlower := hany fun c => countsLower_iff h (c := c)
  have hdigit := hany fun c => countsDigit_iff h (c := c)
  have hspecial := hany fun c => countsSpecial_iff h (c := c)
  unfold validatePassword
  rw [foldl_add]
  simp only [ite_error_eq_ok, Bool.false_or, not_lt, Bool.not_eq_true', Bool.not_eq_false, and_true]
  rw [show (password.toList.any (countsUpper (lib.withDenylist denylistRaw)) = true ↔ _) from hupper,
    show (password.toList.any (countsLower (lib.withDenylist denylistRaw)) = true ↔ _) from hlower,
    show (password.toList.any (countsDigit (lib.withDenylist denylistRaw)) = true ↔ _) from hdigit,
    show (password.toList.any (countsSpecial (lib.withDenylist denylistRaw)) = true ↔ _) from hspecial,
    Text.contains_iff_infix, List.contains_iff_mem]
  constructor
  · rintro ⟨hlen, hu, hl, hd, hs, hdeny, hmail⟩
    refine ⟨⟨hlen, hu, hs, fun line hline hne heq => ?_, fun hlocal hinfix => hmail ⟨hlocal, hinfix⟩⟩, hl, hd⟩
    exact hdeny (mem_denyEntries.mpr ⟨line, hline, hne, heq⟩)
  · rintro ⟨hother, hl, hd⟩
    refine ⟨hother.length, hother.upper, hl, hd, hother.special, fun hdeny => ?_, fun hmail => ?_⟩
    · obtain ⟨line, hline, hne, heq⟩ := mem_denyEntries.mp hdeny
      exact hother.notDenied line hline hne heq
    · exact hother.notEmail hmail.1 hmail.2

/-- **The policy, exactly.** `Validate` accepts the passwords that the policy allows exactly where a password that
has lower-case letters and digits of any script, and meets the other rules, also has a letter a-z and a digit
0-9. -/
theorem policy_exact_iff {lib : Lib} (h : lib.UnicodeClasses) (denylistRaw password userEmail : String) :
    (validatePassword (lib.withDenylist denylistRaw) password userEmail = .ok () ↔
        MeetsPolicy lib denylistRaw password userEmail) ↔
      (OtherRules lib denylistRaw password userEmail → HasUnicodeClasses lib password →
        HasAsciiClasses password) := by
  rw [validate_ok_iff h]
  constructor
  · intro hiff hother hunicode
    exact (hiff.mp ⟨hother, hunicode⟩).2
  · intro hnarrow
    constructor
    · rintro ⟨hother, hunicode⟩
      exact ⟨hother, hnarrow hother hunicode⟩
    · rintro ⟨hother, hascii⟩
      exact ⟨hother, hascii.unicode h⟩

section Examples

open Deployment

/-- The letters and digits of ASCII, the lower-case letters of Latin-1 and the Arabic-Indic digits, which are among
those of `unicode`. -/
def latinLib : Lib :=
  { lib with
    isLower := fun c => c.isLower || decide (c.toNat = 0xb5 ∨ 0xdf ≤ c.toNat ∧ c.toNat ≤ 0xff ∧ c.toNat ≠ 0xf7)
    isDigit := fun c => c.isDigit || decide (0x660 ≤ c.toNat ∧ c.toNat ≤ 0x669) }

theorem isLower_iff (c : Char) : c.isLower = true ↔ 'a' ≤ c ∧ c ≤ 'z' :=
  (Bool.and_eq_true _ _).to_iff.trans (and_congr decide_eq_true_iff decide_eq_true_iff)

theorem isDigit_iff (c : Char) : c.isDigit = true ↔ '0' ≤ c ∧ c ≤ '9' :=
  (Bool.and_eq_true _ _).to_iff.trans (and_congr decide_eq_true_iff decide_eq_true_iff)

theorem latinLib_classes : latinLib.UnicodeClasses where
  upper c _ := decide_eq_true_iff
  lower c hc := by
    have hother : ¬ (c.toNat = 0xb5 ∨ 0xdf ≤ c.toNat ∧ c.toNat ≤ 0xff ∧ c.toNat ≠ 0xf7) := by omega
    simp only [latinLib, decide_eq_false hother, Bool.or_false]
    exact isLower_iff c
  digit c hc := by
    have hother : ¬ (0x660 ≤ c.toNat ∧ c.toNat ≤ 0x669) := by omega
    simp only [latinLib, decide_eq_false hother, Bool.or_false]
    exact isDigit_iff c
  digit_not_lower c hc := by
    rw [Bool.eq_false_iff]
    intro hlower
    simp only [latinLib, Bool.or_eq_true, decide_eq_true_eq, isLower_iff, isDigit_iff] at hc hlower
    -- the ranges of the digits and of the lower-case letters have no code point in common
    have hdigit : 48 ≤ c.toNat ∧ c.toNat ≤ 57 ∨ 0x660 ≤ c.toNat ∧ c.toNat ≤ 0x669 := hc
    have hletter : 97 ≤ c.toNat ∧ c.toNat ≤ 122 ∨
        (c.toNat = 0xb5 ∨ 0xdf ≤ c.toNat ∧ c.toNat ≤ 0xff ∧ c.toNat ≠ 0xf7) := hlower
    omega

/-- A password of ASCII characters. -/
theorem policy_exact_iff_ascii :
    validatePassword (latinLib.withDenylist "password\nqwerty\n") "Tr0ub4dor&3-horse" "ann@example.com" = .ok () ∧
      MeetsPolicy latinLib "password\nqwerty\n" "Tr0ub4dor&3-horse" "ann@example.com" := by
  have hok : validatePassword (latinLib.withDenylist "password\nqwerty\n") "Tr0ub4dor&3-horse" "ann@example.com" =
      .ok () := by decide +kernel
  refine ⟨hok, ((policy_exact_iff latinLib_classes _ _ _).mpr fun _ _ => ?_).mp hok⟩
  exact ⟨⟨'r', by decide, by decide⟩, '0', by decide, by decide⟩

/-- **Letters and digits of other scripts are accepted**: the password has no letter a-z and no digit 0-9. -/
theorem foreign_letters_accepted :
    validatePassword (latinLib.withDenylist "") "HORSE-BATTERY-é٣" "ann@example.com" = .ok () ∧
      ¬ (∃ c ∈ "HORSE-BATTERY-é٣".toList, 'a' ≤ c ∧ c ≤ 'z') ∧
      ¬ ∃ c ∈ "HORSE-BATTERY-é٣".toList, '0' ≤ c ∧ c ≤ '9' := by
  have hclass : ("HORSE-BATTERY-é٣".toList.all fun c =>
      decide (¬ ('a' ≤ c ∧ c ≤ 'z') ∧ ¬ ('0' ≤ c ∧ c ≤ '9'))) = true := by decide
  refine ⟨by decide +kernel, ?_, ?_⟩
  · rintro ⟨c, hc, hlower⟩
    exact (of_decide_eq_true (List.all_eq_true.mp hclass c hc)).1 hlower
  · rintro ⟨c, hc, hdigit⟩
    exact (of_decide_eq_true (List.all_eq_true.mp hclass c hc)).2 hdigit

end Examples

end GoauthServer
