import Mathlib.Data.List.Basic
import Mathlib.Tactic.IntervalCases

/-!
# JSON, as Go's `encoding/json` reads and writes it

Texts are lists of runes. What is written are objects whose members are strings (`object`): control
characters and the quotation mark are escaped, and so are `<`, `>`, `&` and the separators U+2028 and
U+2029, for the sake of HTML and JavaScript. What is read is any document (`parse`), as far as a decoder
of strings needs it: the members of an object at the top with the strings among their values.
Reading an object that was written gives its members (`parse_object`).

The reader takes what the scanner of the package takes: white space between tokens, all escapes with the
pairs of surrogates, at most 10000 levels. Where a surrogate has no partner it reads U+FFFD.
-/

namespace Json

/-! ### Writing -/

/-- A hexadecimal digit. -/
def hexDigit (n : ℕ) : Char := Char.ofNat (if n < 10 then 48 + n else 87 + n)

/-- One rune of a string, escaped where it has to be. -/
def escape (c : Char) : List Char :=
  if c = '"' then ['\\', '"']
  else if c = '\\' then ['\\', '\\']
  else if c = '\x08' then ['\\', 'b']
  else if c = '\x0c' then ['\\', 'f']
  else if c = '\n' then ['\\', 'n']
  else if c = '\r' then ['\\', 'r']
  else if c = '\t' then ['\\', 't']
  else if c.toNat < 32 ∨ c = '<' ∨ c = '>' ∨ c = '&' then
    ['\\', 'u', '0', '0', hexDigit (c.toNat / 16), hexDigit (c.toNat % 16)]
  else if c = '\u2028' ∨ c = '\u2029' then ['\\', 'u', '2', '0', '2', hexDigit (c.toNat % 16)]
  else [c]

/-- A string literal. -/
def quote (s : List Char) : List Char := '"' :: (s.flatMap escape ++ ['"'])

/-- A member of an object. -/
def member (m : List Char × List Char) : List Char := quote m.1 ++ ':' :: quote m.2

/-- An object with these strings as members. -/
def object (ms : List (List Char × List Char)) : List Char :=
  '\x7b' :: (List.intercalate [','] (ms.map member) ++ ['\x7d'])

/-! ### Reading -/

/-- White space between tokens. -/
def isSpace (c : Char) : Bool := c == ' ' || c == '\t' || c == '\r' || c == '\n'

def skipSpace (s : List Char) : List Char := s.dropWhile isSpace

def hexValue (c : Char) : Option ℕ :=
  if '0' ≤ c ∧ c ≤ '9' then some (c.toNat - 48)
  else if 'a' ≤ c ∧ c ≤ 'f' then some (c.toNat - 87)
  else if 'A' ≤ c ∧ c ≤ 'F' then some (c.toNat - 55)
  else none

/-- Four hexadecimal digits. -/
def hex4 (a b c d : Char) : Option ℕ := do
  let a ← hexValue a
  let b ← hexValue b
  let c ← hexValue c
  let d ← hexValue d
  return ((a * 16 + b) * 16 + c) * 16 + d

/-- The escapes of one character. -/
def unescape (c : Char) : Option Char :=
  if c = '"' ∨ c = '\\' ∨ c = '/' then some c
  else if c = 'b' then some '\x08'
  else if c = 'f' then some '\x0c'
  else if c = 'n' then some '\n'
  else if c = 'r' then some '\r'
  else if c = 't' then some '\t'
  else none

/-- A second surrogate, escaped. -/
def lowSurrogate : List Char → Option (ℕ × List Char)
  | '\\' :: 'u' :: a :: b :: c :: d :: rest =>
    (hex4 a b c d).bind fun n => if 0xDC00 ≤ n ∧ n < 0xE000 then some (n, rest) else none
  | _ => none

/-- The rune of an escaped number, which may be the first of two surrogates. -/
def escapedRune (n : ℕ) (rest : List Char) : Char × List Char :=
  if 0xD800 ≤ n ∧ n < 0xE000 then
    match lowSurrogate rest with
    | some (low, rest') =>
      if n < 0xDC00 then (Char.ofNat ((n - 0xD800) * 0x400 + (low - 0xDC00) + 0x10000), rest')
      else ('\uFFFD', rest)
    | none => ('\uFFFD', rest)
  else (Char.ofNat n, rest)

/-- The next rune of a string literal, or its end. -/
def nextRune : List Char → Option (Option Char × List Char)
  | [] => none
  | '"' :: rest => some (none, rest)
  | '\\' :: 'u' :: a :: b :: c :: d :: rest =>
    (hex4 a b c d).map fun n => ((escapedRune n rest).map some id)
  | '\\' :: c :: rest => (unescape c).map fun c => (some c, rest)
  | c :: rest => if c = '\\' ∨ c.toNat < 32 then none else some (some c, rest)

/-- What is left of a string literal of at most `n` runes, and what follows it. -/
def runes : ℕ → List Char → Option (List Char × List Char)
  | 0, _ => none
  | n + 1, s =>
    match nextRune s with
    | none => none
    | some (none, rest) => some ([], rest)
    | some (some c, rest) => (runes n rest).map fun r => (c :: r.1, r.2)

/-- A string literal, after its quotation mark. -/
def string (s : List Char) : Option (List Char × List Char) := runes s.length s

/-- A value, as a decoder of strings sees it. -/
inductive Value where
  | null
  | string (s : List Char)
  | other
  deriving DecidableEq

/-- One or more digits. -/
def digits : List Char → Option (List Char)
  | c :: rest => if c.isDigit then some (rest.dropWhile Char.isDigit) else none
  | [] => none

/-- A number; only what follows it is of interest. -/
def number (s : List Char) : Option (List Char) := do
  let s := match s with
    | '-' :: rest => rest
    | s => s
  let s ← match s with
    | '0' :: rest => some rest
    | s => digits s
  let s ← match s with
    | '.' :: rest => digits rest
    | s => some s
  match s with
  | 'e' :: '+' :: rest | 'e' :: '-' :: rest | 'E' :: '+' :: rest | 'E' :: '-' :: rest => digits rest
  | 'e' :: rest | 'E' :: rest => digits rest
  | s => some s

def maxNestingDepth : ℕ := 10000

mutual

/-- A value, inside `depth` objects and arrays. -/
def value : ℕ → ℕ → List Char → Option (Value × List Char)
  | 0, _, _ => none
  | n + 1, depth, s =>
    match skipSpace s with
    | '"' :: rest => (string rest).map fun r => (.string r.1, r.2)
    | '\x7b' :: rest =>
      if maxNestingDepth ≤ depth then none
      else
        match skipSpace rest with
        | '\x7d' :: rest => some (.other, rest)
        | s => (members n (depth + 1) s).map fun r => (.other, r.2)
    | '[' :: rest =>
      if maxNestingDepth ≤ depth then none
      else
        match skipSpace rest with
        | ']' :: rest => some (.other, rest)
        | s => (elements n (depth + 1) s).map fun r => (.other, r)
    | 'n' :: 'u' :: 'l' :: 'l' :: rest => some (.null, rest)
    | 't' :: 'r' :: 'u' :: 'e' :: rest => some (.other, rest)
    | 'f' :: 'a' :: 'l' :: 's' :: 'e' :: rest => some (.other, rest)
    | s => (number s).map fun r => (.other, r)

/-- The members of an object, to its end. -/
def members : ℕ → ℕ → List Char → Option (List (List Char × Value) × List Char)
  | 0, _, _ => none
  | n + 1, depth, s =>
    match skipSpace s with
    | '"' :: rest =>
      match string rest with
      | none => none
      | some (key, rest) =>
        match skipSpace rest with
        | ':' :: rest =>
          match value n depth rest with
          | none => none
          | some (v, rest) =>
            match skipSpace rest with
            | ',' :: rest => (members n depth rest).map fun r => ((key, v) :: r.1, r.2)
            | '\x7d' :: rest => some ([(key, v)], rest)
            | _ => none
        | _ => none
    | _ => none

/-- The elements of an array, to its end. -/
def elements : ℕ → ℕ → List Char → Option (List Char)
  | 0, _, _ => none
  | n + 1, depth, s =>
    match value n depth s with
    | none => none
    | some (_, rest) =>
      match skipSpace rest with
      | ',' :: rest => elements n depth rest
      | ']' :: rest => some rest
      | _ => none

end

/-- A document. -/
inductive Document where
  | object (ms : List (List Char × Value))
  | value (v : Value)
  deriving DecidableEq

/-- The text is one document. Every token is at least one rune long, which bounds the recursion. -/
def parse (s : List Char) : Option Document :=
  let atEnd (d : Document) (rest : List Char) : Option Document :=
    if skipSpace rest = [] then some d else none
  match skipSpace s with
  | '\x7b' :: rest =>
    match skipSpace rest with
    | '\x7d' :: rest => atEnd (.object []) rest
    | t => (members s.length 1 t).bind fun r => atEnd (.object r.1) r.2
  | t => (value s.length 0 t).bind fun r => atEnd (.value r.1) r.2

/-! ### Reading what was written -/

theorem hexValue_hexDigit {n : ℕ} (h : n < 16) : hexValue (hexDigit n) = some n := by
  interval_cases n <;> decide

/-- A rune below the surrogates, from its number. -/
theorem escapedRune_toNat {c : Char} (h : c.toNat < 0xD800) (rest : List Char) :
    escapedRune c.toNat rest = (c, rest) := by
  unfold escapedRune
  rw [if_neg (by omega), Char.ofNat_toNat]

theorem nextRune_hex {a b c d : Char} {r : Char} (h : hex4 a b c d = some r.toNat)
    (hr : r.toNat < 0xD800) (rest : List Char) :
    nextRune ('\\' :: 'u' :: a :: b :: c :: d :: rest) = some (some r, rest) := by
  show (hex4 a b c d).map _ = _
  rw [h, Option.map_some, escapedRune_toNat hr]
  rfl

theorem nextRune_plain {c : Char} (hquote : c ≠ '"') (hslash : c ≠ '\\') (hctl : ¬ c.toNat < 32)
    (rest : List Char) : nextRune (c :: rest) = some (some c, rest) := by
  unfold nextRune
  split
  · next h => cases h
  · next h => exact absurd (List.cons.inj h).1 hquote
  · next h => exact absurd (List.cons.inj h).1 hslash
  · next h => exact absurd (List.cons.inj h).1 hslash
  · next h =>
    obtain ⟨rfl, rfl⟩ := List.cons.inj h
    rw [if_neg (not_or.mpr ⟨hslash, hctl⟩)]

/-- **One rune.** -/
theorem nextRune_escape (c : Char) (rest : List Char) :
    nextRune (escape c ++ rest) = some (some c, rest) := by
  have hdigits : hexValue (hexDigit (c.toNat % 16)) = some (c.toNat % 16) :=
    hexValue_hexDigit (Nat.mod_lt _ (by decide))
  unfold escape
  split
  · next h => subst h; rfl
  next hquote =>
  split
  · next h => subst h; rfl
  next hslash =>
  split
  · next h => subst h; rfl
  split
  · next h => subst h; rfl
  split
  · next h => subst h; rfl
  split
  · next h => subst h; rfl
  split
  · next h => subst h; rfl
  split
  · -- the control characters that are left, and those of HTML
    next h =>
    have hlt : c.toNat < 128 := by
      rcases h with h | rfl | rfl | rfl
      · omega
      · decide
      · decide
      · decide
    have hfirst : hexValue (hexDigit (c.toNat / 16)) = some (c.toNat / 16) :=
      hexValue_hexDigit (by omega)
    refine nextRune_hex ?_ (by omega) rest
    unfold hex4
    rw [hfirst, hdigits]
    show some (((0 * 16 + 0) * 16 + c.toNat / 16) * 16 + c.toNat % 16) = _
    congr 1
    omega
  next hctl =>
  split
  · next h =>
    rcases h with rfl | rfl
    · rfl
    · rfl
  · exact nextRune_plain hquote hslash (fun h => hctl (Or.inl h)) rest

theorem escape_ne_nil (c : Char) : escape c ≠ [] := by
  unfold escape
  repeat' split
  all_goals exact List.cons_ne_nil _ _

theorem length_le_length_escape (s : List Char) : s.length ≤ (s.flatMap escape).length := by
  induction s with
  | nil => exact Nat.le_refl 0
  | cons c s ih =>
    have hpos := List.length_pos_of_ne_nil (escape_ne_nil c)
    rw [List.flatMap_cons, List.length_append, List.length_cons]
    omega

theorem runes_escape {n : ℕ} (s rest : List Char) (h : s.length < n) :
    runes n (s.flatMap escape ++ '"' :: rest) = some (s, rest) := by
  induction s generalizing n with
  | nil =>
    cases n with
    | zero => cases h
    | succ n => rfl
  | cons c s ih =>
    cases n with
    | zero => cases h
    | succ n =>
      rw [List.flatMap_cons, List.append_assoc, runes, nextRune_escape]
      dsimp only
      rw [ih (Nat.lt_of_succ_lt_succ h)]
      rfl

/-- **A string literal.** -/
theorem string_escape (s rest : List Char) : string (s.flatMap escape ++ '"' :: rest) = some (s, rest) := by
  refine runes_escape s rest ?_
  have hle := length_le_length_escape s
  rw [List.length_append, List.length_cons]
  omega

example : quote "a\"<\u2028\x01".toList = "\"a\\\"\\u003c\\u2028\\u0001\"".toList := by decide

theorem quote_append (s rest : List Char) : quote s ++ rest = '"' :: (s.flatMap escape ++ '"' :: rest) := by
  unfold quote
  rw [List.cons_append, List.append_assoc]
  rfl

theorem value_quote (n depth : ℕ) (s rest : List Char) :
    value (n + 1) depth (quote s ++ rest) = some (.string s, rest) := by
  rw [quote_append]
  show (string (s.flatMap escape ++ '"' :: rest)).map _ = _
  rw [string_escape]
  rfl

/-- What a decoder sees of a member. -/
def seen (m : List Char × List Char) : List Char × Value := (m.1, .string m.2)

/-- **One member**, and what stands after it. -/
theorem members_member (n depth : ℕ) (m : List Char × List Char) (rest : List Char) :
    members (n + 2) depth (member m ++ rest) = match skipSpace rest with
      | ',' :: rest => (members (n + 1) depth rest).map fun r => (seen m :: r.1, r.2)
      | '\x7d' :: rest => some ([seen m], rest)
      | _ => none := by
  have htext : member m ++ rest = '"' :: (m.1.flatMap escape ++ '"' :: ':' :: (quote m.2 ++ rest)) := by
    unfold member
    rw [List.append_assoc, quote_append]
    rfl
  rw [htext, members]
  show (match string (m.1.flatMap escape ++ '"' :: ':' :: (quote m.2 ++ rest)) with
    | none => none
    | some (key, rest) => _) = _
  rw [string_escape]
  show (match value (n + 1) depth (quote m.2 ++ rest) with
    | none => none
    | some (v, rest) => _) = _
  rw [value_quote]
  rfl

/-- **The members of an object**, by induction over them. -/
theorem members_object {n : ℕ} (depth : ℕ) (m : List Char × List Char)
    (ms : List (List Char × List Char)) (rest : List Char) (h : ms.length + 1 < n) :
    members n depth (List.intercalate [','] ((m :: ms).map member) ++ '\x7d' :: rest) =
      some ((m :: ms).map seen, rest) := by
  obtain ⟨n, rfl⟩ : ∃ k, n = k + 2 := ⟨n - 2, by omega⟩
  induction ms generalizing n m with
  | nil =>
    rw [List.map_singleton, List.intercalate_singleton, members_member]
    rfl
  | cons m' ms ih =>
    obtain ⟨n, rfl⟩ : ∃ k, n = k + 1 := ⟨n - 1, by rw [List.length_cons] at h; omega⟩
    have htext : List.intercalate [','] ((m :: m' :: ms).map member) ++ '\x7d' :: rest =
        member m ++ ',' :: (List.intercalate [','] ((m' :: ms).map member) ++ '\x7d' :: rest) := by
      rw [List.map_cons, List.map_cons, List.intercalate_cons_cons]
      simp only [List.append_assoc, List.cons_append, List.nil_append]
    rw [htext, members_member]
    show (members (n + 2) depth _).map _ = _
    rw [ih m' n (by rw [List.length_cons] at h; omega)]
    rfl

theorem length_le_length_members (ms : List (List Char × List Char)) :
    ms.length ≤ (List.intercalate [','] (ms.map member)).length := by
  induction ms with
  | nil => exact Nat.zero_le _
  | cons m ms ih =>
    have hpos : 0 < (member m).length := Nat.succ_pos _
    cases ms with
    | nil =>
      rw [List.map_singleton, List.intercalate_singleton]
      exact hpos
    | cons m' ms =>
      rw [List.map_cons, List.map_cons, List.intercalate_cons_cons, List.length_append,
        List.length_append, List.length_cons]
      rw [List.map_cons] at ih
      omega

/-- **The round trip.** An object that was written is read with its members. -/
theorem parse_object (ms : List (List Char × List Char)) :
    parse (object ms) = some (.object (ms.map seen)) := by
  cases ms with
  | nil => rfl
  | cons m ms =>
    have hlen := length_le_length_members (m :: ms)
    have hread := members_object (n := (object (m :: ms)).length) 1 m ms []
    -- the text starts with the quotation mark of the first key, so the object is not empty
    obtain ⟨t, ht⟩ : ∃ t, List.intercalate [','] ((m :: ms).map member) ++ ['\x7d'] = '"' :: t := by
      cases ms with
      | nil => exact ⟨_, rfl⟩
      | cons m' ms =>
        rw [List.map_cons, List.map_cons, List.intercalate_cons_cons]
        exact ⟨_, rfl⟩
    unfold object at hread ⊢
    rw [ht] at hread ⊢
    show (members _ 1 ('"' :: t)).bind _ = _
    rw [hread ?_]
    · rfl
    · rw [← ht, List.length_cons, List.length_append, List.length_singleton]
      rw [List.length_cons] at hlen
      omega

end Json
