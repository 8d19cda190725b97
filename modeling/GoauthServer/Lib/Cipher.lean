import GoauthServer.Lib.Base64

/-!
# Text encrypted with an AEAD cipher

A text is sealed under a key and a nonce, and stored as the unpadded base64 of the nonce followed by the
ciphertext. Reading it back splits the bytes at the size of the nonce. Slices are modelled with their bounds:
one that is out of range is an outcome of its own (`DecryptError.outOfRange`), and the check of the length
rules it out (`decrypt_ne_outOfRange`).

Of the cipher itself one thing is assumed, that opening with the nonce of the seal inverts it. It is a field of
`Gcm`.
-/

namespace Cipher

open Base64

/-- `gcm.NonceSize()`. -/
def nonceSize : ℕ := 12

/-- The key size of AES-256. -/
def keySize : ℕ := 32

/-- AES-256-GCM without additional data, with the conversions between `string` and `[]byte`. -/
structure Gcm where
  /-- `gcm.Seal`: ciphertext and tag. -/
  sealText : (key nonce : Bytes) → (plaintext : String) → Bytes
  /-- `gcm.Open`. -/
  openText : (key nonce ciphertext : Bytes) → Option String
  open_seal : ∀ key nonce plaintext, key.length = keySize → nonce.length = nonceSize →
    openText key nonce (sealText key nonce plaintext) = some plaintext

/-- What decryption can fail with. -/
inductive DecryptError where
  /-- The text is not base64. -/
  | encoding
  | tooShort
  /-- The tag does not fit. -/
  | authentication
  /-- A slice out of range, at which the program would stop. -/
  | outOfRange
  deriving DecidableEq

/-- `data[lo:hi]`. -/
def slice (data : Bytes) (lo hi : ℕ) : Except DecryptError Bytes :=
  if lo ≤ hi ∧ hi ≤ data.length then .ok ((data.take hi).drop lo) else .error .outOfRange

/-- `encrypt`, given the nonce. `gcm.Seal(nonce, nonce, …)` appends to the nonce. -/
def encrypt (g : Gcm) (key : Bytes) (plaintext : String) (nonce : Bytes) : String :=
  String.ofList (encode rawURL (nonce ++ g.sealText key nonce plaintext))

/-- `decrypt`, for a key of the right size. -/
def decrypt (g : Gcm) (key : Bytes) (ciphertext : String) : Except DecryptError String :=
  match decode rawURL ciphertext.toList with
  | none => .error .encoding
  | some data =>
    if data.length < nonceSize then .error .tooShort
    else
      match slice data 0 nonceSize, slice data nonceSize data.length with
      | .error e, _ => .error e
      | _, .error e => .error e
      | .ok nonce, .ok ciphertextBytes =>
        match g.openText key nonce ciphertextBytes with
        | none => .error .authentication
        | some plaintext => .ok plaintext

variable {g : Gcm} {key nonce : Bytes} {data : Bytes}

theorem slice_take {n : ℕ} (h : n ≤ data.length) : slice data 0 n = .ok (data.take n) := by
  unfold slice
  rw [if_pos ⟨n.zero_le, h⟩]
  rfl

theorem slice_drop {n : ℕ} (h : n ≤ data.length) : slice data n data.length = .ok (data.drop n) := by
  unfold slice
  rw [if_pos ⟨h, le_refl _⟩, List.take_length]

/-- The two slices of decryption, where the data is long enough. -/
theorem decrypt_of_decode {ciphertext : String}
    (hdata : decode rawURL ciphertext.toList = some data) (hlen : nonceSize ≤ data.length) :
    decrypt g key ciphertext = match g.openText key (data.take nonceSize) (data.drop nonceSize) with
      | none => .error .authentication
      | some plaintext => .ok plaintext := by
  unfold decrypt
  rw [hdata]
  dsimp only
  rw [if_neg (not_lt.mpr hlen), slice_take hlen, slice_drop hlen]

/-- **Decryption inverts encryption**, for every text and nonce. -/
theorem decrypt_encrypt (hkey : key.length = keySize) (hnonce : nonce.length = nonceSize) (plaintext : String) :
    decrypt g key (encrypt g key plaintext nonce) = .ok plaintext := by
  have hdata : decode rawURL (encrypt g key plaintext nonce).toList =
      some (nonce ++ g.sealText key nonce plaintext) := by
    unfold encrypt
    rw [String.toList_ofList]
    exact decode_encode rawURL_lawful _
  have hlen : nonceSize ≤ (nonce ++ g.sealText key nonce plaintext).length := by
    rw [List.length_append, hnonce]
    exact Nat.le_add_right _ _
  rw [decrypt_of_decode hdata hlen, ← hnonce, List.take_left, List.drop_left, g.open_seal key nonce plaintext
    hkey hnonce]

/-- Decryption never slices out of range, whatever the text. -/
theorem decrypt_ne_outOfRange (g : Gcm) (key : Bytes) (ciphertext : String) :
    decrypt g key ciphertext ≠ .error .outOfRange := by
  cases hdata : decode rawURL ciphertext.toList with
  | none =>
    unfold decrypt
    rw [hdata]
    exact fun h => by cases h
  | some data =>
    by_cases hlen : nonceSize ≤ data.length
    · rw [decrypt_of_decode hdata hlen]
      split <;> exact fun h => by cases h
    · unfold decrypt
      rw [hdata]
      dsimp only
      rw [if_pos (not_le.mp hlen)]
      exact fun h => by cases h

end Cipher
