import GoauthServer.Lib.Base64

/-!
# JSON Web Tokens, as golang-jwt v5 reads and writes them

A token is three base64 segments joined by dots: header, claims and signature. The signature is
computed over the first two segments as they are sent. `parseWithClaims` follows the order of
`Parser.ParseWithClaims`: three segments, the header and the claims as JSON, the signing method
named by the header, the signature segment, the key function, the signature, and then the times
in the claims.

JSON and the signature schemes are parameters (`Codec`, `headerAlg`, `verify`). The rest of the
parser is here, since two things depend on it: a token that was issued reads back as what was
signed (`parse_signedString`), and the parser looks at the signature segment only through its
decoded bytes (`parse_congr`).
-/

namespace Jwt

open Base64

/-- `jwt.RegisteredClaims`, the claims that are written or validated here. Dates are in seconds. -/
structure RegisteredClaims where
  issuer : String
  subject : String
  expiresAt : Option ℤ
  notBefore : Option ℤ
  issuedAt : Option ℤ
  deriving DecidableEq

/-- `jwt.NewNumericDate`: an instant in nanoseconds, truncated to the second. -/
def newNumericDate (t : ℤ) : ℤ := t / 1000000000

/-- The hash of a signing method. -/
inductive Hash where
  | sha256
  | sha384
  | sha512
  deriving DecidableEq

/-- The registered signing methods. -/
inductive SigningMethod where
  | hmac (h : Hash)
  | ecdsa (h : Hash)
  | rsa (h : Hash)
  | rsaPSS (h : Hash)
  | ed25519
  | none
  deriving DecidableEq

/-- `jwt.GetSigningMethod`. -/
def getSigningMethod (alg : String) : Option SigningMethod :=
  if alg = "HS256" then some (.hmac .sha256)
  else if alg = "HS384" then some (.hmac .sha384)
  else if alg = "HS512" then some (.hmac .sha512)
  else if alg = "ES256" then some (.ecdsa .sha256)
  else if alg = "ES384" then some (.ecdsa .sha384)
  else if alg = "ES512" then some (.ecdsa .sha512)
  else if alg = "RS256" then some (.rsa .sha256)
  else if alg = "RS384" then some (.rsa .sha384)
  else if alg = "RS512" then some (.rsa .sha512)
  else if alg = "PS256" then some (.rsaPSS .sha256)
  else if alg = "PS384" then some (.rsaPSS .sha384)
  else if alg = "PS512" then some (.rsaPSS .sha512)
  else if alg = "EdDSA" then some .ed25519
  else if alg = "none" then some .none
  else Option.none

/-- How claims are written as JSON and read back, and the registered ones among them. -/
structure Codec (γ : Type) where
  marshal : γ → Bytes
  unmarshal : Bytes → Option γ
  registered : γ → RegisteredClaims

/-- What parsing fails with. -/
inductive ParseError where
  | malformed
  | unverifiable
  | signatureInvalid
  | invalidClaims
  deriving DecidableEq

/-- `Validator.Validate`, with the default options: `exp` and `nbf` are checked where they are
present. `now` is in nanoseconds. -/
def validate (now : ℤ) (c : RegisteredClaims) : Bool :=
  c.expiresAt.all (fun exp => decide (now < exp * 1000000000)) &&
    c.notBefore.all (fun nbf => decide (nbf * 1000000000 ≤ now))

/-- `Token.SigningString`. -/
def signingString (header claims : Bytes) : List Char :=
  encode rawURL header ++ '.' :: encode rawURL claims

/-- `Token.SignedString`. -/
def signedString (header claims signature : Bytes) : String :=
  String.ofList (signingString header claims ++ '.' :: encode rawURL signature)

/-- `strings.Split(token, ".")`, where it has exactly three parts. -/
def segments (token : String) : Option (List Char × List Char × List Char) :=
  match token.toList.splitOn '.' with
  | [header, payload, signature] => some (header, payload, signature)
  | _ => none

section Parse

variable {γ : Type} (headerAlg : Bytes → Option (Option String)) (codec : Codec γ)
  (hasKey : SigningMethod → Bool) (verify : SigningMethod → List Char → Bytes → Bool)

/-- What is left of parsing once the three segments are read: `sig` is the decoded signature, if
it decodes. -/
def parseSegments (header payload : List Char) (sig : Option Bytes) (now : ℤ) :
    Except ParseError γ :=
  match (decode rawURL header).bind headerAlg with
  | none => .error .malformed
  | some alg =>
    match (decode rawURL payload).bind codec.unmarshal with
    | none => .error .malformed
    | some claims =>
      match alg.bind getSigningMethod with
      | none => .error .unverifiable
      | some method =>
        match sig with
        | none => .error .malformed
        | some sig =>
          if !hasKey method then .error .unverifiable
          else if !verify method (header ++ '.' :: payload) sig then .error .signatureInvalid
          else if !validate now (codec.registered claims) then .error .invalidClaims
          else .ok claims

/-- `jwt.ParseWithClaims`. The key function is given by the methods it has a key for. -/
def parseWithClaims (token : String) (now : ℤ) : Except ParseError γ :=
  match segments token with
  | some (header, payload, signature) =>
    parseSegments headerAlg codec hasKey verify header payload (decode rawURL signature) now
  | none => .error .malformed

end Parse

/-! ### Segments -/

/-- A string is given by its segments. -/
theorem segments_eq_some {token : String} {h p s : List Char} (hs : segments token = some (h, p, s)) :
    token = String.ofList (h ++ '.' :: p ++ '.' :: s) := by
  unfold segments at hs
  split at hs
  · next hsplit =>
    obtain ⟨rfl, rfl, rfl⟩ := hs
    have hjoin : ['.'].intercalate (token.toList.splitOn '.') = token.toList :=
      List.intercalate_splitOn '.'
    rw [hsplit] at hjoin
    rw [← String.ofList_toList (s := token), ← hjoin]
    simp [List.intercalate]
  · exact absurd hs (by simp)

/-- Three segments without dots, joined by dots, are the segments of the result. -/
theorem segments_ofList {h p s : List Char} (hh : '.' ∉ h) (hp : '.' ∉ p) (hs : '.' ∉ s) :
    segments (String.ofList (h ++ '.' :: p ++ '.' :: s)) = some (h, p, s) := by
  have hdot : ∀ l ∈ [h, p, s], '.' ∉ l := by
    intro l hl
    simp only [List.mem_cons, List.not_mem_nil, or_false] at hl
    rcases hl with rfl | rfl | rfl
    · exact hh
    · exact hp
    · exact hs
  have hsplit := List.splitOn_intercalate '.' hdot (by simp)
  have hjoin : ['.'].intercalate [h, p, s] = h ++ '.' :: p ++ '.' :: s := by
    simp [List.intercalate]
  unfold segments
  rw [String.toList_ofList, ← hjoin, hsplit]

/-- A token that was issued has the segments that were joined. -/
theorem segments_signedString (header claims signature : Bytes) :
    segments (signedString header claims signature) =
      some (encode rawURL header, encode rawURL claims, encode rawURL signature) :=
  segments_ofList (dot_notMem_encode rawURL_lawful _) (dot_notMem_encode rawURL_lawful _)
    (dot_notMem_encode rawURL_lawful _)

section ParseLemmas

variable {γ : Type} {headerAlg : Bytes → Option (Option String)} {codec : Codec γ}
  {hasKey : SigningMethod → Bool} {verify : SigningMethod → List Char → Bytes → Bool} {claims : γ}
  {token : String}

theorem parse_of_segments {h p s : List Char} (hs : segments token = some (h, p, s)) (now : ℤ) :
    parseWithClaims headerAlg codec hasKey verify token now =
      parseSegments headerAlg codec hasKey verify h p (decode rawURL s) now := by
  unfold parseWithClaims
  rw [hs]

/-- **The parser sees the signature segment only through its decoded bytes.** -/
theorem parse_congr {token token' : String} {h p s s' : List Char} (hs : segments token = some (h, p, s))
    (hs' : segments token' = some (h, p, s')) (hdec : decode rawURL s = decode rawURL s') (now : ℤ) :
    parseWithClaims headerAlg codec hasKey verify token now =
      parseWithClaims headerAlg codec hasKey verify token' now := by
  rw [parse_of_segments hs, parse_of_segments hs', hdec]

/-- What the parser has checked when it accepts. -/
theorem parseSegments_ok {h p : List Char} {sig : Option Bytes} {now : ℤ}
    (hok : parseSegments headerAlg codec hasKey verify h p sig now = .ok claims) :
    ∃ alg method s, (decode rawURL h).bind headerAlg = some (some alg) ∧
      getSigningMethod alg = some method ∧ sig = some s ∧
      (decode rawURL p).bind codec.unmarshal = some claims ∧ hasKey method = true ∧
      verify method (h ++ '.' :: p) s = true ∧ validate now (codec.registered claims) = true := by
  unfold parseSegments at hok
  split at hok
  · cases hok
  next alg? halg =>
  split at hok
  · cases hok
  next claims' hclaims =>
  split at hok
  · cases hok
  next method hmethod =>
  split at hok
  · cases hok
  next s =>
  split at hok
  · cases hok
  next hkey =>
  split at hok
  · cases hok
  next hver =>
  split at hok
  · cases hok
  next hval =>
  obtain rfl := Except.ok.inj hok
  obtain ⟨alg, rfl, hget⟩ := Option.bind_eq_some_iff.mp hmethod
  exact ⟨alg, method, s, halg, hget, rfl, hclaims, by simpa using hkey, by simpa using hver,
    by simpa using hval⟩

theorem parse_ok {now : ℤ} (hok : parseWithClaims headerAlg codec hasKey verify token now = .ok claims) :
    ∃ h p s, segments token = some (h, p, s) ∧
      parseSegments headerAlg codec hasKey verify h p (decode rawURL s) now = .ok claims := by
  unfold parseWithClaims at hok
  split at hok
  · next h p s hs => exact ⟨h, p, s, hs, hok⟩
  · cases hok

/-- **A token that was issued reads back.** If it is accepted, then with the claims that were
signed, and within their times. -/
theorem parse_signedString {header : Bytes} {c : γ} {sig : Bytes} {now : ℤ}
    (hround : codec.unmarshal (codec.marshal c) = some c)
    (hok : parseWithClaims headerAlg codec hasKey verify
      (signedString header (codec.marshal c) sig) now = .ok claims) :
    claims = c ∧ validate now (codec.registered c) = true := by
  rw [parse_of_segments (segments_signedString header (codec.marshal c) sig)] at hok
  obtain ⟨_, _, _, _, _, _, hclaims, _, _, hval⟩ := parseSegments_ok hok
  rw [decode_encode rawURL_lawful, Option.bind_some, hround] at hclaims
  obtain rfl := Option.some.inj hclaims
  exact ⟨rfl, hval⟩

end ParseLemmas

end Jwt
