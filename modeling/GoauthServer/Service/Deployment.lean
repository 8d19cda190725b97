import GoauthServer.Service.Client
import GoauthServer.Service.Password
import GoauthServer.Service.Token

/-!
# A deployment

A small deployment of the server, on which the results are tried out: one client, `app`, one user,
`ann`, and a library whose functions take the values of the real ones on the texts that occur.
SHA-256, Argon2id and ES256 are tables of real values.

* `ann`'s password is `correct horse`, hashed with `m=8,t=1,p=1`;
* the client secret of `app` is `s3cret`;
* the key pair is a P-256 key, and `signatureA`, `signatureB` are signatures of `ann`'s claims
  under it.
-/

namespace GoauthServer.Deployment

open Interact Relational Base64

def appText : String := "00000000-0000-0000-0000-000000000001"

def annText : String := "00000000-0000-0000-0000-000000000002"

/-! ### Access tokens -/

/-- What `ann` is issued at time 0, for an hour. -/
def annClaims : Claims where
  userID := annText
  email := "ann@example.com"
  registered :=
    { issuer := "goauth-server", subject := "", expiresAt := some 3600, notBefore := some 0
      issuedAt := some 0 }

/-- The JSON of `annClaims`. -/
def annPayload : Bytes := asciiBytes
  "\x7b\"user_id\":\"00000000-0000-0000-0000-000000000002\",\"email\":\"ann@example.com\",\"iss\":\"goauth-server\",\"exp\":3600,\"nbf\":0,\"iat\":0\x7d"

def signatureA : Bytes :=
  [52, 117, 157, 201, 251, 87, 63, 211, 134, 13, 3, 163, 170, 52, 50, 101, 46, 127, 68, 232, 253,
    106, 195, 52, 10, 57, 70, 2, 199, 211, 222, 87, 2, 33, 151, 50, 140, 63, 39, 242, 227, 156,
    163, 218, 136, 137, 244, 154, 80, 97, 81, 216, 151, 253, 217, 29, 249, 34, 221, 8, 188, 200,
    120, 188]

def signatureB : Bytes :=
  [112, 53, 47, 115, 47, 49, 76, 220, 47, 252, 115, 68, 97, 101, 5, 248, 144, 214, 44, 240, 200,
    221, 25, 140, 30, 81, 242, 18, 127, 165, 70, 220, 222, 160, 185, 214, 95, 62, 153, 212, 21,
    155, 142, 54, 223, 204, 157, 106, 118, 108, 238, 194, 254, 237, 236, 194, 96, 199, 84, 87, 87,
    228, 99, 159]

/-- An access token of `ann`. -/
def annToken (sig : Bytes) : String := Jwt.signedString headerES256 annPayload sig

/-- `signatureA` in base64, but with a one in the four bits that the last digit leaves over. -/
def respelledSignature : List Char := (encode rawURL signatureA).dropLast ++ ['B']

/-- `annToken signatureA` with the signature respelled. -/
def respelledToken : String :=
  String.ofList (Jwt.signingString headerES256 annPayload ++ '.' :: respelledSignature)

/-! ### The library -/

/-- SHA-256 of the texts that occur. -/
def digests : List (String × String) :=
  [("s3cret", "1ec1c26b50d5d3c58d9583181af8076655fe00756bf7285940ba3670f99fcba0"),
    ("old-refresh-token", "66e4f4e9739a9ef9a9d6e414cfd05780c4ab0eb03e21fbf90ebf87e76d4db8f6"),
    ("BwgJCgsMDQ4PEBESExQVFhcYGRobHB0eHyAhIiMkJSY",
      "4a3823dd1b2833570546fcd346525b01409e90b4d56d4dd58b444e5e5333e321"),
    ("CQoLDA0ODxAREhMUFRYXGBkaGxwdHh8gISIjJCUmJyg",
      "d9c3050f5f4334b9656b8d398bd833a32880b2e1be562f7e461a7314264f76a0"),
    (annToken signatureA, "27b35c4e2c0bf206843e6dd3c380ba8e3cd405db326734c8a6890155707bfc54"),
    (annToken signatureB, "68f20480b2c645ac0e245368d14dab0f43b95efb1fb2924cef577fbe210289ea"),
    (respelledToken, "822d791c75ace206652150e5ebf6f83efb78f476754a7bc13f989756610a2cb0")]

def lib : Lib where
  sha256Hex s := (digests.lookup s).getD ""
  uuidParse s := if s = appText then some 1 else if s = annText then some 2 else none
  uuidString u := if u = 1 then appText else if u = 2 then annText else ""
  hexDecode _ := none
  headerAlg h :=
    if h = headerES256 then some (some "ES256")
    else if h = headerHS256 then some (some "HS256")
    else none
  claims :=
    { marshal := fun c => if c = annClaims then annPayload else []
      unmarshal := fun bs => if bs = annPayload then some annClaims else none
      registered := Claims.registered }
  challengeClaims :=
    { marshal := fun _ => [], unmarshal := fun _ => none, registered := ChallengeClaims.registered }
  ecdsaSign _ entropy := some (if entropy.head? = some 7 then signatureA else signatureB)
  ecdsaVerify h msg sig :=
    decide (h = .sha256 ∧ msg = Jwt.signingString headerES256 annPayload ∧
      (sig = signatureA ∨ sig = signatureB))
  hmac _ _ _ := []
  idKey password _ _ _ _ _ :=
    if password = "correct horse" then [236, 87, 33, 204] else [94, 112, 167, 76]
  formatRFC3339 _ := ""
  decryptSecret _ := none
  isUpper := Char.isUpper
  isLower := Char.isLower
  isDigit := Char.isDigit
  toLower := String.toLower
  basicAuth _ := none
  isMailAddress s := s == "ann@example.com"
  denylist := []

def env : Env where
  cfg :=
    { appName := "goauth-server", accessTokenExpiry := 60, refreshTokenExpiryDays := 30
      refreshTokenMaxLifetimeDays := 90
      lockout := { maxAttempts := 3, windowSeconds := 600, durationSeconds := 900 }
      sessionSigningKey := "" }
  lib := lib
  audited := false

/-! ### What the library does -/

theorem accessToken_annClaims (sig : Bytes) : env.accessToken annClaims sig = annToken sig := by
  simp [Env.accessToken, env, lib, annToken]

theorem mem_digests {s digest : String} (h : lib.sha256Hex s = digest) (hne : digest ≠ "") :
    (s, digest) ∈ digests := by
  cases hl : digests.lookup s with
  | none => exact absurd (by rw [← h]; simp [lib, hl]) hne
  | some d =>
    obtain ⟨l₁, l₂, hsplit, _⟩ := List.lookup_eq_some_iff.mp hl
    have hd : d = digest := by rw [← h]; simp [lib, hl]
    rw [hsplit, ← hd]
    simp

theorem sha256Hex_annToken : lib.sha256Hex (annToken signatureA) =
    "27b35c4e2c0bf206843e6dd3c380ba8e3cd405db326734c8a6890155707bfc54" := by
  decide +kernel

/-- Nothing else has the digest of `annToken signatureA`. -/
theorem eq_annToken {s : String} (h : lib.sha256Hex s = lib.sha256Hex (annToken signatureA)) :
    s = annToken signatureA := by
  rw [sha256Hex_annToken] at h
  simpa [digests] using mem_digests h (by decide)

/-- `ann`'s token is valid when it is issued. -/
theorem checkAccessToken_annToken : env.checkAccessToken (annToken signatureA) 0 = .ok annClaims := by
  unfold Env.checkAccessToken
  rw [annToken, Jwt.parse_of_segments (Jwt.segments_signedString _ _ _)]
  simp [Jwt.parseSegments, decode_encode rawURL_lawful, env, lib, Jwt.getSigningMethod,
    Jwt.signingString, Jwt.validate, annClaims]

/-! ### The database -/

def ann : User where
  id := 2
  email := "ann@example.com"
  emailVerified := true
  firstName := none
  lastName := none
  isActive := true
  locale := "en-US"
  provider := none
  providerID := none
  lastLoginAt := 0
  createdAt := 0
  updatedAt := 0
  isAdmin := some false
  passwordHash := some "$argon2id$v=19$m=8,t=1,p=1$c2FsdHNhbHQ$7FchzA"
  forcePasswordChange := false
  failedLoginAttempts := 0
  lastFailedLoginAt := none
  lockedUntil := none

def app : Client where
  id := 1
  name := "app"
  description := none
  clientSecretHash := "1ec1c26b50d5d3c58d9583181af8076655fe00756bf7285940ba3670f99fcba0"
  redirectUris := ["https://app.example/callback"]
  grantTypes := ["authorization_code", "refresh_token"]
  isActive := some true
  createdBy := 2
  createdAt := 0
  updatedAt := 0
  isConfidential := true
  allowRefreshTokens := true

/-- The refresh token `old-refresh-token`, in the family 9. -/
def annRefreshToken : RefreshToken where
  id := 5
  tokenFamilyID := 9
  tokenHash := "66e4f4e9739a9ef9a9d6e414cfd05780c4ab0eb03e21fbf90ebf87e76d4db8f6"
  clientID := 1
  userID := 2
  accessTokenID := none
  previousTokenID := none
  scope := "offline_access"
  expiresAt := 1000000000000
  isRevoked := false
  revokedAt := none
  revokeReason := none
  usedAt := none
  createdAt := 0

/-- An authorization code of `ann`, for access while offline. -/
def annCode : AuthorizationCode where
  id := 6
  code := "auth-code"
  clientID := 1
  userID := 2
  providerID := 3
  redirectUri := "https://app.example/callback"
  scope := some "openid offline_access"
  state := none
  codeChallenge := none
  codeChallengeMethod := none
  expiresAt := 300000000000
  usedAt := none
  isRevoked := some false
  createdAt := 0

/-- The row of `annToken signatureA`, issued at time 0 by a login. -/
def annAccessToken : AccessToken where
  id := 8
  tokenHash := "27b35c4e2c0bf206843e6dd3c380ba8e3cd405db326734c8a6890155707bfc54"
  clientID := none
  userID := 2
  scope := none
  expiresAt := 3600000000000
  isRevoked := some false
  createdAt := 0

/-- The database of the deployment: `ann`, `app`, a code and a refresh token. -/
def store : Store :=
  { Store.empty with
    users := ⟨[ann], List.pairwise_singleton _ _⟩
    clients := ⟨[app], List.pairwise_singleton _ _⟩
    authorizationCodes := ⟨[annCode], List.pairwise_singleton _ _⟩
    refreshTokens := ⟨[annRefreshToken], List.pairwise_singleton _ _⟩ }

/-- The longer schedules of the examples are for three calls. -/
instance three_ne_zero : NeZero 3 := ⟨by decide⟩

/-- The row of the token `annToken signatureA`. -/
def annSessions : Table AccessToken := ⟨[annAccessToken], List.pairwise_singleton _ _⟩

/-- The database after `annToken signatureA` was revoked. -/
def revokedStore : Store :=
  { store with accessTokens := ⟨[annAccessToken.revoke], List.pairwise_singleton _ _⟩ }

/-- The database before the first client: `ann` alone. -/
def userStore : Store := { Store.empty with users := ⟨[ann], List.pairwise_singleton _ _⟩ }

/-- What the administration is given. -/
def admin : AdminEnv where
  auth := env
  env := "development"
  parseRequestURI _ := some ⟨"https", "app.example", "app.example"⟩
  quote s := s
  encryptSecret s _ := s

/-- A step without a fault and without delay, which draws `uuid` and the bytes from `n` on. -/
def draw (n : UInt8) (uuid : UUID) : Draw :=
  { wait := 0, fault := false, uuid := uuid, bytes := fun i => n + UInt8.ofNat i
    providerToken := none, userInfo := .failed }

/-- The request `n` of a run fails, and nothing else. -/
def failAt (n : ℕ) (i : ℕ) : Draw := { draw 7 20 with fault := decide (i = n) }

/-- `n` steps of one of two calls. -/
def turns (n : ℕ) : Bool → List (Bool × Draw)
  | true => List.replicate n (true, draw 7 20)
  | false => List.replicate n (false, draw 9 21)

end GoauthServer.Deployment
