import GoauthServer.Service.Env

/-!
# Access tokens and challenges

`internal/service/auth/token.go`. An access token is a JWT signed with ES256, a password-change
challenge is a JWT signed with HS256 under the session signing key. Signing with ES256 is
randomised: its entropy is a request of its own.
-/

namespace GoauthServer

open Interact Base64 GoTime

/-- The bytes of an ASCII text. -/
def asciiBytes (s : String) : Bytes := s.toList.map fun c => UInt8.ofNat c.toNat

/-- The header of an access token, as `encoding/json` writes it. -/
def headerES256 : Bytes := asciiBytes "\x7b\"alg\":\"ES256\",\"typ\":\"JWT\"\x7d"

/-- The header of a challenge. -/
def headerHS256 : Bytes := asciiBytes "\x7b\"alg\":\"HS256\",\"typ\":\"JWT\"\x7d"

def challengeTokenType : String := "password_change"

def challengeTokenExpiry : Duration := 15 * minute

/-- `Service.Expiry`. -/
def Env.expiry (env : Env) : Duration := env.cfg.accessTokenExpiry * minute

/-- The claims of an access token issued at `now`. -/
def Env.accessClaims (env : Env) (userID email : String) (now : Time) : Claims :=
  { userID := userID
    email := email
    registered :=
      { issuer := env.cfg.appName
        subject := ""
        expiresAt := some (Jwt.newNumericDate (add now env.expiry))
        notBefore := some (Jwt.newNumericDate now)
        issuedAt := some (Jwt.newNumericDate now) } }

/-- The access token for these claims, under the signature `sig`. -/
def Env.accessToken (env : Env) (claims : Claims) (sig : Bytes) : String :=
  Jwt.signedString headerES256 (env.lib.claims.marshal claims) sig

/-- `Service.GenerateAccessToken`. -/
def generateAccessToken (env : Env) (userID email : String) : Call (Except AuthError String) :=
  Call.now fun now =>
    Call.randBytes 32 fun
      | none => .ret (.error .signing)
      | some entropy =>
        let claims := env.accessClaims userID email now
        match env.lib.ecdsaSign
            (Jwt.signingString headerES256 (env.lib.claims.marshal claims)) entropy with
        | none => .ret (.error .signing)
        | some sig => .ret (.ok (env.accessToken claims sig))

/-- `Service.StoreDirectLoginToken`. -/
def storeDirectLoginToken (env : Env) (token : String) (userID : UUID) :
    Call (Except AuthError Unit) :=
  Call.now fun now =>
    Call.sql (.createAccessToken
      { tokenHash := env.lib.sha256Hex token, clientID := none, userID := userID, scope := none
        expiresAt := add now env.expiry }) fun
      | .error e => .ret (.error (.ofDB "storing direct login token" e))
      | .ok _ => .ret (.ok ())

/-- What `ValidateAccessToken` decides at the time `now`: only ECDSA methods have a key. -/
def Env.checkAccessToken (env : Env) (token : String) (now : Time) :
    Except Jwt.ParseError Claims :=
  Jwt.parseWithClaims env.lib.headerAlg env.lib.claims
    (fun
      | .ecdsa _ => true
      | _ => false)
    (fun
      | .ecdsa h => env.lib.ecdsaVerify h
      | _ => fun _ _ => false)
    token now

/-- `Service.ValidateAccessToken`. -/
def validateAccessToken (env : Env) (token : String) : Call (Except AuthError Claims) :=
  Call.now fun now =>
    match env.checkAccessToken token now with
    | .error e => .ret (.error (.jwt e))
    | .ok claims => .ret (.ok claims)

/-- The claims of a challenge issued at `now`. -/
def Env.challengeClaims (env : Env) (userID : UUID) (now : Time) : ChallengeClaims :=
  { tokenType := challengeTokenType
    registered :=
      { issuer := env.cfg.appName
        subject := env.lib.uuidString userID
        expiresAt := some (Jwt.newNumericDate (add now challengeTokenExpiry))
        notBefore := none
        issuedAt := some (Jwt.newNumericDate now) } }

/-- `Service.GenerateChallengeToken`. -/
def generateChallengeToken (env : Env) (userID : UUID) : Call (Except AuthError String) :=
  match env.lib.hexDecode env.cfg.sessionSigningKey with
  | none => .ret (.error (.wrap "decode session signing key" .hex))
  | some key =>
    Call.now fun now =>
      let payload := env.lib.challengeClaims.marshal (env.challengeClaims userID now)
      let tag := env.lib.hmac .sha256 key (Jwt.signingString headerHS256 payload)
      .ret (.ok (Jwt.signedString headerHS256 payload tag))

/-- What `ValidateChallengeToken` decides under `key` at the time `now`: only HMAC methods have a
key, and the claims are a challenge with a UUID as its subject. -/
def Env.checkChallengeToken (env : Env) (key : Bytes) (token : String) (now : Time) :
    Except AuthError UUID :=
  match Jwt.parseWithClaims env.lib.headerAlg env.lib.challengeClaims
      (fun
        | .hmac _ => true
        | _ => false)
      (fun
        | .hmac h => fun msg sig => decide (env.lib.hmac h key msg = sig)
        | _ => fun _ _ => false)
      token now with
  | .error e => .error (.wrap "invalid challenge token" (.jwt e))
  | .ok claims =>
    if claims.tokenType ≠ challengeTokenType then .error (.text "challenge token has wrong type")
    else
      match env.lib.uuidParse claims.registered.subject with
      | none => .error (.wrap "challenge token subject is not a valid UUID" .uuid)
      | some userID => .ok userID

/-- `Service.ValidateChallengeToken`. -/
def validateChallengeToken (env : Env) (token : String) : Call (Except AuthError UUID) :=
  match env.lib.hexDecode env.cfg.sessionSigningKey with
  | none => .ret (.error (.wrap "decode session signing key" .hex))
  | some key => Call.now fun now => .ret (env.checkChallengeToken key token now)

end GoauthServer
