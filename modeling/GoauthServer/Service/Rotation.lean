import GoauthServer.Service.Token

/-!
# Rotation of refresh tokens

`internal/service/auth/rotation.go`. The method is cut where its text is: the checks
(`rotateRefreshToken`), replay detection (`replayDetected`), and the issue of the successor, from
marking the presented token to the response (`rotateRecord`, `issueSuccessor`).
-/

namespace GoauthServer

open Interact Base64 GoTime

/-- `auth.TokenResponse`. -/
structure TokenResponse where
  accessToken : String
  tokenType : String
  expiresIn : Int64
  scope : Option String
  refreshToken : String
  deriving DecidableEq

/-- `time.Duration(s.cfg.RefreshToken.ExpiryDays) * 24 * time.Hour`. -/
def Env.refreshTokenLifetime (env : Env) : Duration := env.cfg.refreshTokenExpiryDays * 24 * hour

/-- A revoked token was presented: revoke its family, and answer as for an unknown token. The
error of the revocation is ignored. -/
def replayDetected (env : Env) (record : RefreshToken) : Call (Except AuthError TokenResponse) :=
  Call.sql (.revokeRefreshTokenFamily record.tokenFamilyID (strPtr "replay_detected")) fun _ =>
    let familyID := env.lib.uuidString record.tokenFamilyID
    env.logEvent
      { eventType := .replayDetected, userID := some record.userID
        clientID := some record.clientID, metadata := [("family_id", familyID)] } <|
    env.logEvent
      { eventType := .refreshTokenFamilyRevoked, userID := some record.userID
        clientID := some record.clientID
        metadata := [("family_id", familyID), ("reason", "replay_detected")] } <|
    .ret (.error .invalidGrant)

/-- Store the new access token and the successor of `record`, and build the response. -/
def issueSuccessor (env : Env) (cid : UUID) (record : RefreshToken) (user : User)
    (tokenString : String) : Call (Except AuthError TokenResponse) :=
  Call.now fun now =>
  Call.sql (.createAccessToken
    { tokenHash := env.lib.sha256Hex tokenString, clientID := some cid, userID := user.id
      scope := strPtr record.scope, expiresAt := add now env.expiry }) fun
  | .error e => .ret (.error (.ofDB "storing access token" e))
  | .ok accessTokenRecord =>
    Call.randBytes 32 fun
    | none =>
      .ret (.error (.wrap "generating new refresh token value"
        (.wrap "reading random bytes" .rand)))
    | some bytes =>
      let newTokenValue := secureToken bytes
      Call.now fun now =>
      let rtExpiresAt := add now env.refreshTokenLifetime
      Call.sql (.createRefreshToken
        { tokenHash := env.lib.sha256Hex newTokenValue, tokenFamilyID := record.tokenFamilyID
          clientID := cid, userID := user.id, accessTokenID := accessTokenRecord.id
          previousTokenID := some record.id, scope := record.scope, expiresAt := rtExpiresAt }) fun
      | .error e => .ret (.error (.ofDB "storing new refresh token" e))
      | .ok _ =>
        env.logEvent
          { eventType := .refreshTokenRotated, userID := some user.id, clientID := some cid
            metadata := [("family_id", env.lib.uuidString record.tokenFamilyID),
              ("scope", record.scope), ("expires_at", env.lib.formatRFC3339 rtExpiresAt)] } <|
        .ret (.ok
          { accessToken := tokenString, tokenType := "Bearer", expiresIn := seconds env.expiry
            scope := strPtr record.scope, refreshToken := newTokenValue })

/-- Mark `record` as used and issue its successor to the client `cid`. -/
def rotateRecord (env : Env) (cid : UUID) (record : RefreshToken) :
    Call (Except AuthError TokenResponse) :=
  Call.sql (.markRefreshTokenUsed record.id) fun
  | .error e => .ret (.error (.ofDB "marking refresh token as used" e))
  | .ok _ =>
    Call.sql (.getUserByID record.userID) fun
    | .error e => .ret (.error (.ofDB "getting user" e))
    | .ok user =>
      (generateAccessToken env (env.lib.uuidString user.id) user.email).bind fun
      | .error e => .ret (.error (.wrap "generating access token" e))
      | .ok tokenString => issueSuccessor env cid record user tokenString

/-- Replay detection, and the checks on the record that was found. -/
def checkRecord (env : Env) (cid : UUID) (record : RefreshToken) :
    Call (Except AuthError TokenResponse) :=
  if record.isRevoked then replayDetected env record
  else
    Call.now fun now =>
      if record.expiresAt < now then .ret (.error .tokenExpired)
      else if record.clientID ≠ cid then .ret (.error .invalidGrant)
      else rotateRecord env cid record

/-- `Service.RotateRefreshToken`. -/
def rotateRefreshToken (env : Env) (rawToken clientID clientSecret : String) :
    Call (Except AuthError TokenResponse) :=
  match env.lib.uuidParse clientID with
  | none => .ret (.error .invalidGrant)
  | some cid =>
    Call.sql (.getClient cid) fun
    | .error .noRows => .ret (.error .clientNotFound)
    | .error e => .ret (.error (.ofDB "getting client" e))
    | .ok client =>
      if client.isActive ≠ some true then .ret (.error .clientInactive)
      else if client.clientSecretHash ≠ env.lib.sha256Hex clientSecret then
        .ret (.error .invalidClientSecret)
      else
        Call.sql (.getRefreshTokenByHash (env.lib.sha256Hex rawToken)) fun
        | .error .noRows => .ret (.error .invalidGrant)
        | .error e => .ret (.error (.ofDB "getting refresh token" e))
        | .ok record => checkRecord env cid record

end GoauthServer
