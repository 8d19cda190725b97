import GoauthServer.Service.Authorization

/-!
# Revocation, sessions and accounts

`RevokeAnyToken` and `ValidateClientCredentials` (`revoke.go`), the admin operations of
`internal/service/session`, and those of `internal/service/user` that write.
-/

namespace GoauthServer

open Interact

/-- `Service.revokeAccessTokenRecord`. -/
def revokeAccessTokenRecord (env : Env) (record : AccessToken) : Call (Except AuthError Unit) :=
  if record.isRevoked = some true then .ret (.ok ())
  else
    Call.sql (.revokeAccessToken record.id) fun
    | .error e => .ret (.error (.ofDB "revoking access token" e))
    | .ok _ =>
      env.logEvent
        { eventType := .accessTokenRevoked, userID := some record.userID
          clientID := record.clientID, metadata := [("reason", "client_revoked")] } <|
      .ret (.ok ())

/-- The linked access token of a refresh token that was just revoked. The zero UUID stands for
`NULL`. An error of the revocation itself is ignored. -/
def revokeLinkedAccess (env : Env) (rt : RefreshToken) : Call (Except AuthError Unit) :=
  if rt.accessTokenID.getD 0 ≠ 0 then
    Call.sql (.getAccessTokenByID (rt.accessTokenID.getD 0)) fun
    | .ok record => (revokeAccessTokenRecord env record).bind fun _ => .ret (.ok ())
    | .error .noRows => .ret (.ok ())
    | .error e => .ret (.error (.ofDB "looking up linked access token" e))
  else .ret (.ok ())

/-- `Service.revokeRefreshTokenAndLinkedAccess`. -/
def revokeRefreshTokenAndLinkedAccess (env : Env) (rt : RefreshToken) :
    Call (Except AuthError Unit) :=
  if rt.isRevoked then .ret (.ok ())
  else
    Call.sql (.revokeRefreshToken rt.id (strPtr "client_revoked")) fun
    | .error e => .ret (.error (.ofDB "revoking refresh token" e))
    | .ok _ =>
      env.logEvent
        { eventType := .refreshTokenRevoked, userID := some rt.userID, clientID := some rt.clientID
          metadata := [("reason", "client_revoked")] } <|
      revokeLinkedAccess env rt

/-- The access-token path of `RevokeAnyToken`. -/
def revokeAnyAccessToken (env : Env) (rawToken : String) : Call (Except AuthError Unit) :=
  Call.sql (.getAccessToken (env.lib.sha256Hex rawToken)) fun
  | .error .noRows => .ret (.ok ())
  | .error e => .ret (.error (.ofDB "looking up access token" e))
  | .ok record => revokeAccessTokenRecord env record

/-- `Service.RevokeAnyToken`. -/
def revokeAnyToken (env : Env) (rawToken tokenTypeHint : String) : Call (Except AuthError Unit) :=
  if tokenTypeHint ≠ "access_token" then
    Call.sql (.getRefreshTokenByHash (env.lib.sha256Hex rawToken)) fun
    | .ok rt => revokeRefreshTokenAndLinkedAccess env rt
    | .error .noRows => revokeAnyAccessToken env rawToken
    | .error e => .ret (.error (.ofDB "looking up refresh token" e))
  else revokeAnyAccessToken env rawToken

/-- `Service.ValidateClientCredentials`. -/
def validateClientCredentials (env : Env) (clientID clientSecret : String) :
    Call (Except AuthError Bool) :=
  match env.lib.uuidParse clientID with
  | none => .ret (.ok false)
  | some cid =>
    Call.sql (.getClient cid) fun
    | .error .noRows => .ret (.ok false)
    | .error e => .ret (.error (.ofDB "getting client" e))
    | .ok client =>
      if client.isActive ≠ some true then .ret (.ok false)
      else .ret (.ok (decide (client.clientSecretHash = env.lib.sha256Hex clientSecret)))

/-! ### Sessions -/

/-- `session.Service.RevokeAuthorizationCode`. -/
def sessionRevokeAuthorizationCode (id : UUID) : Call (Except AuthError Unit) :=
  Call.sql (.getAuthorizationCodeByID id) fun
  | .error .noRows => .ret (.error .authorizationCodeNotFound)
  | .error e => .ret (.error (.ofDB "getting authorization code" e))
  | .ok _ =>
    Call.sql (.revokeAuthorizationCode id) fun
    | .error e => .ret (.error (.ofDB "revoking authorization code" e))
    | .ok _ => .ret (.ok ())

/-- `session.Service.RevokeAccessToken`. -/
def sessionRevokeAccessToken (id : UUID) : Call (Except AuthError Unit) :=
  Call.sql (.getAccessTokenByID id) fun
  | .error .noRows => .ret (.error .accessTokenNotFound)
  | .error e => .ret (.error (.ofDB "getting access token" e))
  | .ok _ =>
    Call.sql (.revokeAccessToken id) fun
    | .error e => .ret (.error (.ofDB "revoking access token" e))
    | .ok _ => .ret (.ok ())

/-- `session.Service.RevokeUserSessions`. -/
def sessionRevokeUserSessions (userID : UUID) : Call (Except AuthError Unit) :=
  Call.sql (.revokeAccessTokensByUser userID) fun
  | .error e => .ret (.error (.ofDB "revoking user sessions" e))
  | .ok _ => .ret (.ok ())

/-- `session.Service.RevokeClientSessions`. -/
def sessionRevokeClientSessions (clientID : UUID) : Call (Except AuthError Unit) :=
  Call.sql (.revokeAccessTokensByClient clientID) fun
  | .error e => .ret (.error (.ofDB "revoking client sessions" e))
  | .ok _ => .ret (.ok ())

/-- `session.Service.CleanupExpiredCodes`. -/
def cleanupExpiredCodes : Call (Except AuthError Unit) :=
  Call.sql .deleteExpiredAuthorizationCodes fun
  | .error e => .ret (.error (.ofDB "cleaning up expired authorization codes" e))
  | .ok _ => .ret (.ok ())

/-- `session.Service.CleanupExpiredTokens`. -/
def cleanupExpiredTokens : Call (Except AuthError Unit) :=
  Call.sql .deleteExpiredAccessTokens fun
  | .error e => .ret (.error (.ofDB "cleaning up expired access tokens" e))
  | .ok _ => .ret (.ok ())

/-! ### Accounts -/

/-- `user.Service.UpdateUserStatus`. -/
def updateUserStatus (id : UUID) (isActive : Bool) : Call (Except AuthError User) :=
  Call.sql (.updateUserActiveStatus id isActive) fun
  | .error .noRows => .ret (.error .userNotFound)
  | .error e => .ret (.error (.ofDB "updating user status" e))
  | .ok user => .ret (.ok user)

/-- `user.Service.UnlockUserAccount`. -/
def unlockUserAccount (userID : UUID) : Call (Except AuthError Unit) :=
  Call.sql (.unlockUserAccount userID) fun
  | .error .noRows => .ret (.error .userNotFound)
  | .error e => .ret (.error (.ofDB "unlocking user account" e))
  | .ok _ => .ret (.ok ())

/-- `user.Service.GetUser`. -/
def getUser (id : UUID) : Call (Except AuthError User) :=
  Call.sql (.getUserByID id) fun
  | .error .noRows => .ret (.error .userNotFound)
  | .error e => .ret (.error (.ofDB "getting user" e))
  | .ok user => .ret (.ok user)

end GoauthServer
