import GoauthServer.Lib.Text
import GoauthServer.Service.Rotation

/-!
# The authorization code flow

`internal/service/auth/authorization.go` and `provider_client.go`: the start of the flow, the callback of
an identity provider, the exchange of an authorization code, and the revocation of access tokens.
-/

namespace GoauthServer

open Interact Base64 GoTime

/-! ### The callback of an identity provider -/

/-- `auth.ProviderUserInfo`. -/
structure ProviderUserInfo where
  sub : String
  email : String
  emailVerified : Bool
  givenName : String
  familyName : String
  locale : String
  deriving DecidableEq

/-- `strField`. A later field of the same name is the one that counts. -/
def strField (raw : List (String × JsonField)) (key : String) : String :=
  match raw.reverse.lookup key with
  | some (.str s) => s
  | _ => ""

/-- `boolField`. -/
def boolField (raw : List (String × JsonField)) (key : String) : Bool :=
  match raw.reverse.lookup key with
  | some (.bool b) => b
  | _ => false

/-- `strField` with a second name for the field. -/
def strFieldOr (raw : List (String × JsonField)) (key other : String) : String :=
  if strField raw key ≠ "" then strField raw key else strField raw other

/-- `fetchUserInfo`, given the answer of the endpoint. -/
def readUserInfo : UserInfoReply → Except AuthError ProviderUserInfo
  | .failed => .error (.text "fetching user info")
  | .status code => .error (.text ("user info endpoint returned HTTP " ++ toString code))
  | .malformed => .error (.text "parsing user info response")
  | .fields raw =>
    let info : ProviderUserInfo :=
      { sub := strField raw "sub", email := strField raw "email"
        emailVerified := boolField raw "email_verified"
        givenName := strFieldOr raw "given_name" "first_name"
        familyName := strFieldOr raw "family_name" "last_name"
        locale := strField raw "locale" }
    if info.sub = "" then .error (.text "user info response missing required 'sub' field")
    else if info.email = "" then
      .error (.text "user info response missing required 'email' field")
    else .ok info

/-- `Service.upsertUser`. -/
def upsertUser (providerName : String) (info : ProviderUserInfo) :
    Call (Except AuthError User) :=
  Call.sql (.getUserByProviderID (strPtr providerName) (strPtr info.sub)) fun
  | .ok user =>
    Call.now fun now =>
    Call.sql (.updateLastLogin user.id now) fun
    | .error e => .ret (.error (.ofDB "updating last login" e))
    | .ok user => .ret (.ok user)
  | .error .noRows =>
    Call.now fun now =>
    Call.sql (.createUser
      { email := info.email, emailVerified := info.emailVerified
        firstName := strPtr info.givenName, lastName := strPtr info.familyName
        provider := strPtr providerName, providerID := strPtr info.sub
        locale := if info.locale = "" then "en-US" else info.locale, lastLoginAt := now }) fun
    | .error e => .ret (.error (.ofDB "creating user" e))
    | .ok user => .ret (.ok user)
  | .error e => .ret (.error (.ofDB "looking up user" e))

/-- `GetProviderWithSecretByClientAndName` of the provider service. -/
def getProviderWithSecretByClientAndName (env : Env) (clientID : UUID) (name : String) :
    Call (Except AuthError OAuthProviderWithSecret) :=
  Call.sql (.getOAuthProviderByClientAndName clientID name) fun
  | .error .noRows => .ret (.error .providerNotFound)
  | .error e => .ret (.error (.ofDB "getting provider by client and name" e))
  | .ok row =>
    match env.lib.decryptSecret row.providerClientSecret with
    | none => .ret (.error (.wrap "decrypting provider secret" (.text "decrypt")))
    | some secret =>
      .ret (.ok
        { id := row.id, clientID := row.clientID, name := row.name, authURL := row.authUrl
          tokenURL := row.tokenUrl, userInfoURL := row.userInfoUrl, scopes := row.scopes
          isEnabled := row.isEnabled = some true, providerClientID := row.providerClientID
          providerClientSecret := secret })

/-- The last steps of the callback: generate an authorization code for `user` and store it. -/
def storeAuthorizationCode (clientID : UUID) (p : OAuthProviderWithSecret) (user : User)
    (clientRedirectURI : String) (scope : Option String) : Call (Except AuthError String) :=
  Call.randBytes 32 fun
  | none =>
    .ret (.error (.wrap "generating authorization code" (.wrap "reading random bytes" .rand)))
  | some bytes =>
    let authCode := secureToken bytes
    Call.now fun now =>
    Call.sql (.createAuthorizationCode
      { code := authCode, clientID := clientID, userID := user.id, providerID := p.id
        redirectUri := clientRedirectURI, scope := scope
        expiresAt := add now (5 * minute) }) fun
    | .error e => .ret (.error (.ofDB "storing authorization code" e))
    | .ok _ => .ret (.ok authCode)

/-- The callback once the provider is known: ask it who the user is. -/
def resolveProviderUser (p : OAuthProviderWithSecret) (code callbackURL : String) :
    Call (Except AuthError User) :=
  .call (S := effects) (Request.exchangeCode p code callbackURL) fun
  | none => .ret (.error (.wrap "exchanging provider code" (.text "exchanging code with provider")))
  | some providerToken =>
    .call (S := effects) (Request.getUserInfo providerToken p.userInfoURL) fun reply =>
      match readUserInfo reply with
      | .error e => .ret (.error (.wrap "fetching user info from provider" e))
      | .ok info => upsertUser p.name info

/-- `Service.HandleProviderCallback`. -/
def handleProviderCallback (env : Env) (clientID : UUID) (providerName code callbackURL
    clientRedirectURI : String) (scope : Option String) : Call (Except AuthError String) :=
  Call.sql (.getClient clientID) fun
  | .error .noRows => .ret (.error .clientNotFound)
  | .error e => .ret (.error (.ofDB "getting client" e))
  | .ok client =>
    if client.isActive ≠ some true then .ret (.error .clientInactive)
    else
      (getProviderWithSecretByClientAndName env clientID providerName).bind fun
      | .error e => .ret (.error (.wrap "getting provider" e))
      | .ok p =>
        if !p.isEnabled then .ret (.error .providerDisabled)
        else
          (resolveProviderUser p code callbackURL).bind fun
          | .error e => .ret (.error e)
          | .ok user => storeAuthorizationCode clientID p user clientRedirectURI scope

/-! ### The start of the flow -/

/-- `Service.InitiateAuthorization`. `authCodeURL` is `oauth2.Config.AuthCodeURL` with offline access, of
the provider, the callback URL and the state. -/
def initiateAuthorization (env : Env)
    (authCodeURL : OAuthProviderWithSecret → (callbackURL state : String) → String) (clientID : UUID)
    (providerName callbackURL clientRedirectURI state : String) : Call (Except AuthError String) :=
  Call.sql (.getClient clientID) fun
  | .error .noRows => .ret (.error .clientNotFound)
  | .error e => .ret (.error (.ofDB "getting client" e))
  | .ok client =>
    if client.isActive ≠ some true then .ret (.error .clientInactive)
    else if !client.redirectUris.contains clientRedirectURI then
      .ret (.error .invalidRedirectURI)
    else
      (getProviderWithSecretByClientAndName env clientID providerName).bind fun
      | .error .providerNotFound => .ret (.error .providerNotFound)
      | .error e => .ret (.error (.wrap "getting provider" e))
      | .ok p =>
        if !p.isEnabled then .ret (.error .providerDisabled)
        else .ret (.ok (authCodeURL p callbackURL state))

/-! ### The exchange of a code -/

/-- The checks on the code that was found, in the order of the source. -/
def checkCode (authCode : AuthorizationCode) (clientID : UUID) (redirectURI : String)
    (now : Time) : Option AuthError :=
  if authCode.expiresAt < now then some .codeExpired
  else if authCode.clientID ≠ clientID then some .codeClientMismatch
  else if authCode.redirectUri ≠ redirectURI then some .codeRedirectMismatch
  else none

/-- The scope a code was granted, `""` if none. -/
def AuthorizationCode.grantedScope (c : AuthorizationCode) : String := c.scope.getD ""

/-- The response of an exchange. -/
def exchangeResponse (env : Env) (authCode : AuthorizationCode)
    (tokenString rawRefreshToken : String) : TokenResponse :=
  { accessToken := tokenString, tokenType := "Bearer", expiresIn := seconds env.expiry
    scope := authCode.scope, refreshToken := rawRefreshToken }

/-- The first refresh token of a new family. -/
def issueRefreshToken (env : Env) (clientID : UUID) (authCode : AuthorizationCode) (user : User)
    (accessTokenRecord : AccessToken) (tokenString : String) :
    Call (Except AuthError TokenResponse) :=
  Call.randBytes 32 fun
  | none =>
    .ret (.error (.wrap "generating refresh token" (.wrap "reading random bytes" .rand)))
  | some bytes =>
    let tokenValue := secureToken bytes
    Call.newUUID fun familyID =>
    Call.now fun now =>
    let rtExpiresAt := add now env.refreshTokenLifetime
    Call.sql (.createRefreshToken
      { tokenHash := env.lib.sha256Hex tokenValue, tokenFamilyID := familyID
        clientID := clientID, userID := user.id, accessTokenID := accessTokenRecord.id
        previousTokenID := none, scope := authCode.grantedScope, expiresAt := rtExpiresAt }) fun
    | .error e => .ret (.error (.ofDB "storing refresh token" e))
    | .ok _ =>
      env.logEvent
        { eventType := .refreshTokenIssued, userID := some user.id, clientID := some clientID
          metadata := [("scope", authCode.grantedScope),
            ("expires_at", env.lib.formatRFC3339 rtExpiresAt)] } <|
      .ret (.ok (exchangeResponse env authCode tokenString tokenValue))

/-- Store the access token of an exchange, and issue a refresh token if the client may have one
and the scope asks for it. -/
def issueTokens (env : Env) (client : Client) (clientID : UUID) (authCode : AuthorizationCode)
    (user : User) (tokenString : String) : Call (Except AuthError TokenResponse) :=
  Call.now fun now =>
  Call.sql (.createAccessToken
    { tokenHash := env.lib.sha256Hex tokenString, clientID := some clientID, userID := user.id
      scope := authCode.scope, expiresAt := add now env.expiry }) fun
  | .error e => .ret (.error (.ofDB "storing access token record" e))
  | .ok accessTokenRecord =>
    if client.allowRefreshTokens &&
        Text.contains "offline_access".toList authCode.grantedScope.toList then
      issueRefreshToken env clientID authCode user accessTokenRecord tokenString
    else .ret (.ok (exchangeResponse env authCode tokenString ""))

/-- Mark the code as used and issue the tokens of its user. -/
def redeemCode (env : Env) (client : Client) (clientID : UUID) (authCode : AuthorizationCode) :
    Call (Except AuthError TokenResponse) :=
  Call.sql (.markAuthorizationCodeUsed authCode.id) fun
  | .error e => .ret (.error (.ofDB "marking authorization code as used" e))
  | .ok _ =>
    Call.sql (.getUserByID authCode.userID) fun
    | .error e => .ret (.error (.ofDB "getting user" e))
    | .ok user =>
      (generateAccessToken env (env.lib.uuidString user.id) user.email).bind fun
      | .error e => .ret (.error (.wrap "generating access token" e))
      | .ok tokenString => issueTokens env client clientID authCode user tokenString

/-- `Service.ExchangeCodeForToken`. -/
def exchangeCodeForToken (env : Env) (code : String) (clientID : UUID)
    (clientSecret redirectURI : String) : Call (Except AuthError TokenResponse) :=
  Call.sql (.getClient clientID) fun
  | .error .noRows => .ret (.error .clientNotFound)
  | .error e => .ret (.error (.ofDB "getting client" e))
  | .ok client =>
    if client.isActive ≠ some true then .ret (.error .clientInactive)
    else if client.clientSecretHash ≠ env.lib.sha256Hex clientSecret then
      .ret (.error .invalidClientSecret)
    else
      Call.sql (.getAuthorizationCode code) fun
      | .error .noRows => .ret (.error .codeNotFound)
      | .error e => .ret (.error (.ofDB "getting authorization code" e))
      | .ok authCode =>
        if authCode.isRevoked = some true then .ret (.error .codeRevoked)
        else if authCode.usedAt.isSome then .ret (.error .codeUsed)
        else
          Call.now fun now =>
            match checkCode authCode clientID redirectURI now with
            | some e => .ret (.error e)
            | none => redeemCode env client clientID authCode

/-! ### Revocation of access tokens -/

/-- `Service.RevokeToken`. -/
def revokeToken (tokenHash : String) : Call (Except AuthError Unit) :=
  Call.sql (.getAccessToken tokenHash) fun
  | .error .noRows => .ret (.error .tokenNotFound)
  | .error e => .ret (.error (.ofDB "getting access token" e))
  | .ok token =>
    Call.sql (.revokeAccessToken token.id) fun
    | .error e => .ret (.error (.ofDB "revoking access token" e))
    | .ok _ => .ret (.ok ())

/-- `Service.RevokeRawToken`. -/
def revokeRawToken (env : Env) (rawToken : String) : Call (Except AuthError Unit) :=
  revokeToken (env.lib.sha256Hex rawToken)

/-- `Service.RevokeAllUserAccessTokens`. -/
def revokeAllUserAccessTokens (userID : UUID) : Call (Except AuthError Unit) :=
  Call.sql (.revokeAccessTokensByUser userID) fun
  | .error e => .ret (.error (.ofDB "revoking user access tokens" e))
  | .ok _ => .ret (.ok ())

/-- `Service.RevokeUserRefreshTokens`. -/
def revokeUserRefreshTokens (userID : UUID) (reason : String) : Call (Except AuthError Unit) :=
  Call.sql (.revokeRefreshTokensByUser userID (some reason)) fun
  | .error e => .ret (.error (.db e))
  | .ok _ => .ret (.ok ())

/-- `Service.IsTokenRevoked`. A token that is not in the table is not revoked. -/
def isTokenRevoked (env : Env) (rawToken : String) : Call (Except AuthError Bool) :=
  Call.sql (.getAccessToken (env.lib.sha256Hex rawToken)) fun
  | .error .noRows => .ret (.ok false)
  | .error e => .ret (.error (.ofDB "looking up access token" e))
  | .ok record => .ret (.ok (decide (record.isRevoked = some true)))

end GoauthServer
