import GoauthServer.Service.Login
import GoauthServer.Service.Revoke

/-!
# Middleware and handlers

`AuthMiddleware` (`internal/middleware/auth.go`) and the handlers of
`internal/transport/http/api/v1/handler` that issue or revoke tokens: `Login`, `ChangePassword`,
`Logout`, `Revoke` and the admin's `RevokeUserSessions`. A handler starts from the request as it
was bound; the JSON of requests and responses, logging and metrics are left out.
-/

namespace GoauthServer

open Interact GoTime

/-- An error response: status, `error` and, where there is one, the error whose text is the
`error_description`. -/
structure ErrorReply where
  status : ℕ
  error : String
  description : Option AuthError := none
  deriving DecidableEq

/-! ### Authentication by access token -/

/-- The headers of a request that authentication looks at. An absent header is `""`. -/
structure RequestHeaders where
  authorization : String
  accessTokenCookie : Option String
  deriving DecidableEq

/-- What `AuthMiddleware` stores in the context. -/
structure AuthContext where
  rawToken : String
  userID : String
  email : String
  deriving DecidableEq

/-- `authHeader[7:]` where the header starts with `"bearer "`, in any case. -/
def bearerOfHeader (header : String) : Option String :=
  if header.toList.length > 7 ∧
      (header.toList.take 7).map Char.toLower = "bearer ".toList then
    some (String.ofList (header.toList.drop 7))
  else none

/-- Where `AuthMiddleware` finds the token: the header, or else the cookie. -/
def requestToken (h : RequestHeaders) : Except ErrorReply String :=
  if h.authorization ≠ "" then
    match bearerOfHeader h.authorization with
    | some token => .ok token
    | none => .error ⟨401, "Unauthorized - malformed authorization header", none⟩
  else
    match h.accessTokenCookie with
    | some token => .ok token
    | none => .error ⟨401, "Unauthorized - no token", none⟩

/-- `AuthMiddleware` from the token on: signature and expiry, then the revocation check. -/
def authenticateToken (env : Env) (token : String) : Call (Except ErrorReply AuthContext) :=
  (validateAccessToken env token).bind fun
  | .error _ => .ret (.error ⟨401, "Unauthorized - invalid token", none⟩)
  | .ok claims =>
    (isTokenRevoked env token).bind fun
    | .error _ => .ret (.error ⟨500, "Internal server error", none⟩)
    | .ok true => .ret (.error ⟨401, "Unauthorized - token has been revoked", none⟩)
    | .ok false =>
      .ret (.ok { rawToken := token, userID := claims.userID, email := claims.email })

/-- `AuthMiddleware`. -/
def authMiddleware (env : Env) (h : RequestHeaders) : Call (Except ErrorReply AuthContext) :=
  match requestToken h with
  | .error e => .ret (.error e)
  | .ok token => authenticateToken env token

/-- `extractBearerToken`; `""` if there is none. -/
def extractBearerToken (header : String) : String :=
  if header.toList.length > 7 ∧ header.toList.take 7 = "Bearer ".toList then
    String.ofList (header.toList.drop 7)
  else ""

/-- The bearer branch of `authenticateRevokeRequest`. -/
def authenticateRevokeBearer (env : Env) (bearerToken : String) : Call Bool :=
  (validateAccessToken env bearerToken).bind fun
  | .error _ => .ret false
  | .ok _ =>
    (isTokenRevoked env bearerToken).bind fun
    | .error _ => .ret false
    | .ok revoked => .ret (!revoked)

/-- `authenticateRevokeRequest`; every failure is answered with 401. -/
def authenticateRevokeRequest (env : Env) (authorization : String) : Call Bool :=
  match env.lib.basicAuth authorization with
  | some (clientID, clientSecret) =>
    (validateClientCredentials env clientID clientSecret).bind fun
    | .error _ => .ret false
    | .ok valid => .ret valid
  | none =>
    if extractBearerToken authorization ≠ "" then
      authenticateRevokeBearer env (extractBearerToken authorization)
    else .ret false

/-- `Revoke`: the status of the response. The form is given by the values of `token` and
`token_type_hint`, `none` if it does not parse. -/
def revoke (env : Env) (authorization : String) (form : Option (String × String)) : Call ℕ :=
  (authenticateRevokeRequest env authorization).bind fun
  | false => .ret 401
  | true =>
    match form with
    | none => .ret 200
    | some (token, tokenTypeHint) =>
      if token = "" then .ret 200
      else (revokeAnyToken env token tokenTypeHint).bind fun _ => .ret 200

/-! ### Login and change of password -/

/-- The response of `Login` and `ChangePassword`. -/
inductive LoginReply where
  | accessToken (token : String) (expiresIn : Int64)
  | challenge (token : String)
  | locked (retryAfter : Time)
  | failed (e : ErrorReply)
  deriving DecidableEq

def serverError : LoginReply := .failed ⟨500, "server_error", none⟩

/-- The last part of `Login`: a user who need not change the password gets an access token, and
the older ones are revoked. -/
def loginAccessToken (env : Env) (user : User) : Call LoginReply :=
  (generateAccessToken env (env.lib.uuidString user.id) user.email).bind fun
  | .error _ => .ret serverError
  | .ok token =>
    (revokeAllUserAccessTokens user.id).bind fun
    | .error _ => .ret serverError
    | .ok _ =>
      (storeDirectLoginToken env token user.id).bind fun
      | .error _ => .ret serverError
      | .ok _ => .ret (.accessToken token (seconds env.expiry))

/-- The challenge of a user who has to change the password. -/
def loginChallenge (env : Env) (user : User) : Call LoginReply :=
  (generateChallengeToken env user.id).bind fun
  | .error _ => .ret serverError
  | .ok token => .ret (.challenge token)

/-- `Login`. -/
def login (env : Env) (email password sourceIP : String) : Call LoginReply :=
  if !env.lib.isMailAddress email then
    .ret (.failed ⟨400, "invalid_request",
      some (.text "email is not a valid email address")⟩)
  else
    (verifyCredentials env email password sourceIP).bind fun
    | .locked lockedUntil => .ret (.locked lockedUntil)
    | .failed .invalidCredentials => .ret (.failed ⟨401, "invalid_credentials", none⟩)
    | .failed _ => .ret serverError
    | .success user =>
      if user.forcePasswordChange then loginChallenge env user else loginAccessToken env user

/-- The error responses of the `ChangePassword` handler. -/
def changePasswordError : AuthError → ErrorReply
  | .forcePasswordChangeSatisfied => ⟨409, "password_change_already_satisfied", none⟩
  | .userNotFound => ⟨400, "invalid_challenge_token", some (.text "user not found")⟩
  | e => ⟨400, "invalid_new_password", some e⟩

/-- The access token at the end of a change of password. -/
def changedPasswordToken (env : Env) (userID : UUID) (result : ChangePasswordResult) :
    Call LoginReply :=
  (generateAccessToken env result.userID result.email).bind fun
  | .error _ => .ret serverError
  | .ok token =>
    (storeDirectLoginToken env token userID).bind fun
    | .error _ => .ret serverError
    | .ok _ => .ret (.accessToken token (seconds env.expiry))

/-- The `ChangePassword` handler. -/
def changePasswordHandler (env : Env) (challengeToken newPassword : String) : Call LoginReply :=
  (validateChallengeToken env challengeToken).bind fun
  | .error e => .ret (.failed ⟨400, "invalid_challenge_token", some e⟩)
  | .ok userID =>
    (changePassword env userID newPassword).bind fun
    | .error e => .ret (.failed (changePasswordError e))
    | .ok result => changedPasswordToken env userID result

/-! ### Logout and admin revocation -/

/-- The second half of `Logout`: revoke the refresh tokens of the user. -/
def logoutRefreshTokens (env : Env) (userID : String) : Call Unit :=
  if userID = "" then .ret ()
  else
    match env.lib.uuidParse userID with
    | none => .ret ()
    | some userUUID => (revokeUserRefreshTokens userUUID "logout").map fun _ => ()

/-- `Logout`, for a caller whom `AuthMiddleware` let through. Neither revocation is fatal. -/
def logout (env : Env) (ctx : AuthContext) : Call Unit :=
  (revokeRawToken env ctx.rawToken).bind fun _ => logoutRefreshTokens env ctx.userID

/-- A request to the logout route. -/
def logoutRequest (env : Env) (h : RequestHeaders) : Call (Except ErrorReply Unit) :=
  (authMiddleware env h).bind fun
  | .error e => .ret (.error e)
  | .ok ctx => (logout env ctx).map .ok

/-- The admin's `RevokeUserSessions`: the status of the response. `actorID` is the admin, where
the context names one. -/
def revokeUserSessions (env : Env) (idParam : String) (actorID : Option UUID) : Call ℕ :=
  match env.lib.uuidParse idParam with
  | none => .ret 404
  | some id =>
    (getUser id).bind fun
    | .error .userNotFound => .ret 404
    | .error _ => .ret 500
    | .ok _ =>
      (revokeUserRefreshTokens id "admin_revoked").bind fun
      | .error _ => .ret 500
      | .ok _ =>
        env.logEvent
          { eventType := .adminSessionRevoked, userID := some id, actorID := actorID
            metadata := [("reason", "admin_revoked")] } <|
        .ret 204

end GoauthServer
