import GoauthServer.Service.Authorization
import GoauthServer.Transport.Handlers

/-!
# The token endpoint

`TokenExchange` of `internal/transport/http/api/v1/handler/auth_handler.go`, with its two grants and the two
functions that map errors of the service to responses.

The body of a request is read by gin's JSON binding, up to three times. What the binding makes of it is the
input of the handler here: for each of the three structures the bound value, or the text of the error.
-/

namespace GoauthServer

open Interact

/-- `TokenExchangeRequest`. -/
structure TokenExchangeRequest where
  grantType : String
  code : String
  clientID : String
  clientSecret : String
  redirectURI : String
  deriving DecidableEq

/-- `RefreshTokenGrantRequest`. -/
structure RefreshTokenGrantRequest where
  grantType : String
  refreshToken : String
  clientID : String
  clientSecret : String
  deriving DecidableEq

/-- What `ShouldBindBodyWith` returns for one body: the pre-screen of `grant_type`, and the two requests. -/
structure TokenBody where
  grantCheck : Except String String
  codeGrant : Except String TokenExchangeRequest
  refreshGrant : Except String RefreshTokenGrantRequest

/-- A response of the token endpoint. -/
inductive TokenReply where
  /-- Status 200 with a `TokenExchangeResponse`. -/
  | issued (response : TokenResponse)
  | failed (e : ErrorReply)
  deriving DecidableEq

/-- The response where a body could not be bound. -/
def invalidRequest (message : String) : ErrorReply := ⟨400, "invalid_request", some (.text message)⟩

/-- The response where the client could not be authenticated. -/
def invalidClient : ErrorReply := ⟨401, "invalid_client", some (.text "client authentication failed")⟩

/-- The response where a code was refused. -/
def invalidCodeGrant : ErrorReply :=
  ⟨400, "invalid_grant", some (.text ("The provided authorization grant is invalid, expired, revoked, " ++
    "does not match the redirection URI, or was issued to another client."))⟩

/-- The response where a refresh token was refused. -/
def invalidRefreshGrant : ErrorReply :=
  ⟨400, "invalid_grant",
    some (.text "The provided refresh token is invalid, expired, or has been revoked.")⟩

/-- `handleTokenExchangeError`. -/
def handleTokenExchangeError (e : AuthError) : ErrorReply :=
  match e.root with
  | .clientNotFound | .clientInactive | .invalidClientSecret => invalidClient
  | .codeNotFound | .codeExpired | .codeUsed | .codeRevoked | .codeClientMismatch
  | .codeRedirectMismatch => invalidCodeGrant
  | _ => ⟨500, "server_error", none⟩

/-- `handleRefreshTokenError`. -/
def handleRefreshTokenError (e : AuthError) : ErrorReply :=
  match e.root with
  | .clientNotFound | .clientInactive | .invalidClientSecret => invalidClient
  | .invalidGrant | .tokenExpired => invalidRefreshGrant
  | _ => ⟨500, "server_error", none⟩

/-- `handleAuthorizationCodeGrant`. -/
def handleAuthorizationCodeGrant (env : Env) (body : TokenBody) : Call TokenReply :=
  match body.codeGrant with
  | .error message => .ret (.failed (invalidRequest message))
  | .ok req =>
    match env.lib.uuidParse req.clientID with
    | none =>
      .ret (.failed ⟨400, "invalid_client", some (.text "client_id is not a valid UUID")⟩)
    | some clientID =>
      (exchangeCodeForToken env req.code clientID req.clientSecret req.redirectURI).map fun
      | .error e => .failed (handleTokenExchangeError e)
      | .ok tokenResp => .issued tokenResp

/-- `handleRefreshTokenGrant`. -/
def handleRefreshTokenGrant (env : Env) (body : TokenBody) : Call TokenReply :=
  match body.refreshGrant with
  | .error message => .ret (.failed (invalidRequest message))
  | .ok req =>
    (rotateRefreshToken env req.refreshToken req.clientID req.clientSecret).map fun
    | .error e => .failed (handleRefreshTokenError e)
    | .ok tokenResp => .issued tokenResp

/-- `TokenExchange`. -/
def tokenExchange (env : Env) (body : TokenBody) : Call TokenReply :=
  match body.grantCheck with
  | .error message => .ret (.failed (invalidRequest message))
  | .ok grantType =>
    if grantType = "authorization_code" then handleAuthorizationCodeGrant env body
    else if grantType = "refresh_token" then handleRefreshTokenGrant env body
    else
      .ret (.failed ⟨400, "unsupported_grant_type",
        some (.text "supported grant types: authorization_code, refresh_token")⟩)

end GoauthServer
