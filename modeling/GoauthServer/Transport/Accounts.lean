import GoauthServer.Transport.AdminHandlers
import GoauthServer.Transport.Clients

/-!
# Handlers for users and sessions

`user_handler.go` and `session_handler.go`, with the lists of `internal/service/user` and
`internal/service/session` that they show, and the requests of the whole admin API as one type.

The list of access tokens calls `String` on the client of each token. For a token without a client, which a
direct login stores, that is a method call through a nil pointer: the handler panics, and `gin.Recovery` answers
with status 500.
-/

namespace GoauthServer

open Interact

/-! ### The user service -/

/-- `user.User`: the row without its password and its identity. -/
structure UserModel where
  id : UUID
  email : String
  emailVerified : Bool
  firstName : Option String
  lastName : Option String
  isActive : Bool
  isAdmin : Bool
  locale : String
  lastLoginAt : Time
  createdAt : Time
  updatedAt : Time
  deriving DecidableEq

/-- `toUser`. -/
def toUser (r : User) : UserModel :=
  { id := r.id, email := r.email, emailVerified := r.emailVerified, firstName := r.firstName
    lastName := r.lastName, isActive := r.isActive, isAdmin := r.isAdmin.getD false, locale := r.locale
    lastLoginAt := r.lastLoginAt, createdAt := r.createdAt, updatedAt := r.updatedAt }

/-- `ListUsersParams`. -/
structure ListUsersParams where
  isActive : Option Bool
  isAdmin : Option Bool
  limit : Int32
  offset : Int32
  deriving DecidableEq

/-- `user.Service.ListUsers`. -/
def listUsers (params : ListUsersParams) : Call (Except AuthError (List UserModel × ℕ)) :=
  let isActive := params.isActive.getD true
  let isAdmin := params.isAdmin.getD false
  let limit := if params.limit ≤ 0 then 20 else params.limit
  Call.sql (.listUsers isActive isAdmin limit.toInt params.offset.toInt) fun
  | .error e => .ret (.error (.ofDB "listing users" e))
  | .ok users =>
    Call.sql (.countUsers isActive isAdmin) fun
    | .error e => .ret (.error (.ofDB "counting users" e))
    | .ok total => .ret (.ok (users.map toUser, total))

/-! ### The session service -/

/-- `session.AuthorizationCode`. The code itself is a field, which no response shows. -/
structure CodeModel where
  id : UUID
  code : String
  clientID : UUID
  userID : UUID
  providerID : UUID
  redirectURI : String
  scope : Option String
  expiresAt : Time
  usedAt : Option Time
  isRevoked : Bool
  createdAt : Time
  deriving DecidableEq

/-- `session.AccessToken`. -/
structure TokenModel where
  id : UUID
  clientID : Option UUID
  userID : UUID
  scope : Option String
  expiresAt : Time
  isRevoked : Bool
  createdAt : Time
  deriving DecidableEq

/-- `toAuthorizationCode`. -/
def toAuthorizationCode (r : AuthorizationCode) : CodeModel :=
  { id := r.id, code := r.code, clientID := r.clientID, userID := r.userID, providerID := r.providerID
    redirectURI := r.redirectUri, scope := r.scope, expiresAt := r.expiresAt, usedAt := r.usedAt
    isRevoked := r.isRevoked.getD false, createdAt := r.createdAt }

/-- `toAccessToken`. -/
def toAccessToken (r : AccessToken) : TokenModel :=
  { id := r.id, clientID := r.clientID, userID := r.userID, scope := r.scope, expiresAt := r.expiresAt
    isRevoked := r.isRevoked.getD false, createdAt := r.createdAt }

/-- `ListAuthorizationCodesParams` and `ListAccessTokensParams`, which have the same fields. -/
structure ListSessionsParams where
  clientID : Option UUID
  userID : Option UUID
  isRevoked : Option Bool
  limit : Int32
  offset : Int32
  deriving DecidableEq

/-- The filter of both lists. What is not given is the zero value of its type, and a filter like any other. -/
def ListSessionsParams.filter (params : ListSessionsParams) : SessionFilter :=
  { clientID := params.clientID.getD 0, userID := params.userID.getD 0
    isRevoked := params.isRevoked.getD false }

def ListSessionsParams.pageLimit (params : ListSessionsParams) : Int32 :=
  if params.limit ≤ 0 then 20 else params.limit

/-- `session.Service.ListAuthorizationCodes`. -/
def listAuthorizationCodes (params : ListSessionsParams) : Call (Except AuthError (List CodeModel × ℕ)) :=
  Call.sql (.listAuthorizationCodes params.filter params.pageLimit.toInt params.offset.toInt) fun
  | .error e => .ret (.error (.ofDB "listing authorization codes" e))
  | .ok codes =>
    Call.sql (.countAuthorizationCodes params.filter) fun
    | .error e => .ret (.error (.ofDB "counting authorization codes" e))
    | .ok total => .ret (.ok (codes.map toAuthorizationCode, total))

/-- `session.Service.ListAccessTokens`. -/
def listAccessTokens (params : ListSessionsParams) : Call (Except AuthError (List TokenModel × ℕ)) :=
  Call.sql (.listAccessTokens params.filter params.pageLimit.toInt params.offset.toInt) fun
  | .error e => .ret (.error (.ofDB "listing access tokens" e))
  | .ok tokens =>
    Call.sql (.countAccessTokens params.filter) fun
    | .error e => .ret (.error (.ofDB "counting access tokens" e))
    | .ok total => .ret (.ok (tokens.map toAccessToken, total))

/-! ### Responses -/

/-- `UserResponse`. -/
structure UserResponse where
  id : String
  email : String
  emailVerified : Bool
  firstName : Option String
  lastName : Option String
  isActive : Bool
  isAdmin : Bool
  locale : String
  lastLoginAt : Time
  createdAt : Time
  updatedAt : Time
  deriving DecidableEq

/-- `AuthorizationCodeResponse`. -/
structure CodeResponse where
  id : String
  clientID : String
  userID : String
  providerID : String
  redirectURI : String
  scope : Option String
  expiresAt : String
  usedAt : Option String
  isRevoked : Bool
  createdAt : String
  deriving DecidableEq

/-- `AccessTokenResponse`. -/
structure AccessTokenResponse where
  id : String
  clientID : String
  userID : String
  scope : Option String
  expiresAt : String
  isRevoked : Bool
  createdAt : String
  deriving DecidableEq

/-- The responses of these handlers. -/
inductive AccountsReply where
  | user (u : UserResponse)
  | users (us : List UserResponse) (total : ℕ)
  | codes (cs : List CodeResponse) (total : ℕ)
  | tokens (ts : List AccessTokenResponse) (total : ℕ)
  | noContent
  | failed (e : ErrorReply)
  /-- The handler panicked. -/
  | recovered
  deriving DecidableEq

/-- `toUserResponse`. -/
def toUserResponse (env : Env) (u : UserModel) : UserResponse where
  id := env.lib.uuidString u.id
  email := u.email
  emailVerified := u.emailVerified
  firstName := u.firstName
  lastName := u.lastName
  isActive := u.isActive
  isAdmin := u.isAdmin
  locale := u.locale
  lastLoginAt := u.lastLoginAt
  createdAt := u.createdAt
  updatedAt := u.updatedAt

/-- `toAuthorizationCodeResponse`. The layout of the times is that of RFC 3339 in UTC. -/
def toAuthorizationCodeResponse (env : Env) (c : CodeModel) : CodeResponse where
  id := env.lib.uuidString c.id
  clientID := env.lib.uuidString c.clientID
  userID := env.lib.uuidString c.userID
  providerID := env.lib.uuidString c.providerID
  redirectURI := c.redirectURI
  scope := c.scope
  expiresAt := env.lib.formatRFC3339 c.expiresAt
  usedAt := c.usedAt.map env.lib.formatRFC3339
  isRevoked := c.isRevoked
  createdAt := env.lib.formatRFC3339 c.createdAt

/-- `toAccessTokenResponse`; `none` where it panics. -/
def toAccessTokenResponse (env : Env) (t : TokenModel) : Option AccessTokenResponse :=
  t.clientID.map fun clientID =>
    { id := env.lib.uuidString t.id, clientID := env.lib.uuidString clientID
      userID := env.lib.uuidString t.userID, scope := t.scope
      expiresAt := env.lib.formatRFC3339 t.expiresAt, isRevoked := t.isRevoked
      createdAt := env.lib.formatRFC3339 t.createdAt }

/-- `handleUserError`. -/
def handleUserError (e : AuthError) : ErrorReply :=
  match e.root with
  | .userNotFound => ⟨404, "user not found", none⟩
  | _ => internalServerError

/-- `handleSessionError`. -/
def handleSessionError (e : AuthError) : ErrorReply :=
  match e.root with
  | .authorizationCodeNotFound => ⟨404, "authorization code not found", none⟩
  | .accessTokenNotFound => ⟨404, "access token not found", none⟩
  | _ => internalServerError

/-! ### Handlers -/

/-- `ListUsers`. -/
def listUsersHandler (env : Env) (q : PageQuery) (isActive isAdmin : String) : Call AccountsReply :=
  match parsePaginationParams q with
  | .error e => .ret (.failed e)
  | .ok (limit, offset) =>
    match parseOptionalBool "is_active" isActive with
    | .error e => .ret (.failed e)
    | .ok isActive =>
      match parseOptionalBool "is_admin" isAdmin with
      | .error e => .ret (.failed e)
      | .ok isAdmin =>
        (listUsers { isActive := isActive, isAdmin := isAdmin, limit := limit, offset := offset }).map fun
        | .error _ => .failed internalServerError
        | .ok (users, total) => .users (users.map (toUserResponse env)) total

/-- `UpdateUserStatus`. -/
def updateUserStatusHandler (env : Env) (idParam : String) (body : Except String Bool) : Call AccountsReply :=
  match env.lib.uuidParse idParam with
  | none => .ret (.failed ⟨400, "invalid user id", none⟩)
  | some id =>
    match body with
    | .error text => .ret (.failed ⟨400, text, none⟩)
    | .ok isActive =>
      (updateUserStatus id isActive).map fun
      | .error e => .failed (handleUserError e)
      | .ok row => .user (toUserResponse env (toUser row))

/-- The response of `UnlockUser` and `RevokeUserSessions` with this status. -/
def accountStatus : ℕ → AccountsReply
  | 204 => .noContent
  | 404 => .failed ⟨404, "user not found", none⟩
  | _ => .failed internalServerError

/-- The parameters of the lists of sessions. -/
structure SessionQuery where
  page : PageQuery
  clientID : String
  userID : String
  isRevoked : String
  deriving DecidableEq

/-- `parseOptionalUUID`, with its error response. -/
def parseOptionalUUID (env : Env) (key value : String) : Except ErrorReply (Option UUID) :=
  if value = "" then .ok none
  else
    match env.lib.uuidParse value with
    | none => .error ⟨400, key ++ " must be a valid UUID", none⟩
    | some id => .ok (some id)

/-- What both lists of sessions do before they call the service. -/
def parseSessionQuery (env : Env) (q : SessionQuery) : Except ErrorReply ListSessionsParams := do
  let (limit, offset) ← parsePaginationParams q.page
  let clientID ← parseOptionalUUID env "client_id" q.clientID
  let userID ← parseOptionalUUID env "user_id" q.userID
  let isRevoked ← parseOptionalBool "is_revoked" q.isRevoked
  return { clientID := clientID, userID := userID, isRevoked := isRevoked, limit := limit, offset := offset }

/-- `ListAuthorizationCodes`. -/
def listAuthorizationCodesHandler (env : Env) (q : SessionQuery) : Call AccountsReply :=
  match parseSessionQuery env q with
  | .error e => .ret (.failed e)
  | .ok params =>
    (listAuthorizationCodes params).map fun
    | .error _ => .failed internalServerError
    | .ok (codes, total) => .codes (codes.map (toAuthorizationCodeResponse env)) total

/-- `ListAccessTokens`. -/
def listAccessTokensHandler (env : Env) (q : SessionQuery) : Call AccountsReply :=
  match parseSessionQuery env q with
  | .error e => .ret (.failed e)
  | .ok params =>
    (listAccessTokens params).map fun
    | .error _ => .failed internalServerError
    | .ok (tokens, total) =>
      match tokens.mapM (toAccessTokenResponse env) with
      | none => .recovered
      | some ts => .tokens ts total

/-- `RevokeAuthorizationCode`. -/
def revokeAuthorizationCodeHandler (env : Env) (idParam : String) : Call AccountsReply :=
  match env.lib.uuidParse idParam with
  | none => .ret (.failed ⟨400, "invalid authorization code ID", none⟩)
  | some id =>
    (sessionRevokeAuthorizationCode id).map fun
    | .error e => .failed (handleSessionError e)
    | .ok _ => .noContent

/-- `RevokeAccessToken`. -/
def revokeAccessTokenHandler (env : Env) (idParam : String) : Call AccountsReply :=
  match env.lib.uuidParse idParam with
  | none => .ret (.failed ⟨400, "invalid access token ID", none⟩)
  | some id =>
    (sessionRevokeAccessToken id).map fun
    | .error e => .failed (handleSessionError e)
    | .ok _ => .noContent

/-! ### The admin API -/

/-- A request to one of the handlers for administrators, or to the public list of providers. -/
inductive ApiRequest where
  | listClients (q : PageQuery) (isActive : String)
  | getClient (clientParam : String)
  | createClient (userID : Option String) (body : Except String CreateClientDTO)
  | updateClient (clientParam : String) (body : Except String UpdateClientDTO)
  | regenerateClientSecret (clientParam : String)
  | deleteClient (clientParam : String)
  | listProviders (clientParam : String)
  | getProvider (clientParam idParam : String)
  | createProvider (clientParam : String) (body : Except String CreateProviderDTO)
  | updateProvider (clientParam idParam : String) (body : Except String UpdateProviderDTO)
  | deleteProvider (clientParam idParam : String)
  | listEnabledProviders (clientParam : String)
  | listUsers (q : PageQuery) (isActive isAdmin : String)
  | updateUserStatus (idParam : String) (body : Except String Bool)
  | unlockUser (idParam : String) (actorID : Option UUID)
  | revokeUserSessions (idParam : String) (actorID : Option UUID)
  | listAuthorizationCodes (q : SessionQuery)
  | revokeAuthorizationCode (idParam : String)
  | listAccessTokens (q : SessionQuery)
  | revokeAccessToken (idParam : String)

/-- How it ends. -/
inductive ApiReply where
  | clients (r : ClientsReply)
  | providers (r : ProviderReply)
  | accounts (r : AccountsReply)
  deriving DecidableEq

/-- The call that serves the request. -/
def ApiRequest.call (env : AdminEnv) : ApiRequest → Call ApiReply
  | .listClients q isActive => (listClientsHandler env q isActive).map .clients
  | .getClient clientParam => (getClientHandler env clientParam).map .clients
  | .createClient userID body => (createClientHandler env userID body).map .clients
  | .updateClient clientParam body => (updateClientHandler env clientParam body).map .clients
  | .regenerateClientSecret clientParam => (regenerateClientSecretHandler env clientParam).map .clients
  | .deleteClient clientParam => (deleteClientHandler env clientParam).map .clients
  | .listProviders clientParam => (listProvidersHandler env clientParam).map .providers
  | .getProvider clientParam idParam => (getProviderHandler env clientParam idParam).map .providers
  | .createProvider clientParam body => (createProviderHandler env clientParam body).map .providers
  | .updateProvider clientParam idParam body =>
    (updateProviderHandler env clientParam idParam body).map .providers
  | .deleteProvider clientParam idParam => (deleteProviderHandler env clientParam idParam).map .providers
  | .listEnabledProviders clientParam => (listEnabledProvidersHandler env clientParam).map .providers
  | .listUsers q isActive isAdmin => (listUsersHandler env.auth q isActive isAdmin).map .accounts
  | .updateUserStatus idParam body => (updateUserStatusHandler env.auth idParam body).map .accounts
  | .unlockUser idParam actorID =>
    (GoauthServer.unlockUser env.auth idParam actorID).map fun n => .accounts (accountStatus n)
  | .revokeUserSessions idParam actorID =>
    (GoauthServer.revokeUserSessions env.auth idParam actorID).map fun n => .accounts (accountStatus n)
  | .listAuthorizationCodes q => (listAuthorizationCodesHandler env.auth q).map .accounts
  | .revokeAuthorizationCode idParam => (revokeAuthorizationCodeHandler env.auth idParam).map .accounts
  | .listAccessTokens q => (listAccessTokensHandler env.auth q).map .accounts
  | .revokeAccessToken idParam => (revokeAccessTokenHandler env.auth idParam).map .accounts

end GoauthServer
