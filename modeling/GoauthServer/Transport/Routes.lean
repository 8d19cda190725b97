import GoauthServer.Transport.Accounts
import GoauthServer.Transport.Middleware
import GoauthServer.Transport.Token

/-!
# Requests to the API

The routes of `router.go` under `/api/v1` that clients, users and administrators call, as one type: the token
endpoint, the login and the revocation; the group `protectedAuth`, which every user may call, with
`GetCurrentUser`; and the groups of administrators, with the handler of each route.

What gin's bindings make of the query and of the body of a request is an input. The limits by address of the
public routes, and the cookies that a response sets, are left out.
-/

namespace GoauthServer

open Interact

/-! ### The routes of users -/

/-- `UserDTO`, which `GetCurrentUser` answers with. -/
structure CurrentUser where
  id : String
  email : String
  emailVerified : Bool
  firstName : Option String
  lastName : Option String
  locale : String
  createdAt : Time
  deriving DecidableEq

/-- The responses of the routes of users. -/
inductive UserReply where
  | loggedOut
  | current (u : CurrentUser)
  | failed (e : ErrorReply)
  deriving DecidableEq

/-- `GetCurrentUser`. -/
def getCurrentUser (env : Env) (ctx : Option AuthContext) : Call UserReply :=
  match ctx with
  | none => .ret (.failed ⟨401, "Unauthorized", none⟩)
  | some c =>
    match env.lib.uuidParse c.userID with
    | none => .ret (.failed ⟨401, "Unauthorized", none⟩)
    | some userID =>
      (getUser userID).map fun
      | .error _ => .failed ⟨500, "Failed to get user", none⟩
      | .ok user =>
        .current
          { id := env.lib.uuidString user.id, email := user.email, emailVerified := user.emailVerified
            firstName := user.firstName, lastName := user.lastName, locale := user.locale
            createdAt := user.createdAt }

/-- The routes of `protectedAuth`. -/
inductive UserEndpoint where
  | logout
  | me
  deriving DecidableEq

/-- What the group uses. -/
def protectedAuth (env : Env) : List Middleware := [useAuth env, csrfMiddleware]

/-- The handler of each route. Without a token in the context there is nothing to revoke. -/
def UserEndpoint.handle (env : Env) : UserEndpoint → Option AuthContext → Call UserReply
  | .logout, some ctx => (GoauthServer.logout env ctx).map fun _ => .loggedOut
  | .logout, none => .ret .loggedOut
  | .me, ctx => getCurrentUser env ctx

/-- Serve a request to the group. -/
def serveUser (env : Env) (endpoint : UserEndpoint) (r : HttpRequest) : Call UserReply :=
  (chain (protectedAuth env) r none).bind fun
  | .error e => .ret (.failed e)
  | .ok ctx => endpoint.handle env ctx

/-! ### The routes of administrators -/

/-- What the bindings make of the query and the body of a request. Each handler looks at its part. -/
structure AdminInput where
  page : PageQuery
  isActive : String
  isAdmin : String
  sessions : SessionQuery
  createClient : Except String CreateClientDTO
  updateClient : Except String UpdateClientDTO
  createProvider : Except String CreateProviderDTO
  updateProvider : Except String UpdateProviderDTO
  updateUserStatus : Except String Bool

/-- The call of the handler of a route. -/
def AdminEndpoint.request (env : Env) (input : AdminInput) (ctx : Option AuthContext) :
    AdminEndpoint → ApiRequest
  | .listClients => .listClients input.page input.isActive
  | .getClient clientID => .getClient clientID
  | .createClient => .createClient (ctx.map AuthContext.userID) input.createClient
  | .updateClient clientID => .updateClient clientID input.updateClient
  | .regenerateClientSecret clientID => .regenerateClientSecret clientID
  | .deleteClient clientID => .deleteClient clientID
  | .listProviders clientID => .listProviders clientID
  | .getProvider clientID id => .getProvider clientID id
  | .createProvider clientID => .createProvider clientID input.createProvider
  | .updateProvider clientID id => .updateProvider clientID id input.updateProvider
  | .deleteProvider clientID id => .deleteProvider clientID id
  | .listUsers => .listUsers input.page input.isActive input.isAdmin
  | .updateUserStatus id => .updateUserStatus id input.updateUserStatus
  | .unlockUser id => .unlockUser id (ctx.bind fun c => env.lib.uuidParse c.userID)
  | .revokeUserSessions id => .revokeUserSessions id (ctx.bind fun c => env.lib.uuidParse c.userID)
  | .listAuthorizationCodes => .listAuthorizationCodes input.sessions
  | .revokeAuthorizationCode id => .revokeAuthorizationCode id
  | .listAccessTokens => .listAccessTokens input.sessions
  | .revokeAccessToken id => .revokeAccessToken id

/-- Serve a request to the groups of administrators. -/
def serveApi (env : AdminEnv) (limits : AdminGroup → String → Bool) (input : AdminInput) (r : HttpRequest) :
    Call (AdminReply ApiReply) :=
  serveAdmin env.auth limits (fun endpoint _ ctx => (endpoint.request env.auth input ctx).call env) r

/-! ### All of them -/

/-- A request to the API. -/
inductive Inbound where
  | token (body : TokenBody)
  | login (email password sourceIP : String)
  | revoke (authorization : String) (form : Option (String × String))
  | user (endpoint : UserEndpoint) (r : HttpRequest)
  | admin (limits : AdminGroup → String → Bool) (input : AdminInput) (r : HttpRequest)

/-- The response. -/
inductive InboundReply where
  | token (r : TokenReply)
  | login (r : LoginReply)
  | status (code : ℕ)
  | user (r : UserReply)
  | admin (r : AdminReply ApiReply)
  deriving DecidableEq

/-- The call that serves a request. -/
def Inbound.call (env : AdminEnv) : Inbound → Call InboundReply
  | .token body => (tokenExchange env.auth body).map .token
  | .login email password sourceIP => (GoauthServer.login env.auth email password sourceIP).map .login
  | .revoke authorization form => (GoauthServer.revoke env.auth authorization form).map .status
  | .user endpoint r => (serveUser env.auth endpoint r).map .user
  | .admin limits input r => (serveApi env limits input r).map .admin

/-- The access tokens by which the sender of a request may be authenticated. -/
def Inbound.accessTokens : Inbound → List String
  | .token _ | .login _ _ _ => []
  | .revoke authorization _ => [extractBearerToken authorization]
  | .user _ r | .admin _ _ r => (requestToken r.headers).toOption.toList

end GoauthServer
