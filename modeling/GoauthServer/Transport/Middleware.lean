import GoauthServer.Transport.Handlers

/-!
# Middleware and routes of the admin API

`internal/middleware` and the admin groups of `router.go`. A middleware gets the request and what was stored in
the context, and lets the request through with a new context or answers it with an error; `chain` is how gin
goes through the list of a group. Header and cookie values are byte strings, as Go has them.

The limiter of a group is given by what `Allow` says for a key. The cookie that `CSRFMiddleware` sets, logging
and metrics are left out.
-/

namespace GoauthServer

open Interact Base64

/-- The parts of a request that routing and middleware look at. The path is the one below `/api/v1`, segment by
segment. -/
structure HttpRequest where
  method : String
  path : List String
  clientIP : String
  headers : RequestHeaders
  /-- `X-CSRF-Token`; empty if absent. -/
  csrfHeader : Bytes
  /-- The value of the cookie `csrf_token`, as it was sent. -/
  csrfCookie : Option Bytes

/-- A handler function of a group that is not the last one. -/
abbrev Middleware : Type :=
  HttpRequest → Option AuthContext → Call (Except ErrorReply (Option AuthContext))

/-- The middleware of a group, one after the other. The first error aborts. -/
def chain : List Middleware → Middleware
  | [], _, ctx => .ret (.ok ctx)
  | m :: ms, r, ctx =>
    (m r ctx).bind fun
    | .error e => .ret (.error e)
    | .ok ctx' => chain ms r ctx'

/-! ### Authentication, admins, limits -/

/-- `AuthMiddleware`, which fills the context. -/
def useAuth (env : Env) : Middleware := fun r _ => (authMiddleware env r.headers).map (Except.map some)

/-- `Service.IsAdmin` of the user service. -/
def isAdmin (userID : UUID) : Call (Except AuthError Bool) :=
  Call.sql (.getUserByID userID) fun
  | .error .noRows => .ret (.error .userNotFound)
  | .error e => .ret (.error (.ofDB "getting user for admin check" e))
  | .ok row => .ret (.ok (row.isAdmin.getD false))

/-- `AdminMiddleware`. -/
def adminMiddleware (env : Env) : Middleware := fun _ ctx =>
  match ctx with
  | none => .ret (.error ⟨401, "Unauthorized", none⟩)
  | some c =>
    match env.lib.uuidParse c.userID with
    | none => .ret (.error ⟨401, "Unauthorized", none⟩)
    | some userID =>
      (isAdmin userID).bind fun
      | .error _ => .ret (.error ⟨500, "Internal server error", none⟩)
      | .ok false => .ret (.error ⟨403, "Forbidden", none⟩)
      | .ok true => .ret (.ok ctx)

/-- The key of the limiter in `RateLimitByUser`. -/
def rateLimitKey (r : HttpRequest) : Option AuthContext → String
  | some c => "user:" ++ c.userID
  | none => "ip:" ++ r.clientIP

/-- `RateLimitByUser`, with what the limiter says for a key. -/
def rateLimitByUser (allow : String → Bool) : Middleware := fun r ctx =>
  if allow (rateLimitKey r ctx) then .ret (.ok ctx)
  else .ret (.error ⟨429, "too_many_requests", some (.text "rate limit exceeded, please slow down")⟩)

/-! ### Request forgery -/

/-- The value of a hexadecimal digit. -/
def unhex (b : UInt8) : Option UInt8 :=
  if 48 ≤ b ∧ b ≤ 57 then some (b - 48)
  else if 97 ≤ b ∧ b ≤ 102 then some (b - 97 + 10)
  else if 65 ≤ b ∧ b ≤ 70 then some (b - 65 + 10)
  else none

/-- `url.QueryUnescape`. -/
def queryUnescape : Bytes → Option Bytes
  | [] => some []
  -- a percent sign and two hexadecimal digits
  | 37 :: rest =>
    match rest with
    | a :: b :: rest' =>
      match unhex a, unhex b with
      | some x, some y => (queryUnescape rest').map ((x <<< 4 ||| y) :: ·)
      | _, _ => none
    | _ => none
  -- a plus sign is a blank
  | 43 :: rest => (queryUnescape rest).map (32 :: ·)
  | c :: rest => (queryUnescape rest).map (c :: ·)

/-- `c.Cookie(CSRFCookieName)`: empty if the cookie is absent or its value cannot be decoded. -/
def HttpRequest.csrfToken (r : HttpRequest) : Bytes :=
  match r.csrfCookie with
  | none => []
  | some value => (queryUnescape value).getD []

/-- A hexadecimal digit. -/
def hexDigit (n : UInt8) : UInt8 := if n < 10 then 48 + n else 87 + n

/-- `hex.EncodeToString`. -/
def hexEncode (bs : Bytes) : Bytes := bs.flatMap fun (b : UInt8) => [hexDigit (b >>> 4), hexDigit (b &&& 15)]

/-- `secureCompare`. -/
def secureCompare (a b : Bytes) : Bool :=
  if a.length ≠ b.length then false
  else (a.zip b).foldl (fun diff p => diff ||| (p.1 ^^^ p.2)) 0 == 0

/-- The methods of requests that are validated. -/
def stateChanging (method : String) : Bool :=
  method = "POST" || method = "PUT" || method = "PATCH" || method = "DELETE"

/-- The validation of `CSRFMiddleware`. -/
def validateCSRF (r : HttpRequest) (ctx : Option AuthContext) (cookieToken : Bytes) :
    Except ErrorReply (Option AuthContext) :=
  if stateChanging r.method && (r.csrfHeader = [] || !secureCompare r.csrfHeader cookieToken) then
    .error ⟨403, "forbidden", some (.text "invalid or missing CSRF token")⟩
  else .ok ctx

/-- `CSRFMiddleware`. -/
def csrfMiddleware : Middleware := fun r ctx =>
  if r.csrfToken = [] then
    Call.randBytes 32 fun
    | none => .ret (.error ⟨500, "internal_server_error", some (.text "failed to generate CSRF token")⟩)
    | some b => .ret (validateCSRF r ctx (hexEncode b))
  else .ret (validateCSRF r ctx r.csrfToken)

/-! ### Routes -/

/-- The route groups of administrators. -/
inductive AdminGroup where
  | clients
  | clientProviders
  | users
  | sessions
  deriving DecidableEq

/-- What a group uses: all four have the same list, each with a limiter of its own. -/
def AdminGroup.middleware (env : Env) (limits : AdminGroup → String → Bool) (g : AdminGroup) : List Middleware :=
  [useAuth env, adminMiddleware env, rateLimitByUser (limits g), csrfMiddleware]

/-- The routes of the groups, with their path parameters. -/
inductive AdminEndpoint where
  | listClients
  | getClient (clientID : String)
  | createClient
  | updateClient (clientID : String)
  | regenerateClientSecret (clientID : String)
  | deleteClient (clientID : String)
  | listProviders (clientID : String)
  | getProvider (clientID id : String)
  | createProvider (clientID : String)
  | updateProvider (clientID id : String)
  | deleteProvider (clientID id : String)
  | listUsers
  | updateUserStatus (id : String)
  | unlockUser (id : String)
  | revokeUserSessions (id : String)
  | listAuthorizationCodes
  | revokeAuthorizationCode (id : String)
  | listAccessTokens
  | revokeAccessToken (id : String)
  deriving DecidableEq

def AdminEndpoint.group : AdminEndpoint → AdminGroup
  | .listClients | .getClient _ | .createClient | .updateClient _ | .regenerateClientSecret _ | .deleteClient _ =>
    .clients
  | .listProviders _ | .getProvider _ _ | .createProvider _ | .updateProvider _ _ | .deleteProvider _ _ =>
    .clientProviders
  | .listUsers | .updateUserStatus _ | .unlockUser _ | .revokeUserSessions _ => .users
  | .listAuthorizationCodes | .revokeAuthorizationCode _ | .listAccessTokens | .revokeAccessToken _ => .sessions

/-- The table of `RegisterRoutes`, as far as the groups of administrators go. A path parameter is not empty. -/
def adminEndpoint (method : String) (path : List String) : Option AdminEndpoint :=
  if path.contains "" then none
  else
    match method, path with
    | "GET", ["clients"] => some .listClients
    | "GET", ["clients", clientID] => some (.getClient clientID)
    | "POST", ["clients"] => some .createClient
    | "PATCH", ["clients", clientID] => some (.updateClient clientID)
    | "POST", ["clients", clientID, "regenerate-secret"] => some (.regenerateClientSecret clientID)
    | "DELETE", ["clients", clientID] => some (.deleteClient clientID)
    | "GET", ["clients", clientID, "providers"] => some (.listProviders clientID)
    | "GET", ["clients", clientID, "providers", id] => some (.getProvider clientID id)
    | "POST", ["clients", clientID, "providers"] => some (.createProvider clientID)
    | "PATCH", ["clients", clientID, "providers", id] => some (.updateProvider clientID id)
    | "DELETE", ["clients", clientID, "providers", id] => some (.deleteProvider clientID id)
    | "GET", ["users"] => some .listUsers
    | "PATCH", ["users", id] => some (.updateUserStatus id)
    | "DELETE", ["users", id, "lockout"] => some (.unlockUser id)
    | "DELETE", ["users", id, "sessions"] => some (.revokeUserSessions id)
    | "GET", ["sessions", "codes"] => some .listAuthorizationCodes
    | "DELETE", ["sessions", "codes", id] => some (.revokeAuthorizationCode id)
    | "GET", ["sessions", "tokens"] => some .listAccessTokens
    | "DELETE", ["sessions", "tokens", id] => some (.revokeAccessToken id)
    | _, _ => none

/-- How a request to the groups ends. -/
inductive AdminReply (α : Type) where
  | noRoute
  | rejected (e : ErrorReply)
  | handled (a : α)
  deriving DecidableEq

/-- Serve a request to the groups of administrators, with the handler of each route. -/
def serveAdmin {α : Type} (env : Env) (limits : AdminGroup → String → Bool)
    (handlers : AdminEndpoint → HttpRequest → Option AuthContext → Call α) (r : HttpRequest) :
    Call (AdminReply α) :=
  match adminEndpoint r.method r.path with
  | none => .ret .noRoute
  | some endpoint =>
    (chain (endpoint.group.middleware env limits) r none).bind fun
    | .error e => .ret (.rejected e)
    | .ok ctx => (handlers endpoint r ctx).map .handled

end GoauthServer
