import GoauthServer.Lib.Strconv
import GoauthServer.Transport.Providers

/-!
# Handlers for clients

`client_handler.go`, and `parsePaginationParams` of `handler.go`. As in `Transport/Providers.lean`, a handler
starts from the parameters of the path and the query, and from the body as it was bound, or the text of the
error if it was not.
-/

namespace GoauthServer

open Interact

/-! ### Queries -/

/-- The parameters `limit` and `offset` of a query, where they are given. -/
structure PageQuery where
  limit : Option String
  offset : Option String
  deriving DecidableEq

def paginationMaxLimit : ℤ := 100

/-- `parsePaginationParams`. The offset is converted to 32 bits without a check. -/
def parsePaginationParams (q : PageQuery) : Except ErrorReply (Int32 × Int32) :=
  let badLimit : Except ErrorReply (Int32 × Int32) :=
    .error ⟨400, "limit must be an integer between 1 and 100", none⟩
  let badOffset : Except ErrorReply (Int32 × Int32) :=
    .error ⟨400, "offset must be a non-negative integer", none⟩
  match Strconv.atoi (q.limit.getD "20") with
  | none => badLimit
  | some l =>
    if l < 1 ∨ l > paginationMaxLimit then badLimit
    else
      match Strconv.atoi (q.offset.getD "0") with
      | none => badOffset
      | some o => if o < 0 then badOffset else .ok (Int32.ofInt l, Int32.ofInt o)

/-- A number of 31 bits survives the conversion. -/
theorem toInt_ofInt_of_lt {n : ℤ} (h : 0 ≤ n) (hlt : n < 2 ^ 31) : (Int32.ofInt n).toInt = n :=
  Int32.toInt_ofInt_of_le (by omega) (by omega)

/-- `parseOptionalBool`, with its error response: an empty parameter counts as absent. -/
def parseOptionalBool (key value : String) : Except ErrorReply (Option Bool) :=
  if value = "" then .ok none
  else
    match Strconv.parseBool value with
    | none => .error ⟨400, key ++ " must be true or false", none⟩
    | some b => .ok (some b)

/-! ### Responses -/

/-- `ClientResponse`: the client without the hash of its secret. -/
structure ClientResponse where
  id : String
  name : String
  description : Option String
  redirectURIs : List String
  grantTypes : List String
  isActive : Bool
  createdBy : String
  createdAt : Time
  updatedAt : Time
  deriving DecidableEq

/-- `ClientWithSecretResponse`. -/
structure ClientWithSecretResponse extends ClientResponse where
  clientSecret : String
  deriving DecidableEq

/-- The responses of these handlers. -/
inductive ClientsReply where
  | client (c : ClientResponse)
  | withSecret (status : ℕ) (c : ClientWithSecretResponse)
  | clients (cs : List ClientResponse) (total : ℕ)
  | noContent
  | failed (e : ErrorReply)
  deriving DecidableEq

/-- `toClientResponse`. -/
def toClientResponse (env : Env) (c : ClientModel) : ClientResponse where
  id := env.lib.uuidString c.id
  name := c.name
  description := c.description
  redirectURIs := c.redirectURIs
  grantTypes := c.grantTypes
  isActive := c.isActive
  createdBy := env.lib.uuidString c.createdBy
  createdAt := c.createdAt
  updatedAt := c.updatedAt

def toClientWithSecretResponse (env : Env) (c : ClientWithSecret) : ClientWithSecretResponse :=
  { toClientResponse env c.toClientModel with clientSecret := c.plainSecret }

/-- `parseClientResourceID`. -/
def parseClientResourceID (env : Env) (param : String) : Except ErrorReply UUID :=
  match env.lib.uuidParse param with
  | none => .error ⟨400, "invalid client id", none⟩
  | some id => .ok id

/-- `handleClientError`. -/
def handleClientError (e : AdminError) : ErrorReply :=
  match e.root with
  | .validation field message => ⟨422, field ++ ": " ++ message, none⟩
  | .clientNotFound => ⟨404, "client not found", none⟩
  | .duplicateClientName => ⟨409, "a client with this name already exists", none⟩
  | _ => internalServerError

/-! ### Handlers -/

/-- `ListClients`. -/
def listClientsHandler (env : AdminEnv) (q : PageQuery) (isActive : String) : Call ClientsReply :=
  match parsePaginationParams q with
  | .error e => .ret (.failed e)
  | .ok (limit, offset) =>
    match parseOptionalBool "is_active" isActive with
    | .error e => .ret (.failed e)
    | .ok isActive =>
      (listClients { isActive := isActive, limit := limit, offset := offset }).map fun
      | .error _ => .failed internalServerError
      | .ok result => .clients (result.clients.map (toClientResponse env.auth)) result.total

/-- `GetClient`. -/
def getClientHandler (env : AdminEnv) (clientParam : String) : Call ClientsReply :=
  match parseClientResourceID env.auth clientParam with
  | .error e => .ret (.failed e)
  | .ok id =>
    (getClient id).map fun
    | .error e => .failed (handleClientError e)
    | .ok c => .client (toClientResponse env.auth c)

/-- `CreateClient`, for the user that the context names. -/
def createClientHandler (env : AdminEnv) (userID : Option String) (body : Except String CreateClientDTO) :
    Call ClientsReply :=
  match userID with
  | none => .ret (.failed ⟨401, "unauthorized", none⟩)
  | some adminUserID =>
    match env.auth.lib.uuidParse adminUserID with
    | none => .ret (.failed internalServerError)
    | some adminUUID =>
      match body with
      | .error text => .ret (.failed ⟨400, text, none⟩)
      | .ok req =>
        (createClient env req adminUUID).map fun
        | .error e => .failed (handleClientError e)
        | .ok c => .withSecret 201 (toClientWithSecretResponse env.auth c)

/-- `UpdateClient`. -/
def updateClientHandler (env : AdminEnv) (clientParam : String) (body : Except String UpdateClientDTO) :
    Call ClientsReply :=
  match parseClientResourceID env.auth clientParam with
  | .error e => .ret (.failed e)
  | .ok id =>
    match body with
    | .error text => .ret (.failed ⟨400, text, none⟩)
    | .ok req =>
      (updateClient env id req).map fun
      | .error e => .failed (handleClientError e)
      | .ok c => .client (toClientResponse env.auth c)

/-- `RegenerateClientSecret`. -/
def regenerateClientSecretHandler (env : AdminEnv) (clientParam : String) : Call ClientsReply :=
  match parseClientResourceID env.auth clientParam with
  | .error e => .ret (.failed e)
  | .ok id =>
    (regenerateSecret env id).map fun
    | .error e => .failed (handleClientError e)
    | .ok c => .withSecret 200 (toClientWithSecretResponse env.auth c)

/-- `DeleteClient`. -/
def deleteClientHandler (env : AdminEnv) (clientParam : String) : Call ClientsReply :=
  match parseClientResourceID env.auth clientParam with
  | .error e => .ret (.failed e)
  | .ok id =>
    (deleteClient id).map fun
    | .error e => .failed (handleClientError e)
    | .ok _ => .noContent

end GoauthServer
