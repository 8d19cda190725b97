import GoauthServer.Lib.Text
import GoauthServer.Service.Env

/-!
# Client applications

`internal/service/client`: the operations of an administrator on the `clients` table. A secret is
generated here, returned once, and stored as its SHA-256 hash. Deletion clears `is_active`; no row is
ever removed.

`UpdateClient` passes a parameter record whose fields `IsConfidential` and `AllowRefreshTokens` are not
set, so that each update clears both columns.
-/

namespace GoauthServer

open Interact Base64

/-- `url.URL`, the parts that the validation of addresses reads. -/
structure ParsedURL where
  scheme : String
  host : String
  /-- `URL.Hostname()`. -/
  hostname : String
  deriving DecidableEq

/-- What the client and the provider service are given. -/
structure AdminEnv where
  auth : Env
  /-- `config.Server.Env`. -/
  env : String
  /-- `url.ParseRequestURI`. -/
  parseRequestURI : String → Option ParsedURL
  /-- A string under the verb `%q`. -/
  quote : String → String
  /-- `encrypt` of the provider service under its key, given the plaintext and the nonce. -/
  encryptSecret : String → Bytes → String

/-- The errors of the client and the provider service. -/
inductive AdminError where
  /-- `ValidationError`. -/
  | validation (field message : String)
  | clientNotFound
  | duplicateClientName
  | providerNotFound
  | providerClientMismatch
  | duplicateProviderName
  /-- An error of the repository. -/
  | db (e : DBError)
  /-- An error of `crypto/rand`. -/
  | rand
  | wrap (context : String) (e : AdminError)
  deriving DecidableEq

/-- `fmt.Errorf("context: %w", err)` for an error of the repository. -/
def AdminError.ofDB (context : String) (e : DBError) : AdminError := .wrap context (.db e)

/-! ### Validation -/

/-- The hosts that may be reached over plain HTTP in production. -/
def isLoopback (host : String) : Bool :=
  host = "localhost" || host = "127.0.0.1" || host = "::1"

/-- In production, plain HTTP is for loopback addresses. -/
def AdminEnv.refusesHTTP (env : AdminEnv) (parsed : ParsedURL) : Bool :=
  env.env = "production" && parsed.scheme = "http" && !isLoopback parsed.hostname

/-- What is wrong with a redirect URI, if anything. -/
def AdminEnv.redirectURIProblem (env : AdminEnv) (rawURI : String) : Option String :=
  if Text.trimSpace rawURI = "" then some "redirect URI must not be empty"
  else
    match env.parseRequestURI rawURI with
    | none => some ("invalid redirect URI: " ++ env.quote rawURI)
    | some parsed =>
      if parsed.host = "" then some ("invalid redirect URI: " ++ env.quote rawURI)
      else if parsed.scheme ≠ "http" && parsed.scheme ≠ "https" then
        some ("redirect URI must use http or https scheme: " ++ env.quote rawURI)
      else if env.refusesHTTP parsed then
        some ("redirect URI must use HTTPS in production: " ++ env.quote rawURI)
      else none

/-- `validateRedirectURI`. -/
def validateRedirectURI (env : AdminEnv) (field rawURI : String) : Option AdminError :=
  (env.redirectURIProblem rawURI).map (.validation field)

def allowedGrantTypes : List String := ["authorization_code", "refresh_token"]

/-- The checks of `validateCreateDTO` and `validateUpdateDTO`, on the fields that both have. -/
def validateClientFields (env : AdminEnv) (name : String) (redirectURIs grantTypes : List String) :
    Option AdminError :=
  if Text.trimSpace name = "" then some (.validation "name" "required")
  else if redirectURIs.isEmpty then
    some (.validation "redirect_uris" "at least one redirect URI is required")
  else
    match redirectURIs.findSome? (validateRedirectURI env "redirect_uris") with
    | some e => some e
    | none =>
      if grantTypes.isEmpty then
        some (.validation "grant_types" "at least one grant type is required")
      else
        (grantTypes.find? fun gt => !allowedGrantTypes.contains gt).map fun gt =>
          .validation "grant_types" ("unsupported grant type: " ++ env.quote gt)

/-- `CreateClientDTO`. -/
structure CreateClientDTO where
  name : String
  description : Option String
  redirectURIs : List String
  grantTypes : List String
  isActive : Bool
  deriving DecidableEq

/-- `UpdateClientDTO`. -/
structure UpdateClientDTO where
  name : String
  description : Option String
  redirectURIs : List String
  grantTypes : List String
  deriving DecidableEq

/-- `validateCreateDTO`. -/
def validateCreateDTO (env : AdminEnv) (dto : CreateClientDTO) : Option AdminError :=
  validateClientFields env dto.name dto.redirectURIs dto.grantTypes

/-- `validateUpdateDTO`. -/
def validateUpdateDTO (env : AdminEnv) (dto : UpdateClientDTO) : Option AdminError :=
  validateClientFields env dto.name dto.redirectURIs dto.grantTypes

-- the elaborator is not to evaluate the checks whenever it meets a call that begins with them
attribute [irreducible] validateClientFields

/-! ### The service -/

/-- `client.Client`: the row without the hash of the secret. -/
structure ClientModel where
  id : UUID
  name : String
  description : Option String
  redirectURIs : List String
  grantTypes : List String
  isActive : Bool
  createdBy : UUID
  createdAt : Time
  updatedAt : Time
  deriving DecidableEq

/-- `client.ClientWithSecret`. -/
structure ClientWithSecret extends ClientModel where
  plainSecret : String
  deriving DecidableEq

/-- `toClient`. -/
def toClient (r : Client) : ClientModel :=
  { id := r.id, name := r.name, description := r.description, redirectURIs := r.redirectUris
    grantTypes := r.grantTypes, isActive := r.isActive = some true, createdBy := r.createdBy
    createdAt := r.createdAt, updatedAt := r.updatedAt }

/-- `ListClientsParams`. -/
structure ListClientsParams where
  isActive : Option Bool
  limit : Int32
  offset : Int32
  deriving DecidableEq

/-- `ListClientsResult`. -/
structure ListClientsResult where
  clients : List ClientModel
  total : ℕ
  deriving DecidableEq

/-- `Service.ListClients`. -/
def listClients (params : ListClientsParams) : Call (Except AdminError ListClientsResult) :=
  let isActive := params.isActive.getD true
  let limit := if params.limit ≤ 0 then 20 else params.limit
  Call.sql (.listClients isActive limit.toInt params.offset.toInt) fun
  | .error e => .ret (.error (.ofDB "listing clients" e))
  | .ok clients =>
    Call.sql (.countClients isActive) fun
    | .error e => .ret (.error (.ofDB "counting clients" e))
    | .ok total => .ret (.ok { clients := clients.map toClient, total := total })

/-- `Service.GetClient`. -/
def getClient (id : UUID) : Call (Except AdminError ClientModel) :=
  Call.sql (.getClient id) fun
  | .error .noRows => .ret (.error .clientNotFound)
  | .error e => .ret (.error (.ofDB "getting client" e))
  | .ok row => .ret (.ok (toClient row))

/-- `Service.CreateClient`. -/
def createClient (env : AdminEnv) (dto : CreateClientDTO) (adminUserID : UUID) :
    Call (Except AdminError ClientWithSecret) :=
  match validateCreateDTO env dto with
  | some e => .ret (.error e)
  | none =>
    Call.randBytes 32 fun
    | none => .ret (.error (.wrap "generating client secret" (.wrap "reading random bytes" .rand)))
    | some bytes =>
      let plainSecret := secureToken bytes
      Call.sql (.createClient
        { name := dto.name, description := dto.description
          clientSecretHash := env.auth.lib.sha256Hex plainSecret, redirectUris := dto.redirectURIs
          grantTypes := dto.grantTypes, isActive := some dto.isActive, createdBy := adminUserID
          -- not set by the source
          isConfidential := false, allowRefreshTokens := false }) fun
      | .error .uniqueViolation => .ret (.error .duplicateClientName)
      | .error e => .ret (.error (.ofDB "creating client" e))
      | .ok row => .ret (.ok { toClient row with plainSecret := plainSecret })

/-- `Service.UpdateClient`. -/
def updateClient (env : AdminEnv) (id : UUID) (dto : UpdateClientDTO) :
    Call (Except AdminError ClientModel) :=
  match validateUpdateDTO env dto with
  | some e => .ret (.error e)
  | none =>
    Call.sql (.updateClient
      { id := id, name := dto.name, description := dto.description
        redirectUris := dto.redirectURIs, grantTypes := dto.grantTypes
        -- not set by the source
        isConfidential := false, allowRefreshTokens := false }) fun
    | .error .noRows => .ret (.error .clientNotFound)
    | .error .uniqueViolation => .ret (.error .duplicateClientName)
    | .error e => .ret (.error (.ofDB "updating client" e))
    | .ok row => .ret (.ok (toClient row))

/-- `Service.RegenerateSecret`. -/
def regenerateSecret (env : AdminEnv) (id : UUID) : Call (Except AdminError ClientWithSecret) :=
  Call.sql (.getClient id) fun
  | .error .noRows => .ret (.error .clientNotFound)
  | .error e => .ret (.error (.ofDB "getting client" e))
  | .ok existing =>
    Call.randBytes 32 fun
    | none => .ret (.error (.wrap "generating client secret" (.wrap "reading random bytes" .rand)))
    | some bytes =>
      let plainSecret := secureToken bytes
      Call.sql (.regenerateClientSecret existing.id (env.auth.lib.sha256Hex plainSecret)) fun
      | .error e => .ret (.error (.ofDB "updating client secret" e))
      | .ok updated =>
        env.auth.logEvent { eventType := .clientSecretRegenerated, clientID := some updated.id } <|
        .ret (.ok { toClient updated with plainSecret := plainSecret })

/-- `Service.DeleteClient`. -/
def deleteClient (id : UUID) : Call (Except AdminError Unit) :=
  Call.sql (.getClient id) fun
  | .error .noRows => .ret (.error .clientNotFound)
  | .error e => .ret (.error (.ofDB "getting client" e))
  | .ok _ =>
    Call.sql (.deleteClient id) fun
    | .error e => .ret (.error (.ofDB "deleting client" e))
    | .ok _ => .ret (.ok ())

end GoauthServer
