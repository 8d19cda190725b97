import GoauthServer.Lib.Cipher
import GoauthServer.Service.Client

/-!
# OAuth providers

`internal/service/provider`: the operations of an administrator on the `oauth_providers` table, and the
lists of providers. The client secret of a provider is encrypted at rest, with a nonce drawn for each
encryption. The look-up by client and name with the decrypted secret is in `Service/Authorization.lean`, with
the flow that uses it.
-/

namespace GoauthServer

open Interact Base64

/-- `validateURL`. -/
def validateURL (env : AdminEnv) (field rawURL : String) : Option AdminError :=
  if Text.trimSpace rawURL = "" then some (.validation field "required")
  else
    match env.parseRequestURI rawURL with
    | none => some (.validation field "must be a valid URL")
    | some parsed =>
      if parsed.host = "" then some (.validation field "must be a valid URL")
      else if parsed.scheme ≠ "http" && parsed.scheme ≠ "https" then
        some (.validation field "must use http or https scheme")
      else if env.refusesHTTP parsed then
        some (.validation field ("must use HTTPS in production: " ++ env.quote rawURL))
      else none

/-- A field that must not be blank. -/
def validateRequired (field value : String) : Option AdminError :=
  if Text.trimSpace value = "" then some (.validation field "required") else none

/-- The scopes must not be empty. -/
def validateScopes (scopes : List String) : Option AdminError :=
  if scopes.isEmpty then some (.validation "scopes" "at least one scope is required") else none

/-- `CreateProviderDTO`. -/
structure CreateProviderDTO where
  name : String
  displayName : String
  providerClientID : String
  providerClientSecret : String
  authURL : String
  tokenURL : String
  userInfoURL : String
  scopes : List String
  isEnabled : Bool
  deriving DecidableEq

/-- `UpdateProviderDTO`. -/
structure UpdateProviderDTO where
  displayName : String
  providerClientID : String
  providerClientSecret : String
  authURL : String
  tokenURL : String
  userInfoURL : String
  scopes : List String
  isEnabled : Bool
  deriving DecidableEq

/-- `validateCreateDTO` of the provider service: the first check that fails. -/
def validateCreateProvider (env : AdminEnv) (dto : CreateProviderDTO) : Option AdminError :=
  validateRequired "name" dto.name <|>
  validateRequired "display_name" dto.displayName <|>
  validateRequired "provider_client_id" dto.providerClientID <|>
  validateRequired "provider_client_secret" dto.providerClientSecret <|>
  validateURL env "auth_url" dto.authURL <|>
  validateURL env "token_url" dto.tokenURL <|>
  validateURL env "user_info_url" dto.userInfoURL <|>
  validateScopes dto.scopes

/-- `validateUpdateDTO` of the provider service. An empty secret stands for the one that is stored. -/
def validateUpdateProvider (env : AdminEnv) (dto : UpdateProviderDTO) : Option AdminError :=
  validateRequired "display_name" dto.displayName <|>
  validateRequired "provider_client_id" dto.providerClientID <|>
  validateURL env "auth_url" dto.authURL <|>
  validateURL env "token_url" dto.tokenURL <|>
  validateURL env "user_info_url" dto.userInfoURL <|>
  validateScopes dto.scopes

-- as in `Service/Client.lean`
attribute [irreducible] validateCreateProvider validateUpdateProvider

/-! ### The service -/

/-- `provider.OAuthProvider`: the row without its credentials. -/
structure ProviderModel where
  id : UUID
  clientID : UUID
  name : String
  displayName : String
  authURL : String
  tokenURL : String
  userInfoURL : String
  scopes : List String
  isEnabled : Bool
  createdAt : Time
  updatedAt : Time
  deriving DecidableEq

/-- `toOAuthProvider`. -/
def toOAuthProvider (r : OauthProvider) : ProviderModel :=
  { id := r.id, clientID := r.clientID, name := r.name, displayName := r.displayName
    authURL := r.authUrl, tokenURL := r.tokenUrl, userInfoURL := r.userInfoUrl, scopes := r.scopes
    isEnabled := r.isEnabled = some true, createdAt := r.createdAt, updatedAt := r.updatedAt }

/-- `Service.ListProvidersByClient`. -/
def listProvidersByClient (clientID : UUID) : Call (Except AdminError (List ProviderModel)) :=
  Call.sql (.listOAuthProvidersByClient clientID) fun
  | .error e => .ret (.error (.ofDB "listing providers" e))
  | .ok rows => .ret (.ok (rows.map toOAuthProvider))

/-- `Service.ListEnabledProvidersByClient`. -/
def listEnabledProvidersByClient (clientID : UUID) : Call (Except AdminError (List ProviderModel)) :=
  Call.sql (.listEnabledOAuthProvidersByClient clientID) fun
  | .error e => .ret (.error (.ofDB "listing enabled providers" e))
  | .ok rows => .ret (.ok (rows.map toOAuthProvider))

/-- `Service.GetProvider`. -/
def getProvider (id : UUID) : Call (Except AdminError ProviderModel) :=
  Call.sql (.getOAuthProvider id) fun
  | .error .noRows => .ret (.error .providerNotFound)
  | .error e => .ret (.error (.ofDB "getting provider" e))
  | .ok row => .ret (.ok (toOAuthProvider row))

/-- `encrypt`. The cipher is built from a key of the right length, so that only the nonce can fail. -/
def encrypt (env : AdminEnv) (plaintext : String) : Call (Except AdminError String) :=
  Call.randBytes 12 fun
  | none => .ret (.error (.wrap "generating nonce" .rand))
  | some nonce => .ret (.ok (env.encryptSecret plaintext nonce))

/-- The service under a key for AES-256-GCM (`encryption.go`). -/
def AdminEnv.withKey (env : AdminEnv) (g : Cipher.Gcm) (key : Bytes) : AdminEnv :=
  { env with
    encryptSecret := Cipher.encrypt g key
    auth :=
      { env.auth with
        lib := { env.auth.lib with decryptSecret := fun s => (Cipher.decrypt g key s).toOption } } }

/-- `Service.GetProviderWithSecret`. -/
def getProviderWithSecret (env : Env) (id : UUID) : Call (Except AuthError OAuthProviderWithSecret) :=
  Call.sql (.getOAuthProvider id) fun
  | .error .noRows => .ret (.error .providerNotFound)
  | .error e => .ret (.error (.ofDB "getting provider" e))
  | .ok row =>
    match env.lib.decryptSecret row.providerClientSecret with
    | none => .ret (.error (.wrap "decrypting provider secret" (.text "decrypt")))
    | some secret =>
      .ret (.ok
        { id := row.id, clientID := row.clientID, name := row.name, authURL := row.authUrl
          tokenURL := row.tokenUrl, userInfoURL := row.userInfoUrl, scopes := row.scopes
          isEnabled := row.isEnabled = some true, providerClientID := row.providerClientID
          providerClientSecret := secret })

/-- `Service.CreateProvider`. -/
def createProvider (env : AdminEnv) (clientID : UUID) (dto : CreateProviderDTO) :
    Call (Except AdminError ProviderModel) :=
  match validateCreateProvider env dto with
  | some e => .ret (.error e)
  | none =>
    (encrypt env dto.providerClientSecret).bind fun
    | .error e => .ret (.error (.wrap "encrypting provider secret" e))
    | .ok encryptedSecret =>
      Call.sql (.createOAuthProvider
        { clientID := clientID, name := dto.name, displayName := dto.displayName
          providerClientID := dto.providerClientID, providerClientSecret := encryptedSecret
          authUrl := dto.authURL, tokenUrl := dto.tokenURL, userInfoUrl := dto.userInfoURL
          scopes := dto.scopes, isEnabled := some dto.isEnabled }) fun
      | .error .uniqueViolation => .ret (.error .duplicateProviderName)
      | .error e => .ret (.error (.ofDB "creating provider" e))
      | .ok row => .ret (.ok (toOAuthProvider row))

/-- The row of the provider `id`, which must belong to the client. -/
def getOwnProvider (id clientID : UUID) : Call (Except AdminError OauthProvider) :=
  Call.sql (.getOAuthProvider id) fun
  | .error .noRows => .ret (.error .providerNotFound)
  | .error e => .ret (.error (.ofDB "getting provider" e))
  | .ok existing =>
    if existing.clientID ≠ clientID then .ret (.error .providerClientMismatch)
    else .ret (.ok existing)

/-- The encrypted secret after an update: a new one, or the one that is stored. -/
def updatedSecret (env : AdminEnv) (existing : OauthProvider) (secret : String) :
    Call (Except AdminError String) :=
  if secret ≠ "" then
    (encrypt env secret).map fun
    | .error e => .error (.wrap "encrypting updated provider secret" e)
    | .ok encryptedSecret => .ok encryptedSecret
  else .ret (.ok existing.providerClientSecret)

/-- `Service.UpdateProvider`. -/
def updateProvider (env : AdminEnv) (id clientID : UUID) (dto : UpdateProviderDTO) :
    Call (Except AdminError ProviderModel) :=
  match validateUpdateProvider env dto with
  | some e => .ret (.error e)
  | none =>
    (getOwnProvider id clientID).bind fun
    | .error e => .ret (.error e)
    | .ok existing =>
      (updatedSecret env existing dto.providerClientSecret).bind fun
      | .error e => .ret (.error e)
      | .ok encryptedSecret =>
        Call.sql (.updateOAuthProvider
          { id := id, displayName := dto.displayName, providerClientID := dto.providerClientID
            providerClientSecret := encryptedSecret, authUrl := dto.authURL
            tokenUrl := dto.tokenURL, userInfoUrl := dto.userInfoURL, scopes := dto.scopes
            isEnabled := some dto.isEnabled }) fun
        | .error e => .ret (.error (.ofDB "updating provider" e))
        | .ok row => .ret (.ok (toOAuthProvider row))

/-- `Service.EnableProvider`: the other columns are written back as they were read. -/
def enableProvider (id clientID : UUID) : Call (Except AdminError Unit) :=
  (getOwnProvider id clientID).bind fun
  | .error e => .ret (.error e)
  | .ok existing =>
    Call.sql (.updateOAuthProvider
      { id := id, displayName := existing.displayName
        providerClientID := existing.providerClientID
        providerClientSecret := existing.providerClientSecret, authUrl := existing.authUrl
        tokenUrl := existing.tokenUrl, userInfoUrl := existing.userInfoUrl
        scopes := existing.scopes, isEnabled := some true }) fun
    | .error e => .ret (.error (.db e))
    | .ok _ => .ret (.ok ())

/-- `Service.validateOwnership`. -/
def validateOwnership (id clientID : UUID) : Call (Except AdminError Unit) :=
  (getOwnProvider id clientID).map fun
  | .error e => .error e
  | .ok _ => .ok ()

/-- A statement on a provider that must belong to the client. -/
def onOwnProvider (id clientID : UUID) (q : Query) : Call (Except AdminError Unit) :=
  (validateOwnership id clientID).bind fun
  | .error e => .ret (.error e)
  | .ok _ =>
    Call.sql q fun
    | .error e => .ret (.error (.db e))
    | .ok _ => .ret (.ok ())

/-- `Service.DisableProvider`. -/
def disableProvider (id clientID : UUID) : Call (Except AdminError Unit) :=
  onOwnProvider id clientID (.disableOAuthProvider id)

/-- `Service.DeleteProvider`. -/
def deleteProvider (id clientID : UUID) : Call (Except AdminError Unit) :=
  onOwnProvider id clientID (.deleteOAuthProvider id)

end GoauthServer
