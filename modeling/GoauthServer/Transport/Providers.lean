import GoauthServer.Transport.Handlers
import GoauthServer.Transport.Server

/-!
# Handlers for providers

`provider_handler.go`, and the public list of `auth_handler.go`. A handler starts from the path parameters and
from the body as it was bound, or the text of the error if it was not; the JSON and the logging are left out.
`EnableProvider` and `DisableProvider` have no route.
-/

namespace GoauthServer

open Interact

/-- `ProviderResponse`: the provider without its credentials. -/
structure ProviderResponse where
  id : String
  clientID : String
  name : String
  displayName : String
  authURL : String
  tokenURL : String
  userInfoURL : String
  scopes : List String
  isEnabled : Bool
  createdAt : Time
  updatedAt : Time
  deriving DecidableEq

/-- `PublicProviderResponse`. -/
structure PublicProviderResponse where
  name : String
  displayName : String
  deriving DecidableEq

/-- The responses of these handlers. -/
inductive ProviderReply where
  | provider (status : ℕ) (p : ProviderResponse)
  | providers (ps : List ProviderResponse)
  | publicProviders (ps : List PublicProviderResponse)
  | noContent
  | failed (e : ErrorReply)
  deriving DecidableEq

/-- `parseClientID`. -/
def parseClientID (env : Env) (param : String) : Except ErrorReply UUID :=
  match env.lib.uuidParse param with
  | none => .error ⟨400, "invalid client_id", none⟩
  | some clientID => .ok clientID

/-- `parseProviderID`. -/
def parseProviderID (env : Env) (param : String) : Except ErrorReply UUID :=
  match env.lib.uuidParse param with
  | none => .error ⟨400, "invalid provider id", none⟩
  | some providerID => .ok providerID

/-- `toProviderResponse`. -/
def toProviderResponse (env : Env) (p : ProviderModel) : ProviderResponse where
  id := env.lib.uuidString p.id
  clientID := env.lib.uuidString p.clientID
  name := p.name
  displayName := p.displayName
  authURL := p.authURL
  tokenURL := p.tokenURL
  userInfoURL := p.userInfoURL
  scopes := p.scopes
  isEnabled := p.isEnabled
  createdAt := p.createdAt
  updatedAt := p.updatedAt

/-- The error that is wrapped. -/
def AdminError.root : AdminError → AdminError
  | .wrap _ e => e.root
  | e => e

/-- The response to an error that no handler expects. -/
def internalServerError : ErrorReply := ⟨500, "internal server error", none⟩

/-- `handleProviderError`. -/
def handleProviderError (e : AdminError) : ErrorReply :=
  match e.root with
  | .validation field message => ⟨422, field ++ ": " ++ message, none⟩
  | .providerNotFound => ⟨404, "provider not found", none⟩
  -- as if it did not exist, so that nothing is revealed about other clients
  | .providerClientMismatch => ⟨404, "provider not found", none⟩
  | .duplicateProviderName => ⟨409, "a provider with this name already exists for this client", none⟩
  | _ => internalServerError

/-- `ListProviders`. -/
def listProvidersHandler (env : AdminEnv) (clientParam : String) : Call ProviderReply :=
  match parseClientID env.auth clientParam with
  | .error e => .ret (.failed e)
  | .ok clientID =>
    (listProvidersByClient clientID).map fun
    | .error _ => .failed internalServerError
    | .ok ps => .providers (ps.map (toProviderResponse env.auth))

/-- `GetProvider`. -/
def getProviderHandler (env : AdminEnv) (clientParam idParam : String) : Call ProviderReply :=
  match parseClientID env.auth clientParam with
  | .error e => .ret (.failed e)
  | .ok clientID =>
    match parseProviderID env.auth idParam with
    | .error e => .ret (.failed e)
    | .ok providerID =>
      (getProvider providerID).map fun
      | .error e => .failed (handleProviderError e)
      | .ok p =>
        if p.clientID ≠ clientID then .failed ⟨404, "provider not found", none⟩
        else .provider 200 (toProviderResponse env.auth p)

/-- `CreateProvider`. -/
def createProviderHandler (env : AdminEnv) (clientParam : String) (body : Except String CreateProviderDTO) :
    Call ProviderReply :=
  match parseClientID env.auth clientParam with
  | .error e => .ret (.failed e)
  | .ok clientID =>
    match body with
    | .error text => .ret (.failed ⟨400, text, none⟩)
    | .ok req =>
      (createProvider env clientID req).map fun
      | .error e => .failed (handleProviderError e)
      | .ok p => .provider 201 (toProviderResponse env.auth p)

/-- `UpdateProvider`. -/
def updateProviderHandler (env : AdminEnv) (clientParam idParam : String)
    (body : Except String UpdateProviderDTO) : Call ProviderReply :=
  match parseClientID env.auth clientParam with
  | .error e => .ret (.failed e)
  | .ok clientID =>
    match parseProviderID env.auth idParam with
    | .error e => .ret (.failed e)
    | .ok providerID =>
      match body with
      | .error text => .ret (.failed ⟨400, text, none⟩)
      | .ok req =>
        (updateProvider env providerID clientID req).map fun
        | .error e => .failed (handleProviderError e)
        | .ok p => .provider 200 (toProviderResponse env.auth p)

/-- `DeleteProvider`. -/
def deleteProviderHandler (env : AdminEnv) (clientParam idParam : String) : Call ProviderReply :=
  match parseClientID env.auth clientParam with
  | .error e => .ret (.failed e)
  | .ok clientID =>
    match parseProviderID env.auth idParam with
    | .error e => .ret (.failed e)
    | .ok providerID =>
      (deleteProvider providerID clientID).map fun
      | .error e => .failed (handleProviderError e)
      | .ok _ => .noContent

/-- `ListEnabledProviders`, which is public. -/
def listEnabledProvidersHandler (env : AdminEnv) (clientParam : String) : Call ProviderReply :=
  match parseClientID env.auth clientParam with
  | .error e => .ret (.failed e)
  | .ok clientID =>
    (listEnabledProvidersByClient clientID).map fun
    | .error _ => .failed internalServerError
    | .ok ps => .publicProviders (ps.map fun p => ⟨p.name, p.displayName⟩)

/-! ### Requests about one provider -/

/-- A request about a provider that exists: to a handler, or to one of the two operations without a route. -/
inductive ProviderRequest where
  | get (clientParam idParam : String)
  | update (clientParam idParam : String) (body : Except String UpdateProviderDTO)
  | delete (clientParam idParam : String)
  | enable (id clientID : UUID)
  | disable (id clientID : UUID)

/-- How it ends. -/
inductive ProviderOutcome where
  | response (r : ProviderReply)
  | service (r : Except AdminError Unit)
  deriving DecidableEq

/-- The client and the provider it is addressed to, if they parse. -/
def ProviderRequest.target (env : AdminEnv) : ProviderRequest → Option (UUID × UUID)
  | .get clientParam idParam | .update clientParam idParam _ | .delete clientParam idParam =>
    match env.auth.lib.uuidParse clientParam, env.auth.lib.uuidParse idParam with
    | some clientID, some id => some (clientID, id)
    | _, _ => none
  | .enable id clientID | .disable id clientID => some (clientID, id)

/-- The call that serves the request. -/
def ProviderRequest.call (env : AdminEnv) : ProviderRequest → Call ProviderOutcome
  | .get clientParam idParam => (getProviderHandler env clientParam idParam).map .response
  | .update clientParam idParam body => (updateProviderHandler env clientParam idParam body).map .response
  | .delete clientParam idParam => (deleteProviderHandler env clientParam idParam).map .response
  | .enable id clientID => (enableProvider id clientID).map .service
  | .disable id clientID => (disableProvider id clientID).map .service

/-- Requests that are about to start, to be interleaved. -/
def providerRequests {ι : Type} (env : AdminEnv) (reqs : ι → ProviderRequest) (w : World) :
    Pool backend ι ProviderOutcome :=
  Pool.start (fun i => (reqs i).call env) w

end GoauthServer
