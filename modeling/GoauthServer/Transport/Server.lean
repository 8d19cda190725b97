import GoauthServer.Service.Provider
import GoauthServer.Transport.Administration
import GoauthServer.Transport.Operations
import GoauthServer.Transport.Web

/-!
# All operations of the server

The operations of `Transport/Operations.lean` and `Transport/Administration.lean`, those of the provider
service, and the two pages of the authorization code flow, as one type.
-/

namespace GoauthServer

open Interact

/-- The operations that write providers. -/
inductive ProviderOperation where
  | create (clientID : UUID) (dto : CreateProviderDTO)
  | update (id clientID : UUID) (dto : UpdateProviderDTO)
  | enable (id clientID : UUID)
  | disable (id clientID : UUID)
  | delete (id clientID : UUID)

/-- The call that serves an operation on a provider. Its result is of no interest here. -/
def ProviderOperation.call (env : AdminEnv) : ProviderOperation → Call Unit
  | .create clientID dto => (createProvider env clientID dto).map fun _ => ()
  | .update id clientID dto => (updateProvider env id clientID dto).map fun _ => ()
  | .enable id clientID => (enableProvider id clientID).map fun _ => ()
  | .disable id clientID => (disableProvider id clientID).map fun _ => ()
  | .delete id clientID => (deleteProvider id clientID).map fun _ => ()

/-- The call that serves an operation on a provider, with the provider it returns if it returns one. -/
def ProviderOperation.serve (env : AdminEnv) :
    ProviderOperation → Call (Except AdminError (Option ProviderModel))
  | .create clientID dto => (createProvider env clientID dto).map (Except.map some)
  | .update id clientID dto => (updateProvider env id clientID dto).map (Except.map some)
  | .enable id clientID => (enableProvider id clientID).map (Except.map fun _ => none)
  | .disable id clientID => (disableProvider id clientID).map (Except.map fun _ => none)
  | .delete id clientID => (deleteProvider id clientID).map (Except.map fun _ => none)

/-- An operation of the server. -/
inductive ServerOperation where
  | auth (op : Operation)
  | webLogin (r : WebLogin)
  | webCallback (r : WebCallback)
  | client (op : ClientOperation)
  | provider (op : ProviderOperation)

/-- How it ends. -/
inductive ServerReply where
  | auth (r : Outcome)
  | web (r : WebReply)
  | client (r : ClientReply)
  | provider

/-- The call that serves an operation. -/
def ServerOperation.call (env : WebEnv) (admin : AdminEnv) : ServerOperation → Call ServerReply
  | .auth op => (op.call env.auth).map .auth
  | .webLogin r => (GoauthServer.webLogin env r).map .web
  | .webCallback r => (GoauthServer.webCallback env r).map .web
  | .client op => (op.call admin).map .client
  | .provider op => (op.call admin).map fun _ => .provider

/-- Operations that are about to start, to be interleaved. -/
def serverOperations {ι : Type} (env : WebEnv) (admin : AdminEnv) (ops : ι → ServerOperation) (w : World) :
    Pool backend ι ServerReply :=
  Pool.start (fun i => (ops i).call env admin) w

end GoauthServer
