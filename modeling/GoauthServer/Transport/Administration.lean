import GoauthServer.Service.Bootstrap

/-!
# The operations of an administrator

What writes the `clients` table: the operations of the client service, and the bootstrap, which every start
of the server executes. As in `Transport/Operations.lean` an operation is a value.
-/

namespace GoauthServer

open Interact

/-- The operations that write clients. -/
inductive ClientOperation where
  | create (dto : CreateClientDTO) (adminUserID : UUID)
  | update (id : UUID) (dto : UpdateClientDTO)
  | regenerate (id : UUID)
  | delete (id : UUID)
  | bootstrap (cfg : BootstrapClientConfig)

/-- Their results. -/
inductive ClientReply where
  | created (r : Except AdminError ClientWithSecret)
  | updated (r : Except AdminError ClientModel)
  | regenerated (r : Except AdminError ClientWithSecret)
  | deleted (r : Except AdminError Unit)
  | bootstrapped (r : Except AuthError Unit)

def ClientOperation.call (env : AdminEnv) : ClientOperation → Call ClientReply
  | .create dto adminUserID => (createClient env dto adminUserID).map .created
  | .update id dto => (updateClient env id dto).map .updated
  | .regenerate id => (regenerateSecret env id).map .regenerated
  | .delete id => (deleteClient id).map .deleted
  | .bootstrap cfg => (bootstrapDefaultClient env cfg).map .bootstrapped

/-- Operations that are about to start, to be interleaved. -/
def clientOperations {ι : Type} (env : AdminEnv) (ops : ι → ClientOperation) (w : World) :
    Pool backend ι ClientReply :=
  Pool.start (fun i => (ops i).call env) w

end GoauthServer
