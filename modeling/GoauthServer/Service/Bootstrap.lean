import GoauthServer.Service.Client
import GoauthServer.Service.Password

/-!
# The first administrator and the first client

`bootstrap.go`, which runs at the start of the server, before it takes requests. `BootstrapDefaultAdmin`
is the only code that sets `force_password_change`. `BootstrapDefaultClient` asks how many *active*
clients there are, and inserts one if there are none.
-/

namespace GoauthServer

open Interact

/-- `config.BootstrapConfig`, the fields about the administrator. -/
structure BootstrapConfig where
  allowDefaultAdmin : Bool
  defaultAdminEmail : String
  defaultAdminPassword : String
  deriving DecidableEq

/-- `config.ServerConfig`, the field that the bootstrap reads. -/
structure ServerConfig where
  env : String
  deriving DecidableEq

/-- `hashPasswordArgon2id`, given the salt. Format and parameters are those of `hashArgon2id`. -/
def hashPasswordArgon2id (env : Env) (plainPassword : String) (salt : Base64.Bytes) : String :=
  hashArgon2id env plainPassword salt

/-- The writes to the new row. Each can fail, and then the ones before it stay. -/
def setUpAdmin (cfg : BootstrapConfig) (passwordHash : String) (newUser : User) :
    Call (Except AuthError Unit) :=
  Call.sql (.updatePasswordHash newUser.id (some passwordHash)) fun
  | .error e => .ret (.error (.ofDB "bootstrap: setting admin password hash" e))
  | .ok _ =>
    Call.sql (.setForcePasswordChange newUser.id true) fun
    | .error e => .ret (.error (.ofDB "bootstrap: setting force_password_change" e))
    | .ok _ =>
      Call.sql (.promoteUserToAdmin newUser.id) fun
      | .error e => .ret (.error (.ofDB "bootstrap: promoting user to admin" e))
      | .ok _ =>
        -- the audit service is always there, and its error is dropped
        Call.sql (.createAuditLogEntry
          ({ eventType := .defaultAdminCreated, userID := some newUser.id
             metadata := [("email", cfg.defaultAdminEmail)] } : AuditEntry).params) fun _ =>
        .ret (.ok ())

/-- Create the administrator. -/
def createDefaultAdmin (env : Env) (cfg : BootstrapConfig) : Call (Except AuthError Unit) :=
  Call.randBytes 16 fun
  | none => .ret (.error (.wrap "bootstrap: hashing admin password" (.wrap "generating salt" .rand)))
  | some salt =>
    Call.now fun now =>
    Call.sql (.createUser
      { email := cfg.defaultAdminEmail, emailVerified := true, firstName := none, lastName := none
        provider := none, providerID := none, locale := "en-US", lastLoginAt := now }) fun
    | .error e => .ret (.error (.ofDB "bootstrap: creating default admin user" e))
    | .ok newUser => setUpAdmin cfg (hashPasswordArgon2id env cfg.defaultAdminPassword salt) newUser

/-- `BootstrapDefaultAdmin`. -/
def bootstrapDefaultAdmin (env : Env) (cfg : BootstrapConfig) (serverCfg : ServerConfig) :
    Call (Except AuthError Unit) :=
  if serverCfg.env = "production" && !cfg.allowDefaultAdmin then .ret (.ok ())
  else if cfg.defaultAdminEmail = "" || cfg.defaultAdminPassword = "" then .ret (.ok ())
  else if !env.lib.isMailAddress cfg.defaultAdminEmail then
    .ret (.error (.wrap "bootstrap: DEFAULT_ADMIN_EMAIL is not a valid email address" .mail))
  else
    match validatePassword env.lib cfg.defaultAdminPassword cfg.defaultAdminEmail with
    | .error e => .ret (.error (.wrap "bootstrap: DEFAULT_ADMIN_PASSWORD does not meet policy" e))
    | .ok _ =>
      Call.sql .countAdminUsers fun
      | .error e => .ret (.error (.ofDB "bootstrap: counting admin users" e))
      | .ok count => if count > 0 then .ret (.ok ()) else createDefaultAdmin env cfg

/-! ### The first client -/

/-- `config.BootstrapConfig`, the fields that `BootstrapDefaultClient` reads. -/
structure BootstrapClientConfig where
  allowDefaultClient : Bool
  defaultClientID : String
  defaultClientSecret : String
  defaultClientName : String
  defaultClientRedirectURIs : String
  defaultClientConfidential : Bool
  defaultAdminEmail : String
  deriving DecidableEq

/-- `validateBootstrapRedirectURI`: the text of its error. The checks are those of the client service. -/
def validateBootstrapRedirectURI (env : AdminEnv) (rawURI : String) : Option String :=
  env.redirectURIProblem rawURI

/-- The redirect URIs of the configuration, trimmed. -/
def BootstrapClientConfig.redirectURIs (cfg : BootstrapClientConfig) : List String :=
  if cfg.defaultClientRedirectURIs = "" then []
  else (cfg.defaultClientRedirectURIs.toList.splitOn ',').map fun raw =>
    Text.trimSpace (String.ofList raw)

/-- The first redirect URI that is not valid, with what is wrong with it. -/
def invalidRedirectURI? (env : AdminEnv) (cfg : BootstrapClientConfig) : Option AuthError :=
  cfg.redirectURIs.findSome? fun uri =>
    (validateBootstrapRedirectURI env uri).map fun msg =>
      .wrap ("bootstrap: invalid redirect URI " ++ env.quote uri) (.text msg)

/-- Insert the client, with the administrator as its creator. -/
def createDefaultClient (env : AdminEnv) (cfg : BootstrapClientConfig) :
    Call (Except AuthError Unit) :=
  if cfg.defaultAdminEmail = "" then
    .ret (.error (.text
      "bootstrap: DEFAULT_ADMIN_EMAIL must be configured when bootstrapping a default client"))
  else
    Call.sql (.getUserByEmail cfg.defaultAdminEmail) fun
    | .error e => .ret (.error (.ofDB "bootstrap: looking up default admin user" e))
    | .ok adminUser =>
      Call.sql (.createClient
        { name := cfg.defaultClientName, description := none
          clientSecretHash := env.auth.lib.sha256Hex cfg.defaultClientSecret
          redirectUris := cfg.redirectURIs, grantTypes := ["authorization_code"]
          isActive := some true, createdBy := adminUser.id
          isConfidential := cfg.defaultClientConfidential, allowRefreshTokens := false }) fun
      | .error e => .ret (.error (.ofDB "bootstrap: creating default client" e))
      | .ok newClient =>
        -- the audit service is always there, and its error is dropped
        Call.sql (.createAuditLogEntry
          ({ eventType := .defaultClientCreated, clientID := some newClient.id
             metadata := [("client_id", cfg.defaultClientID), ("name", cfg.defaultClientName)] } :
            AuditEntry).params) fun _ =>
        .ret (.ok ())

/-- `BootstrapDefaultClient`. -/
def bootstrapDefaultClient (env : AdminEnv) (cfg : BootstrapClientConfig) :
    Call (Except AuthError Unit) :=
  if env.env = "production" && !cfg.allowDefaultClient then .ret (.ok ())
  else if cfg.defaultClientID = "" || cfg.defaultClientSecret = "" then .ret (.ok ())
  else
    match invalidRedirectURI? env cfg with
    | some e => .ret (.error e)
    | none =>
      Call.sql (.countClients true) fun
      | .error e => .ret (.error (.ofDB "bootstrap: counting clients" e))
      | .ok count => if count > 0 then .ret (.ok ()) else createDefaultClient env cfg

end GoauthServer
