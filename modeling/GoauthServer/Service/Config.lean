import GoauthServer.Lib.Strconv
import GoauthServer.Service.Env

/-!
# The configuration

`internal/config/config.go`. `Load` reads the environment of the process: texts with defaults, and numbers in two
ways. `getEnvAsInt` scans a number at the start of the text and takes the default where there is none;
`getEnvAsIntOrError` wants the whole text to be a number. The lifetime of access tokens is read in the first way
and not checked, that of refresh tokens in the second and not checked either, and the numbers of the lockout in the
second, and each of them has to be positive.

`Config.auth` is what the service is given. The checks of other packages (`net.ParseCIDR`, `mail.ParseAddress`,
`url.ParseRequestURI`) are parameters that return the text of their error.
-/

namespace GoauthServer.Configuration

/-- The environment of the process; a variable that is not set is empty. -/
abbrev Environ : Type := String → String

/-- Functions of other packages. -/
structure Library where
  /-- `%q` of `fmt`. -/
  quote : String → String
  /-- `strings.ToLower`. -/
  toLower : String → String
  /-- The error of `net.ParseCIDR`. -/
  parseCIDR : String → Option String
  /-- The error of `mail.ParseAddress`. -/
  parseAddress : String → Option String
  /-- The error of `url.ParseRequestURI`. -/
  parseRequestURI : String → Option String

/-! ### The configuration -/

structure AppConfig where
  name : String
  version : String
  deriving DecidableEq

structure ServerConfig where
  env : String
  scheme : String
  hostName : String
  port : String
  deriving DecidableEq

structure DatabaseConfig where
  host : String
  port : String
  user : String
  password : String
  dbName : String
  sslMode : String
  deriving DecidableEq

structure AccessTokenConfig where
  privateKey : String
  publicKey : String
  /-- In minutes. -/
  expiry : Int64
  deriving DecidableEq

structure RefreshTokenConfig where
  expiryDays : Int64
  rotationEnabled : Bool
  maxLifetimeDays : Int64
  deriving DecidableEq

structure SecurityConfig where
  providerEncryptionKey : String
  sessionSigningKey : String
  corsAllowedOrigins : List String
  metricsAllowedCIDRs : List String
  deriving DecidableEq

structure BootstrapConfig where
  allowDefaultAdmin : Bool
  defaultAdminEmail : String
  defaultAdminPassword : String
  allowDefaultClient : Bool
  defaultClientID : String
  defaultClientSecret : String
  defaultClientRedirectURIs : String
  defaultClientName : String
  defaultClientConfidential : Bool
  deriving DecidableEq

/-- `config.Config`. -/
structure Config where
  app : AppConfig
  server : ServerConfig
  database : DatabaseConfig
  accessToken : AccessTokenConfig
  security : SecurityConfig
  bootstrap : BootstrapConfig
  refreshToken : RefreshTokenConfig
  lockout : LockoutConfig
  deriving DecidableEq

/-- The fields that the auth service reads. -/
def Config.auth (c : Config) : GoauthServer.Config where
  appName := c.app.name
  accessTokenExpiry := c.accessToken.expiry
  refreshTokenExpiryDays := c.refreshToken.expiryDays
  refreshTokenMaxLifetimeDays := c.refreshToken.maxLifetimeDays
  lockout := c.lockout
  sessionSigningKey := c.security.sessionSigningKey

/-! ### Variables -/

section Variables

variable (lib : Library) (environ : Environ) (key : String)

def getEnv (defaultValue : String) : String :=
  if environ key = "" then defaultValue else environ key

/-- A text that does not start with a number counts as absent. -/
def getEnvAsInt (defaultValue : Int64) : Int64 :=
  if environ key = "" then defaultValue
  else
    match Strconv.scanInt (environ key) with
    | none => defaultValue
    | some value => Int64.ofInt value

def getEnvAsIntOrError (defaultValue : Int64) : Except String Int64 :=
  if environ key = "" then .ok defaultValue
  else
    match Strconv.atoi (Text.trimSpace (environ key)) with
    | none => .error (key ++ " must be an integer, got " ++ lib.quote (environ key))
    | some v => .ok (Int64.ofInt v)

def getEnvAsBool (defaultValue : Bool) : Bool :=
  match lib.toLower (Text.trimSpace (environ key)) with
  | "true" => true
  | "false" => false
  | _ => defaultValue

/-- The parts between commas, trimmed, without the empty ones. -/
def getEnvAsStringSlice : List String :=
  if environ key = "" then []
  else (((environ key).toList.splitOn ',').map fun p => Text.trimSpace (String.ofList p)).filter (· ≠ "")

end Variables

/-! ### `Load` -/

section Load

variable (lib : Library) (environ : Environ)

/-- `RefreshTokenConfig`: a value that is not a number is an error. -/
def loadRefreshToken : Except String RefreshTokenConfig := do
  let expiryDays ← getEnvAsIntOrError lib environ "REFRESH_TOKEN_EXPIRY_DAYS" 30
  let maxLifetimeDays ← getEnvAsIntOrError lib environ "REFRESH_TOKEN_MAX_LIFETIME_DAYS" 90
  return { expiryDays := expiryDays
           rotationEnabled := getEnvAsBool lib environ "REFRESH_TOKEN_ROTATION_ENABLED" true
           maxLifetimeDays := maxLifetimeDays }

/-- One of the numbers of the lockout has to be positive. -/
def requirePositive (key : String) (n : Int64) : Except String Unit :=
  if n ≤ 0 then .error (key ++ " must be positive, got " ++ toString n.toInt) else .ok ()

/-- `LockoutConfig`: a value that is not a number, or not positive, is an error. -/
def loadLockout : Except String LockoutConfig := do
  let maxAttempts ← getEnvAsIntOrError lib environ "LOGIN_MAX_ATTEMPTS" 5
  let windowSeconds ← getEnvAsIntOrError lib environ "LOGIN_ATTEMPT_WINDOW_SECONDS" 600
  let durationSeconds ← getEnvAsIntOrError lib environ "LOGIN_LOCKOUT_DURATION_SECONDS" 900
  requirePositive "LOGIN_MAX_ATTEMPTS" maxAttempts
  requirePositive "LOGIN_ATTEMPT_WINDOW_SECONDS" windowSeconds
  requirePositive "LOGIN_LOCKOUT_DURATION_SECONDS" durationSeconds
  return { maxAttempts := maxAttempts, windowSeconds := windowSeconds, durationSeconds := durationSeconds }

/-- The checks on texts, in the order of the source: the first error. -/
def Config.problem? (c : Config) : Option String :=
  if c.accessToken.privateKey = "" then some "ACCESS_TOKEN_PRIVATE_KEY is required"
  else if c.accessToken.publicKey = "" then some "ACCESS_TOKEN_PUBLIC_KEY is required"
  else if c.security.providerEncryptionKey = "" then some "PROVIDER_ENCRYPTION_KEY is required"
  else if c.security.sessionSigningKey = "" then some "SESSION_SIGNING_KEY is required"
  else
    (c.security.metricsAllowedCIDRs.findSome? fun cidr =>
      (lib.parseCIDR cidr).map fun err =>
        "METRICS_ALLOWED_CIDRS contains an invalid CIDR " ++ lib.quote cidr ++ ": " ++ err) <|>
    (if c.bootstrap.defaultAdminEmail = "" then none
      else (lib.parseAddress c.bootstrap.defaultAdminEmail).map fun err =>
        "DEFAULT_ADMIN_EMAIL is not a valid email address: " ++ err) <|>
    (if c.bootstrap.defaultClientRedirectURIs = "" then none
      else (c.bootstrap.defaultClientRedirectURIs.toList.splitOn ',').findSome? fun raw =>
        let uri := Text.trimSpace (String.ofList raw)
        if uri = "" then none
        else (lib.parseRequestURI uri).map fun err =>
          "DEFAULT_CLIENT_REDIRECT_URIS contains an invalid URI " ++ lib.quote uri ++ ": " ++ err)

/-- `Load`. -/
def load : Except String Config := do
  let refreshToken ← loadRefreshToken lib environ
  let lockout ← loadLockout lib environ
  let c : Config :=
    { app :=
        { name := getEnv environ "APP_NAME" "goauth-server"
          version := getEnv environ "VERSION" "0.3.0" }
      server :=
        { env := getEnv environ "ENV" "development"
          scheme := getEnv environ "SCHEME" "http"
          hostName := getEnv environ "HOST" "localhost"
          port := getEnv environ "PORT" "8080" }
      database :=
        { host := getEnv environ "DB_HOST" "localhost"
          port := getEnv environ "DB_PORT" "5432"
          user := getEnv environ "DB_USER" "postgres"
          password := getEnv environ "DB_PASSWORD" ""
          dbName := getEnv environ "DB_NAME" "goauth"
          sslMode := getEnv environ "DB_SSLMODE" "disable" }
      accessToken :=
        { privateKey := getEnv environ "ACCESS_TOKEN_PRIVATE_KEY" ""
          publicKey := getEnv environ "ACCESS_TOKEN_PUBLIC_KEY" ""
          expiry := getEnvAsInt environ "ACCESS_TOKEN_EXPIRY_MINUTES" 60 }
      security :=
        { providerEncryptionKey := getEnv environ "PROVIDER_ENCRYPTION_KEY" ""
          sessionSigningKey := getEnv environ "SESSION_SIGNING_KEY" ""
          corsAllowedOrigins := getEnvAsStringSlice environ "CORS_ALLOWED_ORIGINS"
          metricsAllowedCIDRs := getEnvAsStringSlice environ "METRICS_ALLOWED_CIDRS" }
      bootstrap :=
        { allowDefaultAdmin := getEnvAsBool lib environ "ALLOW_DEFAULT_ADMIN" false
          defaultAdminEmail := getEnv environ "DEFAULT_ADMIN_EMAIL" ""
          defaultAdminPassword := getEnv environ "DEFAULT_ADMIN_PASSWORD" ""
          allowDefaultClient := getEnvAsBool lib environ "ALLOW_DEFAULT_CLIENT" false
          defaultClientID := getEnv environ "DEFAULT_CLIENT_ID" ""
          defaultClientSecret := getEnv environ "DEFAULT_CLIENT_SECRET" ""
          defaultClientRedirectURIs := getEnv environ "DEFAULT_CLIENT_REDIRECT_URIS" ""
          defaultClientName := getEnv environ "DEFAULT_CLIENT_NAME" "GoAuth Client"
          defaultClientConfidential := getEnvAsBool lib environ "DEFAULT_CLIENT_CONFIDENTIAL" true }
      refreshToken := refreshToken
      lockout := lockout }
  match c.problem? lib with
  | some err => .error err
  | none => .ok c

end Load

/-! ### What `Load` accepts -/

section Accepted

variable {lib : Library} {environ : Environ}

theorem bind_ok {α β : Type} {x : Except String α} {f : α → Except String β} {b : β} (h : x >>= f = .ok b) :
    ∃ a, x = .ok a ∧ f a = .ok b := by
  cases x with
  | error e => cases h
  | ok a => exact ⟨a, rfl, h⟩

theorem requirePositive_ok {key : String} {n : Int64} {u : Unit} (h : requirePositive key n = .ok u) : 0 < n := by
  unfold requirePositive at h
  split at h
  · cases h
  · next hpos => exact Int64.not_le.mp hpos

theorem loadLockout_ok {c : LockoutConfig} (h : loadLockout lib environ = .ok c) : c.Accepted := by
  unfold loadLockout at h
  obtain ⟨maxAttempts, _, h⟩ := bind_ok h
  obtain ⟨windowSeconds, _, h⟩ := bind_ok h
  obtain ⟨durationSeconds, _, h⟩ := bind_ok h
  obtain ⟨_, hattempts, h⟩ := bind_ok h
  obtain ⟨_, hwindow, h⟩ := bind_ok h
  obtain ⟨_, hduration, h⟩ := bind_ok h
  obtain rfl := Except.ok.inj h
  exact ⟨requirePositive_ok hattempts, requirePositive_ok hwindow, requirePositive_ok hduration⟩

/-- **What is known of an accepted configuration**: the numbers of the lockout are positive. -/
theorem load_ok {c : Config} (h : load lib environ = .ok c) : c.lockout.Accepted := by
  unfold load at h
  obtain ⟨refreshToken, _, h⟩ := bind_ok h
  obtain ⟨lockout, hlockout, h⟩ := bind_ok h
  dsimp only at h
  split at h
  · cases h
  · obtain rfl := Except.ok.inj h
    exact loadLockout_ok hlockout

end Accepted

end GoauthServer.Configuration
