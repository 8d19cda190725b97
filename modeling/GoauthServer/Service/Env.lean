import GoauthServer.Lib.Duration
import GoauthServer.Lib.Jwt
import GoauthServer.Repository.Backend

/-!
# What a service call is given

`Env` is the receiver `s *Service` of the methods of `internal/service/auth`: the configuration,
whether an audit service is present, and the functions of other packages the code calls (`Lib`).
The latter are parameters of the model. Where a result depends on how one of them behaves, it
says so in a hypothesis.
-/

namespace GoauthServer

open Interact Base64 GoTime

/-- `config.LockoutConfig`. -/
structure LockoutConfig where
  maxAttempts : Int64
  windowSeconds : Int64
  durationSeconds : Int64
  deriving DecidableEq

/-- `config.Config`, the fields that the modelled services read, and `RefreshToken.MaxLifetimeDays`,
which none of them reads. An `int` of the configuration is a 64-bit integer. -/
structure Config where
  appName : String
  accessTokenExpiry : Int64
  refreshTokenExpiryDays : Int64
  refreshTokenMaxLifetimeDays : Int64
  lockout : LockoutConfig
  sessionSigningKey : String
  deriving DecidableEq

/-- The checks of `config.Load` on the lockout configuration. -/
structure LockoutConfig.Accepted (c : LockoutConfig) : Prop where
  maxAttempts_pos : 0 < c.maxAttempts
  windowSeconds_pos : 0 < c.windowSeconds
  durationSeconds_pos : 0 < c.durationSeconds

/-- `auth.Claims`, the claims of an access token. -/
structure Claims where
  userID : String
  email : String
  registered : Jwt.RegisteredClaims
  deriving DecidableEq

/-- `challengeClaims`, the claims of a password-change challenge. -/
structure ChallengeClaims where
  tokenType : String
  registered : Jwt.RegisteredClaims
  deriving DecidableEq

/-- Functions of the standard library and of third-party packages. -/
structure Lib where
  /-- `util.SHA256Hex`: the hex digest of `crypto/sha256`. -/
  sha256Hex : String → String
  /-- `uuid.Parse`. -/
  uuidParse : String → Option UUID
  /-- `UUID.String`. -/
  uuidString : UUID → String
  /-- `hex.DecodeString`. -/
  hexDecode : String → Option Bytes
  /-- A JWT header read as JSON: `none` if it is not an object, else its `alg`, if a string. -/
  headerAlg : Bytes → Option (Option String)
  /-- JSON of the access-token claims. -/
  claims : Jwt.Codec Claims
  /-- JSON of the challenge claims. -/
  challengeClaims : Jwt.Codec ChallengeClaims
  /-- `ES256` signing with the private key of the service; the last argument is its entropy. -/
  ecdsaSign : List Char → Bytes → Option Bytes
  /-- `SigningMethodECDSA.Verify` with the public key of the service. -/
  ecdsaVerify : Jwt.Hash → List Char → Bytes → Bool
  /-- HMAC under a key. -/
  hmac : Jwt.Hash → Bytes → List Char → Bytes
  /-- `argon2.IDKey` of password, salt, time, memory, threads and key length, as 32-bit numbers
  (threads: 8-bit). Where it panics it is not called (`verifyArgon2id`). -/
  idKey : (password : String) → (salt : Bytes) → (time memory threads keyLen : ℕ) → Bytes
  /-- `t.UTC().Format(time.RFC3339)`. -/
  formatRFC3339 : Time → String
  /-- `decrypt` of the provider service, under its encryption key. -/
  decryptSecret : String → Option String
  /-- `unicode.IsUpper`, `unicode.IsLower` and `unicode.IsDigit`. -/
  isUpper : Char → Bool
  isLower : Char → Bool
  isDigit : Char → Bool
  /-- `strings.ToLower`. -/
  toLower : String → String
  /-- `Request.BasicAuth` of `net/http`, on the value of the `Authorization` header. -/
  basicAuth : String → Option (String × String)
  /-- `mail.ParseAddress` succeeds. -/
  isMailAddress : String → Bool
  /-- The lines of the embedded `denylist.txt`, trimmed, without the empty ones. -/
  denylist : List String

/-- The receiver of the service methods. -/
structure Env where
  cfg : Config
  lib : Lib
  /-- `s.auditSvc != nil`. -/
  audited : Bool

/-- The errors of the service. A sentinel error is told apart by its name; `wrap` is
`fmt.Errorf("context: %w", err)`. -/
inductive AuthError where
  | clientNotFound
  | clientInactive
  | providerDisabled
  | providerNotFound
  | invalidRedirectURI
  | invalidClientSecret
  | codeNotFound
  | codeExpired
  | codeUsed
  | codeRevoked
  | codeClientMismatch
  | codeRedirectMismatch
  | tokenNotFound
  | invalidGrant
  | tokenExpired
  | accountLocked
  | invalidCredentials
  | forcePasswordChangeSatisfied
  | userNotFound
  | authorizationCodeNotFound
  | accessTokenNotFound
  /-- An error of the repository. -/
  | db (e : DBError)
  /-- An error with this text. -/
  | text (msg : String)
  /-- An error of the JWT parser. -/
  | jwt (e : Jwt.ParseError)
  /-- An error of `crypto/rand`, of signing, of `encoding/hex`, `uuid.Parse`, `encoding/base64` or
  `net/mail`. -/
  | rand
  | signing
  | hex
  | uuid
  | base64
  | mail
  /-- The handler did not return: a panic in a library. -/
  | panic
  | wrap (context : String) (e : AuthError)
  deriving DecidableEq

/-- `fmt.Errorf("context: %w", err)` for an error of the repository. -/
def AuthError.ofDB (context : String) (e : DBError) : AuthError := .wrap context (.db e)

/-- The error that a chain of `%w` ends in, which `errors.Is` finds. -/
def AuthError.root : AuthError → AuthError
  | .wrap _ e => e.root
  | e => e

/-- `util.StrPtr`. -/
def strPtr (s : String) : Option String := if s = "" then none else some s

/-- `util.GenerateSecureToken`, given the random bytes. -/
def secureToken (bs : Bytes) : String := String.ofList (encode rawURL bs)

/-- `audit.AuditEntry`; an absent identifier is stored as the zero UUID. -/
structure AuditEntry where
  eventType : EventType
  userID : Option UUID := none
  clientID : Option UUID := none
  actorID : Option UUID := none
  ipAddress : Option String := none
  metadata : List (String × String) := []

/-- The parameters `audit.Service.LogEvent` stores. -/
def AuditEntry.params (e : AuditEntry) : CreateAuditLogEntryParams :=
  { eventType := e.eventType, userID := e.userID.getD 0, clientID := e.clientID.getD 0
    actorID := e.actorID.getD 0, ipAddress := e.ipAddress, metadata := e.metadata }

/-- `if s.auditSvc != nil { _ = s.auditSvc.LogEvent(ctx, entry) }`, and then `k`. -/
def Env.logEvent {α : Type} (env : Env) (entry : AuditEntry) (k : Call α) : Call α :=
  if env.audited then Call.sql (.createAuditLogEntry entry.params) fun _ => k else k

/-- All tables but `audit_log` are the same. -/
def Store.SameTables (s s' : Store) : Prop := ∃ t, s' = { s with auditLog := t }

theorem Store.SameTables.refl (s : Store) : s.SameTables s := ⟨s.auditLog, rfl⟩

/-- **An audit event** in a run: the call goes on in a world that differs in `audit_log` at most. -/
theorem logEvent_run {α : Type} (env : Env) (entry : AuditEntry) (k : Call α) (ds : ℕ → Draw) (w : World) :
    ∃ ds' w', (env.logEvent entry k).run backend ds w = k.run backend ds' w' ∧
      w.db.SameTables w'.db ∧ (Sound ds → Sound ds') ∧
      ∀ P : (q : Request) → Draw → World → Prop, (∀ p d w, P (.sql (.createAuditLogEntry p)) d w) →
        ((env.logEvent entry k).Along backend P ds w ↔ k.Along backend P ds' w') := by
  unfold Env.logEvent
  split
  · refine ⟨fun n => ds (n + 1), (respond (.sql (.createAuditLogEntry entry.params)) (ds 0) w).2,
      rfl, ?_, Sound.tail, fun P hP => ?_⟩
    · cases hf : (ds 0).fault with
      | true =>
        rw [respond_sql_fault _ hf]
        exact Store.SameTables.refl w.db
      | false =>
        rw [respond_sql _ hf]
        exact ⟨_, rfl⟩
    · rw [Prog.along_call]
      exact and_iff_right (hP _ _ _)
  · exact ⟨ds, w, rfl, Store.SameTables.refl w.db, id, fun _ _ => Iff.rfl⟩

end GoauthServer
