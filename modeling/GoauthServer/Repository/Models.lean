import GoauthServer.Framework.Table
import Mathlib.Data.Int.Notation

/-!
# The tables of the server

The rows of the seven tables that the service touches, with the columns of
`internal/repository/models.go` and the constraints of `db/schema/schema.sql`:

* a primary key `id` in each table;
* unique columns: `users.email`, `users (provider, provider_id)`,
  `oauth_providers (client_id, name)`, `authorization_codes.code`, `access_tokens.token_hash` and
  `refresh_tokens.token_hash`.

Both are part of the type of a table (`Relational.Keyed`). `NULL` is never equal to `NULL`, so two
users without an identity provider do not clash.

A pointer of the Go struct is an `Option`. The one exception is `RefreshToken.accessTokenID`: the
column is nullable and the Go field is a plain `uuid.UUID`, so the row keeps the `NULL`
(`Option UUID`) and the code reads it back as the zero UUID.
-/

namespace GoauthServer

open Relational

/-- `uuid.UUID`; the nil UUID is `0`. -/
abbrev UUID : Type := BitVec 128

/-- An instant, in nanoseconds. The server and the database share one clock. -/
abbrev Time : Type := ℤ

/-- A row of `users`. -/
structure User where
  id : UUID
  email : String
  emailVerified : Bool
  firstName : Option String
  lastName : Option String
  isActive : Bool
  locale : String
  provider : Option String
  providerID : Option String
  lastLoginAt : Time
  createdAt : Time
  updatedAt : Time
  isAdmin : Option Bool
  passwordHash : Option String
  forcePasswordChange : Bool
  failedLoginAttempts : ℤ
  lastFailedLoginAt : Option Time
  lockedUntil : Option Time
  deriving DecidableEq

/-- A row of `clients`. -/
structure Client where
  id : UUID
  name : String
  description : Option String
  clientSecretHash : String
  redirectUris : List String
  grantTypes : List String
  isActive : Option Bool
  createdBy : UUID
  createdAt : Time
  updatedAt : Time
  isConfidential : Bool
  allowRefreshTokens : Bool
  deriving DecidableEq

/-- A row of `oauth_providers`. -/
structure OauthProvider where
  id : UUID
  clientID : UUID
  name : String
  displayName : String
  providerClientID : String
  providerClientSecret : String
  authUrl : String
  tokenUrl : String
  userInfoUrl : String
  scopes : List String
  isEnabled : Option Bool
  createdAt : Time
  updatedAt : Time
  deriving DecidableEq

/-- A row of `authorization_codes`. -/
structure AuthorizationCode where
  id : UUID
  code : String
  clientID : UUID
  userID : UUID
  providerID : UUID
  redirectUri : String
  scope : Option String
  state : Option String
  codeChallenge : Option String
  codeChallengeMethod : Option String
  expiresAt : Time
  usedAt : Option Time
  isRevoked : Option Bool
  createdAt : Time
  deriving DecidableEq

/-- A row of `access_tokens`. `clientID` is `NULL` for a token of the direct login. -/
structure AccessToken where
  id : UUID
  tokenHash : String
  clientID : Option UUID
  userID : UUID
  scope : Option String
  expiresAt : Time
  isRevoked : Option Bool
  createdAt : Time
  deriving DecidableEq

/-- A row of `refresh_tokens`. -/
structure RefreshToken where
  id : UUID
  tokenFamilyID : UUID
  tokenHash : String
  clientID : UUID
  userID : UUID
  accessTokenID : Option UUID
  previousTokenID : Option UUID
  scope : String
  expiresAt : Time
  isRevoked : Bool
  revokedAt : Option Time
  revokeReason : Option String
  usedAt : Option Time
  createdAt : Time
  deriving DecidableEq

/-- `audit.EventType`. -/
inductive EventType where
  | defaultAdminCreated
  | defaultClientCreated
  | userPasswordChanged
  | forcePasswordChangeSatisfied
  | refreshTokenIssued
  | refreshTokenRotated
  | refreshTokenRevoked
  | refreshTokenFamilyRevoked
  | replayDetected
  | accessTokenRevoked
  | adminSessionRevoked
  | loginFailed
  | accountLocked
  | accountUnlocked
  | clientSecretRegenerated
  deriving DecidableEq

/-- A row of `audit_log`. The metadata are the fields of the JSON object. -/
structure AuditLog where
  id : UUID
  eventType : EventType
  userID : UUID
  clientID : UUID
  actorID : UUID
  ipAddress : Option String
  metadata : List (String × String)
  createdAt : Time
  deriving DecidableEq

/-! ### Unique columns -/

/-- Both are present and equal: a `NULL` does not clash. -/
def sameNonNull {α : Type} [DecidableEq α] : Option α → Option α → Bool
  | some a, some b => decide (a = b)
  | _, _ => false

theorem sameNonNull_comm {α : Type} [DecidableEq α] (a b : Option α) : sameNonNull a b = sameNonNull b a := by
  cases a <;> cases b <;> simp [sameNonNull, eq_comm]

/-- The identity a user has at a provider, if both columns are present. -/
def User.identity (u : User) : Option (String × String) :=
  match u.provider, u.providerID with
  | some p, some s => some (p, s)
  | _, _ => none

instance : Keyed User where
  Key := UUID × String × Option (String × String)
  key u := (u.id, u.email, u.identity)
  clash k k' := decide (k.1 = k'.1) || decide (k.2.1 = k'.2.1) || sameNonNull k.2.2 k'.2.2
  clash_comm k k' := by
    rw [sameNonNull_comm]
    simp [eq_comm]

instance : Keyed Client where
  Key := UUID
  key c := c.id
  clash k k' := decide (k = k')
  clash_comm k k' := by simp [eq_comm]

instance : Keyed OauthProvider where
  Key := UUID × UUID × String
  key p := (p.id, p.clientID, p.name)
  clash k k' := decide (k.1 = k'.1) || decide (k.2 = k'.2)
  clash_comm k k' := by simp [eq_comm]

instance : Keyed AuthorizationCode where
  Key := UUID × String
  key c := (c.id, c.code)
  clash k k' := decide (k.1 = k'.1) || decide (k.2 = k'.2)
  clash_comm k k' := by simp [eq_comm]

instance : Keyed AccessToken where
  Key := UUID × String
  key t := (t.id, t.tokenHash)
  clash k k' := decide (k.1 = k'.1) || decide (k.2 = k'.2)
  clash_comm k k' := by simp [eq_comm]

instance : Keyed RefreshToken where
  Key := UUID × String
  key t := (t.id, t.tokenHash)
  clash k k' := decide (k.1 = k'.1) || decide (k.2 = k'.2)
  clash_comm k k' := by simp [eq_comm]

instance : Keyed AuditLog where
  Key := UUID
  key e := e.id
  clash k k' := decide (k = k')
  clash_comm k k' := by simp [eq_comm]

/-- The database. -/
structure Store where
  users : Table User
  clients : Table Client
  oauthProviders : Table OauthProvider
  authorizationCodes : Table AuthorizationCode
  accessTokens : Table AccessToken
  refreshTokens : Table RefreshToken
  auditLog : Table AuditLog

/-- The database before anything was stored. -/
def Store.empty : Store := ⟨.empty, .empty, .empty, .empty, .empty, .empty, .empty⟩

/-! ### Rows of one key are one row -/

section Unique

variable {s : Store}

theorem Store.user_eq {u u' : User} (h : u ∈ s.users.rows) (h' : u' ∈ s.users.rows)
    (hid : u.id = u'.id) : u = u' :=
  Table.eq_of_clash h h' (by simp [Keyed.clash, Keyed.key, hid])

theorem Store.code_eq {c c' : AuthorizationCode} (h : c ∈ s.authorizationCodes.rows)
    (h' : c' ∈ s.authorizationCodes.rows) (hid : c.id = c'.id ∨ c.code = c'.code) : c = c' :=
  Table.eq_of_clash h h' (by rcases hid with hid | hid <;> simp [Keyed.clash, Keyed.key, hid])

theorem Store.accessToken_eq {t t' : AccessToken} (h : t ∈ s.accessTokens.rows)
    (h' : t' ∈ s.accessTokens.rows) (hid : t.id = t'.id ∨ t.tokenHash = t'.tokenHash) :
    t = t' :=
  Table.eq_of_clash h h' (by rcases hid with hid | hid <;> simp [Keyed.clash, Keyed.key, hid])

theorem Store.refreshToken_eq {t t' : RefreshToken} (h : t ∈ s.refreshTokens.rows)
    (h' : t' ∈ s.refreshTokens.rows) (hid : t.id = t'.id ∨ t.tokenHash = t'.tokenHash) :
    t = t' :=
  Table.eq_of_clash h h' (by rcases hid with hid | hid <;> simp [Keyed.clash, Keyed.key, hid])

end Unique

/-- The users to whom codes and tokens belong. -/
inductive Store.Owner (s : Store) : UUID → Prop
  | code {c : AuthorizationCode} (h : c ∈ s.authorizationCodes.rows) : s.Owner c.userID
  | access {a : AccessToken} (h : a ∈ s.accessTokens.rows) : s.Owner a.userID
  | refresh {t : RefreshToken} (h : t ∈ s.refreshTokens.rows) : s.Owner t.userID

/-- The foreign keys `user_id` of codes and tokens. -/
def Store.OwnersExist (s : Store) : Prop := ∀ id, s.Owner id → ∃ u ∈ s.users.rows, u.id = id

end GoauthServer
