import GoauthServer.Repository.Models
import Mathlib.Algebra.Group.Int.Defs
import Mathlib.Data.List.Sort

/-!
# The SQL statements of the repository

`Query` has one constructor for each statement of `db/queries/*.sql` that the modelled services
execute, and `Query.exec` is its effect. A statement is atomic. Where it fails (no row for a
`:one` query, a unique or foreign key constraint, a value out of the range of its column) it
leaves the store as it was.

What the schema adds to the text of a statement is here too:

* the defaults of the columns an `INSERT` leaves out;
* the trigger `set_updated_at` on `users`;
* `ON DELETE SET NULL` from `access_tokens` to `refresh_tokens.access_token_id`;
* `ON DELETE CASCADE` from `oauth_providers` to `authorization_codes`.

Rows that `ORDER BY` leaves tied stay in the order of the table, and text is ordered by code points.
-/

namespace GoauthServer

open Relational

variable {t : Table User} {id : UUID} {f : User → User}

/-- What a repository call can fail with. Only `noRows` (`pgx.ErrNoRows`) is told apart by the
services; `fault` is a statement that was not executed (a lost connection, a cancelled context). -/
inductive DBError where
  | noRows
  | uniqueViolation
  | foreignKeyViolation
  | notNullViolation
  | dataException
  | fault
  deriving DecidableEq

structure CreateClientParams where
  name : String
  description : Option String
  clientSecretHash : String
  redirectUris : List String
  grantTypes : List String
  isActive : Option Bool
  createdBy : UUID
  isConfidential : Bool
  allowRefreshTokens : Bool
  deriving DecidableEq

structure UpdateClientParams where
  id : UUID
  name : String
  description : Option String
  redirectUris : List String
  grantTypes : List String
  isConfidential : Bool
  allowRefreshTokens : Bool
  deriving DecidableEq

structure CreateOAuthProviderParams where
  clientID : UUID
  name : String
  displayName : String
  providerClientID : String
  providerClientSecret : String
  authUrl : String
  tokenUrl : String
  userInfoUrl : String
  scopes : List String
  isEnabled : Option Bool
  deriving DecidableEq

structure UpdateOAuthProviderParams where
  id : UUID
  displayName : String
  providerClientID : String
  providerClientSecret : String
  authUrl : String
  tokenUrl : String
  userInfoUrl : String
  scopes : List String
  isEnabled : Option Bool
  deriving DecidableEq

/-- The filters of the lists of codes and tokens. The zero UUID is a filter like any other. -/
structure SessionFilter where
  clientID : UUID
  userID : UUID
  isRevoked : Bool
  deriving DecidableEq

structure CreateUserParams where
  email : String
  emailVerified : Bool
  firstName : Option String
  lastName : Option String
  provider : Option String
  providerID : Option String
  locale : String
  lastLoginAt : Time
  deriving DecidableEq

structure CreateAuthorizationCodeParams where
  code : String
  clientID : UUID
  userID : UUID
  providerID : UUID
  redirectUri : String
  scope : Option String
  state : Option String := none
  codeChallenge : Option String := none
  codeChallengeMethod : Option String := none
  expiresAt : Time
  deriving DecidableEq

structure CreateAccessTokenParams where
  tokenHash : String
  clientID : Option UUID
  userID : UUID
  scope : Option String
  expiresAt : Time
  deriving DecidableEq

structure CreateRefreshTokenParams where
  tokenHash : String
  tokenFamilyID : UUID
  clientID : UUID
  userID : UUID
  accessTokenID : UUID
  previousTokenID : Option UUID
  scope : String
  expiresAt : Time
  deriving DecidableEq

structure CreateAuditLogEntryParams where
  eventType : EventType
  userID : UUID
  clientID : UUID
  actorID : UUID
  ipAddress : Option String
  metadata : List (String × String)
  deriving DecidableEq

/-- The statements, under the names sqlc gives them. -/
inductive Query where
  -- clients.sql, oauth_providers.sql
  | getClient (id : UUID)
  | listClients (isActive : Bool) (limit offset : ℤ)
  | countClients (isActive : Bool)
  | createClient (p : CreateClientParams)
  | updateClient (p : UpdateClientParams)
  | deleteClient (id : UUID)
  | regenerateClientSecret (id : UUID) (clientSecretHash : String)
  | getOAuthProvider (id : UUID)
  | getOAuthProviderByClientAndName (clientID : UUID) (name : String)
  | listOAuthProvidersByClient (clientID : UUID)
  | listEnabledOAuthProvidersByClient (clientID : UUID)
  | createOAuthProvider (p : CreateOAuthProviderParams)
  | updateOAuthProvider (p : UpdateOAuthProviderParams)
  | disableOAuthProvider (id : UUID)
  | deleteOAuthProvider (id : UUID)
  -- users.sql, users_bootstrap.go
  | createUser (p : CreateUserParams)
  | countAdminUsers
  | promoteUserToAdmin (id : UUID)
  | getUserByProviderID (provider providerID : Option String)
  | getUserByEmail (email : String)
  | listUsers (isActive isAdmin : Bool) (limit offset : ℤ)
  | countUsers (isActive isAdmin : Bool)
  | getUserByID (id : UUID)
  | getUserByEmailForAuth (email : String)
  | updateLastLogin (id : UUID) (lastLoginAt : Time)
  | updateUserActiveStatus (id : UUID) (isActive : Bool)
  | updatePasswordHash (id : UUID) (passwordHash : Option String)
  | setForcePasswordChange (id : UUID) (forcePasswordChange : Bool)
  | incrementFailedLoginAttempts (id : UUID)
  | lockUserAccount (id : UUID) (lockedUntil : Time)
  | resetLoginAttempts (id : UUID)
  | unlockUserAccount (id : UUID)
  -- authorization_codes.sql
  | getAuthorizationCode (code : String)
  | getAuthorizationCodeByID (id : UUID)
  | listAuthorizationCodes (f : SessionFilter) (limit offset : ℤ)
  | countAuthorizationCodes (f : SessionFilter)
  | createAuthorizationCode (p : CreateAuthorizationCodeParams)
  | markAuthorizationCodeUsed (id : UUID)
  | revokeAuthorizationCode (id : UUID)
  | deleteExpiredAuthorizationCodes
  -- access_tokens.sql
  | getAccessToken (tokenHash : String)
  | getAccessTokenByID (id : UUID)
  | listAccessTokens (f : SessionFilter) (limit offset : ℤ)
  | countAccessTokens (f : SessionFilter)
  | createAccessToken (p : CreateAccessTokenParams)
  | revokeAccessToken (id : UUID)
  | revokeAccessTokensByClient (clientID : UUID)
  | revokeAccessTokensByUser (userID : UUID)
  | deleteExpiredAccessTokens
  -- refresh_tokens.sql
  | createRefreshToken (p : CreateRefreshTokenParams)
  | getRefreshTokenByHash (tokenHash : String)
  | revokeRefreshToken (id : UUID) (revokeReason : Option String)
  | revokeRefreshTokenFamily (tokenFamilyID : UUID) (revokeReason : Option String)
  | markRefreshTokenUsed (id : UUID)
  | revokeRefreshTokensByUser (userID : UUID) (revokeReason : Option String)
  -- audit_log.sql
  | createAuditLogEntry (p : CreateAuditLogEntryParams)

/-- What a statement returns: a row or a count (`:one`), rows (`:many`), or nothing (`:exec`). -/
@[reducible] def Query.Row : Query → Type
  | .getClient _ | .createClient _ | .updateClient _ | .regenerateClientSecret _ _ => Client
  | .listClients _ _ _ => List Client
  | .countClients _ => ℕ
  | .deleteClient _ => Unit
  | .getOAuthProvider _ | .getOAuthProviderByClientAndName _ _ | .createOAuthProvider _
  | .updateOAuthProvider _ => OauthProvider
  | .listOAuthProvidersByClient _ | .listEnabledOAuthProvidersByClient _ => List OauthProvider
  | .disableOAuthProvider _ | .deleteOAuthProvider _ => Unit
  | .listUsers _ _ _ _ => List User
  | .countUsers _ _ => ℕ
  | .createUser _ | .getUserByProviderID _ _ | .getUserByEmail _ | .getUserByID _ | .getUserByEmailForAuth _
  | .updateLastLogin _ _ | .updateUserActiveStatus _ _ | .updatePasswordHash _ _
  | .setForcePasswordChange _ _ | .incrementFailedLoginAttempts _ | .lockUserAccount _ _
  | .resetLoginAttempts _ | .unlockUserAccount _ | .promoteUserToAdmin _ => User
  | .countAdminUsers => ℕ
  | .getAuthorizationCode _ | .getAuthorizationCodeByID _ | .createAuthorizationCode _
  | .markAuthorizationCodeUsed _ => AuthorizationCode
  | .listAuthorizationCodes _ _ _ => List AuthorizationCode
  | .countAuthorizationCodes _ => ℕ
  | .revokeAuthorizationCode _ | .deleteExpiredAuthorizationCodes => Unit
  | .listAccessTokens _ _ _ => List AccessToken
  | .countAccessTokens _ => ℕ
  | .getAccessToken _ | .getAccessTokenByID _ | .createAccessToken _ => AccessToken
  | .revokeAccessToken _ | .revokeAccessTokensByClient _ | .revokeAccessTokensByUser _
  | .deleteExpiredAccessTokens => Unit
  | .createRefreshToken _ | .getRefreshTokenByHash _ => RefreshToken
  | .revokeRefreshToken _ _ | .revokeRefreshTokenFamily _ _ | .markRefreshTokenUsed _
  | .revokeRefreshTokensByUser _ _ => Unit
  | .createAuditLogEntry _ => UUID

/-! ### The forms of statements -/

section Forms

variable {ρ : Type} [Keyed ρ]

/-- `SELECT * … LIMIT 1`, as a `:one` query. -/
def selectOne (t : Table ρ) (p : ρ → Bool) : Except DBError ρ :=
  match t.select p with
  | some r => .ok r
  | none => .error .noRows

/-- `UPDATE … RETURNING *`, as a `:one` query. An update of no row returns no row. -/
def updateOne (t : Table ρ) (p : ρ → Bool) (f : ρ → ρ)
    (hf : ∀ r, Keyed.key (f r) = Keyed.key r) : Except DBError ρ × Table ρ :=
  (match t.returning p f with
    | some r => .ok r
    | none => .error .noRows, t.update p f hf)

/-- `INSERT … RETURNING *`, with the foreign keys checked by `fk`. -/
def insertOne (t : Table ρ) (fk : Bool) (r : ρ) : Except DBError ρ × Table ρ :=
  match t.insert r with
  | none => (.error .uniqueViolation, t)
  | some t' => if fk then (.ok r, t') else (.error .foreignKeyViolation, t)

/-- `ORDER BY created_at DESC`, where `createdAt` reads the column. -/
def newestFirst (createdAt : ρ → Time) (rows : List ρ) : List ρ :=
  rows.insertionSort fun a b => createdAt b ≤ createdAt a

/-- `LIMIT … OFFSET …`. Neither may be negative. -/
def page (limit offset : ℤ) (rows : List ρ) : Except DBError (List ρ) :=
  if limit < 0 ∨ offset < 0 then .error .dataException
  else .ok ((rows.drop offset.toNat).take limit.toNat)

/-- A foreign key refers to a row. -/
def Refers (t : Table ρ) (p : ρ → Bool) : Bool := t.rows.any p

end Forms

/-- The largest value of an `integer` column. -/
def maxInt32 : ℤ := 2 ^ 31 - 1

/-- An update of one user. The trigger `set_updated_at` sets `updated_at` in all of them. -/
def updateUser (t : Table User) (now : Time) (id : UUID) (f : User → User)
    (hf : ∀ u, Keyed.key (f u) = Keyed.key u) : Except DBError User × Table User :=
  updateOne t (fun u => u.id == id) (fun u => { f u with updatedAt := now }) fun u => hf u

/-- The outcome of a statement on `users`. -/
def Store.withUsers (s : Store) (r : Except DBError User × Table User) :
    Except DBError User × Store :=
  (r.1, { s with users := r.2 })

/-- `DELETE FROM access_tokens WHERE expires_at < now()`. The foreign key of the refresh tokens
is set to `NULL` where it referred to a deleted row. -/
def Store.deleteExpiredAccessTokens (s : Store) (now : Time) : Store :=
  let gone : UUID → Bool := fun id =>
    s.accessTokens.rows.any fun t => decide (t.expiresAt < now) && t.id == id
  { s with
    accessTokens := s.accessTokens.delete fun t => decide (t.expiresAt < now)
    refreshTokens := s.refreshTokens.update (fun t => t.accessTokenID.any gone)
      (fun t => { t with accessTokenID := none }) fun _ => rfl }

/-- `DELETE FROM oauth_providers WHERE id = $1`, with the codes that refer to the row. -/
def Store.deleteOAuthProvider (s : Store) (id : UUID) : Store :=
  { s with
    oauthProviders := s.oauthProviders.delete fun p => p.id == id
    authorizationCodes := s.authorizationCodes.delete fun c => c.providerID == id }

/-- The conditions of the lists of codes and tokens. -/
def SessionFilter.matchesCode (f : SessionFilter) (c : AuthorizationCode) : Bool :=
  c.clientID == f.clientID && c.userID == f.userID && c.isRevoked == some f.isRevoked

def SessionFilter.matchesToken (f : SessionFilter) (t : AccessToken) : Bool :=
  t.clientID == some f.clientID && t.userID == f.userID && t.isRevoked == some f.isRevoked

/-- The row `CreateClient` inserts. -/
def CreateClientParams.row (p : CreateClientParams) (now : Time) (fresh : UUID) : Client :=
  { id := fresh, name := p.name, description := p.description
    clientSecretHash := p.clientSecretHash, redirectUris := p.redirectUris
    grantTypes := p.grantTypes, isActive := p.isActive, createdBy := p.createdBy, createdAt := now
    updatedAt := now, isConfidential := p.isConfidential
    allowRefreshTokens := p.allowRefreshTokens }

/-- The row `CreateOAuthProvider` inserts. -/
def CreateOAuthProviderParams.row (p : CreateOAuthProviderParams) (now : Time) (fresh : UUID) :
    OauthProvider :=
  { id := fresh, clientID := p.clientID, name := p.name, displayName := p.displayName
    providerClientID := p.providerClientID, providerClientSecret := p.providerClientSecret
    authUrl := p.authUrl, tokenUrl := p.tokenUrl, userInfoUrl := p.userInfoUrl, scopes := p.scopes
    isEnabled := p.isEnabled, createdAt := now, updatedAt := now }

/-- The row `CreateUser` inserts. -/
def CreateUserParams.row (p : CreateUserParams) (now : Time) (fresh : UUID) : User :=
  { id := fresh, email := p.email, emailVerified := p.emailVerified, firstName := p.firstName
    lastName := p.lastName, isActive := true, locale := p.locale, provider := p.provider
    providerID := p.providerID, lastLoginAt := p.lastLoginAt, createdAt := now, updatedAt := now
    isAdmin := some false, passwordHash := none, forcePasswordChange := false
    failedLoginAttempts := 0, lastFailedLoginAt := none, lockedUntil := none }

/-- The row `CreateAuthorizationCode` inserts. -/
def CreateAuthorizationCodeParams.row (p : CreateAuthorizationCodeParams) (now : Time)
    (fresh : UUID) : AuthorizationCode :=
  { id := fresh, code := p.code, clientID := p.clientID, userID := p.userID
    providerID := p.providerID, redirectUri := p.redirectUri, scope := p.scope, state := p.state
    codeChallenge := p.codeChallenge, codeChallengeMethod := p.codeChallengeMethod
    expiresAt := p.expiresAt, usedAt := none, isRevoked := some false, createdAt := now }

/-- The row `CreateAccessToken` inserts. -/
def CreateAccessTokenParams.row (p : CreateAccessTokenParams) (now : Time) (fresh : UUID) :
    AccessToken :=
  { id := fresh, tokenHash := p.tokenHash, clientID := p.clientID, userID := p.userID
    scope := p.scope, expiresAt := p.expiresAt, isRevoked := some false, createdAt := now }

/-- The row `CreateRefreshToken` inserts. -/
def CreateRefreshTokenParams.row (p : CreateRefreshTokenParams) (now : Time) (fresh : UUID) :
    RefreshToken :=
  { id := fresh, tokenFamilyID := p.tokenFamilyID, tokenHash := p.tokenHash
    clientID := p.clientID, userID := p.userID, accessTokenID := some p.accessTokenID
    previousTokenID := p.previousTokenID, scope := p.scope, expiresAt := p.expiresAt
    isRevoked := false, revokedAt := none, revokeReason := none, usedAt := none
    createdAt := now }

/-- The row `CreateAuditLogEntry` inserts. -/
def CreateAuditLogEntryParams.row (p : CreateAuditLogEntryParams) (now : Time) (fresh : UUID) :
    AuditLog :=
  { id := fresh, eventType := p.eventType, userID := p.userID, clientID := p.clientID
    actorID := p.actorID, ipAddress := p.ipAddress, metadata := p.metadata, createdAt := now }

/-- `SET is_revoked = true, revoked_at = now(), revoke_reason = $2`. -/
def RefreshToken.revoke (now : Time) (reason : Option String) (t : RefreshToken) : RefreshToken :=
  { t with isRevoked := true, revokedAt := some now, revokeReason := reason }

/-- `SET used_at = now(), is_revoked = true, revoke_reason = 'used'`. -/
def RefreshToken.markUsed (now : Time) (t : RefreshToken) : RefreshToken :=
  { t with usedAt := some now, isRevoked := true, revokeReason := some "used" }

/-- `SET is_revoked = true`. -/
def AccessToken.revoke (t : AccessToken) : AccessToken := { t with isRevoked := some true }

theorem RefreshToken.key_unlink (t : RefreshToken) : Keyed.key { t with accessTokenID := none } = Keyed.key t := rfl

theorem RefreshToken.key_revoke (now : Time) (reason : Option String) (t : RefreshToken) :
    Keyed.key (t.revoke now reason) = Keyed.key t := rfl

theorem RefreshToken.key_markUsed (now : Time) (t : RefreshToken) : Keyed.key (t.markUsed now) = Keyed.key t := rfl

theorem AccessToken.key_revoke (t : AccessToken) : Keyed.key t.revoke = Keyed.key t := rfl

/-! ### The effect of a statement -/

/-- Execute a statement at the time `now`. `fresh` is the value of `gen_random_uuid()`. -/
def Query.exec (q : Query) (now : Time) (fresh : UUID) (s : Store) :
    Except DBError q.Row × Store :=
  match q with
  | .getClient id => (selectOne s.clients fun c => c.id == id, s)
  | .listClients isActive limit offset =>
    (page limit offset (newestFirst Client.createdAt
      (s.clients.rows.filter fun c => c.isActive == some isActive)), s)
  | .countClients isActive => (.ok (s.clients.rows.countP fun c => c.isActive == some isActive), s)
  | .createClient p =>
    -- a caller without redirect URIs passes a nil slice, which is `NULL`
    let r := if p.redirectUris = [] then (.error .notNullViolation, s.clients)
      else insertOne s.clients (Refers s.users fun u => u.id == p.createdBy) (p.row now fresh)
    (r.1, { s with clients := r.2 })
  | .deleteClient id =>
    (.ok (), { s with
      clients := s.clients.update (fun c => c.id == id)
        (fun c => { c with isActive := some false, updatedAt := now }) fun _ => rfl })
  | .regenerateClientSecret id clientSecretHash =>
    let r := updateOne s.clients (fun c => c.id == id)
      (fun c => { c with clientSecretHash := clientSecretHash, updatedAt := now }) fun _ => rfl
    (r.1, { s with clients := r.2 })
  | .updateClient p =>
    let r := updateOne s.clients (fun c => c.id == p.id) (fun c =>
      { c with
        name := p.name, description := p.description, redirectUris := p.redirectUris
        grantTypes := p.grantTypes, isConfidential := p.isConfidential
        allowRefreshTokens := p.allowRefreshTokens, updatedAt := now }) fun _ => rfl
    (r.1, { s with clients := r.2 })
  | .getOAuthProviderByClientAndName clientID name =>
    (selectOne s.oauthProviders fun p => p.clientID == clientID && p.name == name, s)
  | .getOAuthProvider id => (selectOne s.oauthProviders fun p => p.id == id, s)
  | .listOAuthProvidersByClient clientID =>
    (.ok ((s.oauthProviders.rows.filter fun p => p.clientID == clientID).insertionSort
      fun a b => a.displayName ≤ b.displayName), s)
  | .listEnabledOAuthProvidersByClient clientID =>
    (.ok ((s.oauthProviders.rows.filter fun p =>
      p.clientID == clientID && p.isEnabled == some true).insertionSort
      fun a b => a.displayName ≤ b.displayName), s)
  | .createOAuthProvider p =>
    let r := insertOne s.oauthProviders (Refers s.clients fun c => c.id == p.clientID)
      (p.row now fresh)
    (r.1, { s with oauthProviders := r.2 })
  | .updateOAuthProvider p =>
    let r := updateOne s.oauthProviders (fun o => o.id == p.id) (fun o =>
      { o with
        displayName := p.displayName, providerClientID := p.providerClientID
        providerClientSecret := p.providerClientSecret, authUrl := p.authUrl
        tokenUrl := p.tokenUrl, userInfoUrl := p.userInfoUrl, scopes := p.scopes
        isEnabled := p.isEnabled, updatedAt := now }) fun _ => rfl
    (r.1, { s with oauthProviders := r.2 })
  | .disableOAuthProvider id =>
    (.ok (), { s with
      oauthProviders := s.oauthProviders.update (fun o => o.id == id)
        (fun o => { o with isEnabled := some false, updatedAt := now }) fun _ => rfl })
  | .deleteOAuthProvider id => (.ok (), s.deleteOAuthProvider id)
  | .getUserByEmail email => (selectOne s.users fun u => u.email == email, s)
  | .listUsers isActive isAdmin limit offset =>
    (page limit offset (newestFirst User.createdAt
      (s.users.rows.filter fun u => u.isActive == isActive && u.isAdmin == some isAdmin)), s)
  | .countUsers isActive isAdmin =>
    (.ok (s.users.rows.countP fun u => u.isActive == isActive && u.isAdmin == some isAdmin), s)
  | .createUser p =>
    -- `locale character varying(10)`
    s.withUsers <|
      if p.locale.length > 10 then (.error .dataException, s.users)
      else insertOne s.users true (p.row now fresh)
  | .countAdminUsers => (.ok (s.users.rows.countP fun u => u.isAdmin == some true), s)
  | .promoteUserToAdmin id =>
    s.withUsers <| updateUser s.users now id (fun u => { u with isAdmin := some true }) fun _ => rfl
  | .getUserByProviderID provider providerID =>
    (selectOne s.users fun u =>
      sameNonNull u.provider provider && sameNonNull u.providerID providerID, s)
  | .getUserByID id => (selectOne s.users fun u => u.id == id, s)
  | .getUserByEmailForAuth email => (selectOne s.users fun u => u.email == email, s)
  | .updateLastLogin id lastLoginAt =>
    s.withUsers <| updateUser s.users now id (fun u => { u with lastLoginAt := lastLoginAt })
      fun _ => rfl
  | .updateUserActiveStatus id isActive =>
    s.withUsers <| updateUser s.users now id (fun u => { u with isActive := isActive })
      fun _ => rfl
  | .updatePasswordHash id passwordHash =>
    s.withUsers <| updateUser s.users now id (fun u => { u with passwordHash := passwordHash })
      fun _ => rfl
  | .setForcePasswordChange id forcePasswordChange =>
    s.withUsers <| updateUser s.users now id
      (fun u => { u with forcePasswordChange := forcePasswordChange }) fun _ => rfl
  | .incrementFailedLoginAttempts id =>
    -- `failed_login_attempts integer`: the statement fails where the sum is out of range
    s.withUsers <|
      if s.users.rows.any fun u => u.id == id && decide (maxInt32 ≤ u.failedLoginAttempts) then
        (.error .dataException, s.users)
      else
        updateUser s.users now id (fun u =>
          { u with
            failedLoginAttempts := u.failedLoginAttempts + 1
            lastFailedLoginAt := some now }) fun _ => rfl
  | .lockUserAccount id lockedUntil =>
    s.withUsers <| updateUser s.users now id (fun u => { u with lockedUntil := some lockedUntil })
      fun _ => rfl
  | .resetLoginAttempts id =>
    s.withUsers <| updateUser s.users now id (fun u =>
      { u with failedLoginAttempts := 0, lastFailedLoginAt := none, lockedUntil := none })
      fun _ => rfl
  | .unlockUserAccount id =>
    s.withUsers <| updateUser s.users now id (fun u => { u with lockedUntil := none })
      fun _ => rfl
  | .getAuthorizationCode code => (selectOne s.authorizationCodes fun c => c.code == code, s)
  | .getAuthorizationCodeByID id => (selectOne s.authorizationCodes fun c => c.id == id, s)
  | .listAuthorizationCodes f limit offset =>
    (page limit offset (newestFirst AuthorizationCode.createdAt
      (s.authorizationCodes.rows.filter f.matchesCode)), s)
  | .countAuthorizationCodes f => (.ok (s.authorizationCodes.rows.countP f.matchesCode), s)
  | .createAuthorizationCode p =>
    let fk := Refers s.clients (fun c => c.id == p.clientID) &&
      Refers s.users (fun u => u.id == p.userID) &&
      Refers s.oauthProviders (fun o => o.id == p.providerID)
    let r := insertOne s.authorizationCodes fk (p.row now fresh)
    (r.1, { s with authorizationCodes := r.2 })
  | .markAuthorizationCodeUsed id =>
    let r := updateOne s.authorizationCodes (fun c => c.id == id)
      (fun c => { c with usedAt := some now }) fun _ => rfl
    (r.1, { s with authorizationCodes := r.2 })
  | .revokeAuthorizationCode id =>
    (.ok (), { s with
      authorizationCodes := s.authorizationCodes.update (fun c => c.id == id)
        (fun c => { c with isRevoked := some true }) fun _ => rfl })
  | .deleteExpiredAuthorizationCodes =>
    (.ok (), { s with
      authorizationCodes := s.authorizationCodes.delete fun c => decide (c.expiresAt < now) })
  | .getAccessToken tokenHash => (selectOne s.accessTokens fun t => t.tokenHash == tokenHash, s)
  | .getAccessTokenByID id => (selectOne s.accessTokens fun t => t.id == id, s)
  | .listAccessTokens f limit offset =>
    (page limit offset (newestFirst AccessToken.createdAt
      (s.accessTokens.rows.filter f.matchesToken)), s)
  | .countAccessTokens f => (.ok (s.accessTokens.rows.countP f.matchesToken), s)
  | .createAccessToken p =>
    let fk := p.clientID.all (fun id => Refers s.clients fun c => c.id == id) &&
      Refers s.users (fun u => u.id == p.userID)
    let r := insertOne s.accessTokens fk (p.row now fresh)
    (r.1, { s with accessTokens := r.2 })
  | .revokeAccessToken id =>
    (.ok (), { s with
      accessTokens := s.accessTokens.update (fun t => t.id == id) AccessToken.revoke
        fun _ => rfl })
  | .revokeAccessTokensByClient clientID =>
    (.ok (), { s with
      accessTokens := s.accessTokens.update (fun t => t.clientID == some clientID)
        AccessToken.revoke fun _ => rfl })
  | .revokeAccessTokensByUser userID =>
    (.ok (), { s with
      accessTokens := s.accessTokens.update (fun t => t.userID == userID) AccessToken.revoke
        fun _ => rfl })
  | .deleteExpiredAccessTokens => (.ok (), s.deleteExpiredAccessTokens now)
  | .createRefreshToken p =>
    let fk := Refers s.clients (fun c => c.id == p.clientID) &&
      Refers s.users (fun u => u.id == p.userID) &&
      Refers s.accessTokens (fun t => t.id == p.accessTokenID) &&
      p.previousTokenID.all (fun id => Refers s.refreshTokens fun t => t.id == id)
    let r := insertOne s.refreshTokens fk (p.row now fresh)
    (r.1, { s with refreshTokens := r.2 })
  | .getRefreshTokenByHash tokenHash =>
    (selectOne s.refreshTokens fun t => t.tokenHash == tokenHash, s)
  | .revokeRefreshToken id reason =>
    (.ok (), { s with
      refreshTokens := s.refreshTokens.update (fun t => t.id == id) (.revoke now reason)
        fun _ => rfl })
  | .revokeRefreshTokenFamily tokenFamilyID reason =>
    (.ok (), { s with
      refreshTokens := s.refreshTokens.update (fun t => t.tokenFamilyID == tokenFamilyID)
        (.revoke now reason) fun _ => rfl })
  | .markRefreshTokenUsed id =>
    (.ok (), { s with
      refreshTokens := s.refreshTokens.update (fun t => t.id == id) (.markUsed now)
        fun _ => rfl })
  | .revokeRefreshTokensByUser userID reason =>
    (.ok (), { s with
      refreshTokens := s.refreshTokens.update (fun t => t.userID == userID && !t.isRevoked)
        (.revoke now reason) fun _ => rfl })
  | .createAuditLogEntry p =>
    let r := insertOne s.auditLog true (p.row now fresh)
    (r.1.map fun e => e.id, { s with auditLog := r.2 })

section

-- The equations of a match this wide are derived here, once, and not by whichever proof is first.
attribute [local simp] Query.exec

end

/-! ### What the forms of statements do -/

section FormLemmas

variable {ρ : Type} [Keyed ρ] {t : Table ρ} {p : ρ → Bool} {r : ρ} {e : DBError} {f : ρ → ρ}

theorem selectOne_ok (h : selectOne t p = .ok r) : r ∈ t.rows ∧ p r = true := by
  unfold selectOne at h
  split at h
  · next hs =>
    obtain rfl := Except.ok.inj h
    exact ⟨Table.mem_of_select hs, Table.prop_of_select hs⟩
  · exact absurd h (by simp)

theorem selectOne_eq_ok (h : t.select p = some r) : selectOne t p = .ok r := by
  unfold selectOne; rw [h]

theorem select_of_selectOne_ok (h : selectOne t p = .ok r) : t.select p = some r := by
  unfold selectOne at h
  split at h
  · next hs => rw [hs, Except.ok.inj h]
  · cases h

theorem selectOne_error (h : selectOne t p = .error e) : ∀ r ∈ t.rows, ¬ p r = true := by
  unfold selectOne at h
  split at h
  · cases h
  · next hs => exact Table.select_eq_none.mp hs

theorem updateOne_ok {hf : ∀ r, Keyed.key (f r) = Keyed.key r} (h : (updateOne t p f hf).1 = .ok r) :
    ∃ a ∈ t.rows, p a = true ∧ f a = r := by
  unfold updateOne at h
  split at h
  · next hret =>
    obtain rfl := Except.ok.inj h
    obtain ⟨a, hsel, ha⟩ := Option.map_eq_some_iff.mp hret
    exact ⟨a, Table.mem_of_select hsel, Table.prop_of_select hsel, ha⟩
  · exact absurd h (by simp)

/-- An update that fails found no row. -/
theorem select_of_updateOne_error
    (hf : ∀ r, Keyed.key (f r) = Keyed.key r) (h : (updateOne t p f hf).1 = .error e) :
    t.select p = none := by
  unfold updateOne Table.returning at h
  split at h
  · cases h
  · next hret => exact Option.map_eq_none_iff.mp hret

/-- An update that returns no row changes nothing. -/
theorem updateOne_error (hf : ∀ r, Keyed.key (f r) = Keyed.key r) (h : (updateOne t p f hf).1 = .error e) :
    (updateOne t p f hf).2 = t := by
  have hnone := select_of_updateOne_error hf h
  refine Table.ext ((List.map_congr_left fun r hr => ?_).trans (List.map_id t.rows))
  have hp : ¬ p r = true := Table.select_eq_none.mp hnone r hr
  rw [if_neg hp]
  rfl

/-- An insert fails and changes nothing, or it appends the row and returns it. -/
theorem insertOne_cases (t : Table ρ) (fk : Bool) (r : ρ) : (∃ e, insertOne t fk r = (.error e, t)) ∨
      ∃ t', t.insert r = some t' ∧ insertOne t fk r = (.ok r, t') := by
  unfold insertOne
  split
  · exact Or.inl ⟨_, rfl⟩
  · next t' hins =>
    split
    · exact Or.inr ⟨t', hins, rfl⟩
    · exact Or.inl ⟨_, rfl⟩

/-- An insert as a step of the table: the new row satisfies the foreign keys. -/
theorem insertOne_step {R : ρ → ρ → Prop} {new : ρ → Prop} {deletes : Prop} {fk : Bool}
    (hR : ∀ r, R r r) (hnew : fk = true → new r) : Table.Step R new deletes t (insertOne t fk r).2 := by
  unfold insertOne
  split
  · exact .same hR
  · next hins =>
    split
    · next hfk => exact .append r hR (hnew hfk) hins
    · exact .same hR

/-- The errors of an insert are violations of constraints. -/
theorem insertOne_ne_noRows (t : Table ρ) (fk : Bool) (r : ρ) : (insertOne t fk r).1 ≠ .error .noRows := by
  unfold insertOne
  split
  · simp
  · split <;> simp

theorem refers_iff : Refers t p = true ↔ ∃ r ∈ t.rows, p r = true := List.any_eq_true

end FormLemmas

/-- The row that an update of one user returns. -/
theorem updateUser_ok {now : Time}
    {hf : ∀ u, Keyed.key (f u) = Keyed.key u} {u : User} (h : (updateUser t now id f hf).1 = .ok u) :
    ∃ a ∈ t.rows, a.id = id ∧ u = { f a with updatedAt := now } := by
  obtain ⟨a, ha, hid, rfl⟩ := updateOne_ok h
  exact ⟨a, ha, beq_iff_eq.mp hid, rfl⟩

theorem mem_updateUser {now : Time} (hf : ∀ u, Keyed.key (f u) = Keyed.key u) {u : User}
    (h : (updateUser t now id f hf).1 = .ok u) : u ∈ (updateUser t now id f hf).2.rows := by
  obtain ⟨a, ha, hid, rfl⟩ := updateUser_ok h
  have hmem := Table.mem_update (p := fun u : User => u.id == id)
    (f := fun u => { f u with updatedAt := now }) ha
  rwa [if_pos (beq_iff_eq.mpr hid)] at hmem

end GoauthServer
