import GoauthServer.Repository.Evolution
import GoauthServer.Service.Token

/-!
# Reading a log

What a call has learnt and done, read off its log. A call makes each of these requests at most
once, so the newest event is the only one.
-/

namespace GoauthServer

open Interact GoTime

variable {log : Log effects}

/-! ### Events -/

namespace Event

/-- A refresh token that was looked up. -/
def record? : Event effects → Option RefreshToken
  | ⟨.sql (.getRefreshTokenByHash _), .ok t⟩ => some t
  | _ => none

/-- An authorization code that was looked up. -/
def code? : Event effects → Option AuthorizationCode
  | ⟨.sql (.getAuthorizationCode _), .ok c⟩ => some c
  | _ => none

/-- A user who was loaded by id. -/
def user? : Event effects → Option User
  | ⟨.sql (.getUserByID _), .ok u⟩ => some u
  | _ => none

/-- A user who was looked up by email, to log in. -/
def authUser? : Event effects → Option User
  | ⟨.sql (.getUserByEmailForAuth _), .ok u⟩ => some u
  | _ => none

/-- A user who was looked up by an identity at a provider. -/
def found? : Event effects → Option User
  | ⟨.sql (.getUserByProviderID _ _), .ok u⟩ => some u
  | _ => none

/-- A user whose login was recorded: one that was there, or one that was created for it. -/
def signedIn? : Event effects → Option User
  | ⟨.sql (.updateLastLogin _ _), .ok u⟩ => some u
  | ⟨.sql (.createUser _), .ok u⟩ => some u
  | _ => none

/-- What an identity provider said about a user. -/
def userInfo? : Event effects → Option UserInfoReply
  | ⟨.getUserInfo _ _, reply⟩ => some reply
  | _ => none

/-- An access token that was stored. -/
def access? : Event effects → Option AccessToken
  | ⟨.sql (.createAccessToken _), .ok a⟩ => some a
  | _ => none

/-- A UUID that was drawn. -/
def uuid? : Event effects → Option UUID
  | ⟨.newUUID, id⟩ => some id
  | _ => none

/-- A reading of the clock. -/
def clock? : Event effects → Option Time
  | ⟨.now, t⟩ => some t
  | _ => none

/-- A refresh token was marked as used. -/
def marks : Event effects → Bool
  | ⟨.sql (.markRefreshTokenUsed _), .ok _⟩ => true
  | _ => false

/-- A refresh token was stored. -/
def creates : Event effects → Bool
  | ⟨.sql (.createRefreshToken _), .ok _⟩ => true
  | _ => false

/-- An authorization code was marked as used. -/
def redeems : Event effects → Bool
  | ⟨.sql (.markAuthorizationCodeUsed _), .ok _⟩ => true
  | _ => false

end Event

/-! ### Logs -/

/-- The refresh token the call has looked up. -/
def readRecord (log : Log effects) : Option RefreshToken := log.findSome? Event.record?

/-- The authorization code the call has looked up. -/
def readCode (log : Log effects) : Option AuthorizationCode := log.findSome? Event.code?

/-- The user the call has loaded by id. -/
def readUser (log : Log effects) : Option User := log.findSome? Event.user?

/-- The user the call has looked up by email. -/
def authUser (log : Log effects) : Option User := log.findSome? Event.authUser?

/-- The user the call has found for an identity. -/
def foundUser (log : Log effects) : Option User := log.findSome? Event.found?

/-- The user whose login the call has recorded. -/
def signedIn (log : Log effects) : Option User := log.findSome? Event.signedIn?

/-- What the identity provider has said. -/
def userInfo (log : Log effects) : Option UserInfoReply := log.findSome? Event.userInfo?

/-- The access token the call has stored. -/
def storedAccess (log : Log effects) : Option AccessToken := log.findSome? Event.access?

/-- The UUID the call has drawn. -/
def drawnUUID (log : Log effects) : Option UUID := log.findSome? Event.uuid?

/-- The readings of the clock, newest first. -/
def clockReadings (log : Log effects) : List Time := log.filterMap Event.clock?

/-- The call has marked a refresh token as used. -/
def marked (log : Log effects) : Bool := log.any Event.marks

/-- The call has stored a refresh token. -/
def created (log : Log effects) : Bool := log.any Event.creates

/-- The call has marked an authorization code as used. -/
def redeemed (log : Log effects) : Bool := log.any Event.redeems

/-- `token` is an access token that the call has signed, for the user named in the claims. -/
def Minted (env : Env) (log : Log effects) (userID email token : String) : Prop :=
  ∃ now ∈ clockReadings log, ∃ sig, token = env.accessToken (env.accessClaims userID email now) sig

theorem Minted.cons {env : Env} {userID email token : String}
    (h : Minted env log userID email token) (e : Event effects) :
    Minted env (e :: log) userID email token := by
  obtain ⟨now, hnow, sig, htok⟩ := h
  obtain ⟨a, ha, hclock⟩ := List.mem_filterMap.mp hnow
  exact ⟨now, List.mem_filterMap.mpr ⟨a, List.mem_cons_of_mem e ha, hclock⟩, sig, htok⟩

/-- `token` is an access token for this user. -/
def AccessFor (env : Env) (userID : UUID) (token : String) : Prop :=
  ∃ email now sig, token = env.accessToken (env.accessClaims (env.lib.uuidString userID) email now)
    sig

theorem Minted.accessFor {env : Env} {userID : UUID} {email token : String}
    (h : Minted env log (env.lib.uuidString userID) email token) : AccessFor env userID token := by
  obtain ⟨now, _, sig, htok⟩ := h
  exact ⟨email, now, sig, htok⟩

/-- `p` stores `token`, an access token that the call has signed for this user, until its lifetime
has passed since the clock was last read. -/
structure Stores (env : Env) (log : Log effects) (userID email token : String)
    (p : CreateAccessTokenParams) : Prop where
  minted : Minted env log userID email token
  tokenHash : p.tokenHash = env.lib.sha256Hex token
  expiresAt : ∃ now, (clockReadings log).head? = some now ∧ p.expiresAt = add now env.expiry

/-- A call that goes on after an audit event, if it goes on with and without it. -/
theorem logEvent_obeys {α : Type} {env : Env} {entry : AuditEntry} {k : Call α} {P : Protocol effects α}
    (hreq : P.request (.sql (.createAuditLogEntry entry.params)) log) (hk : k.Obeys P log)
    (hk' : ∀ r, k.Obeys P (⟨.sql (.createAuditLogEntry entry.params), r⟩ :: log)) :
    (env.logEvent entry k).Obeys P log := by
  unfold Env.logEvent
  split
  · exact ⟨hreq, hk'⟩
  · exact hk

/-! ### What a step adds -/

section Step

variable {q : Request} {d : Draw} {w : World} {log : Log effects} {u : User} {r : q.Reply}

/-- A reading of the log that a step changes is a reading of its event. -/
theorem findSome?_cons_or {β : Type} {read : Event effects → Option β} {b : β} {e : Event effects}
    (h : List.findSome? read (e :: log) = some b) : List.findSome? read log = some b ∨ read e = some b := by
  rw [List.findSome?_cons] at h
  cases he : read e with
  | none =>
    rw [he] at h
    exact Or.inl h
  | some b' =>
    rw [he] at h
    exact Or.inr h

/-- The event of a step says which request it was, and how it was answered. -/
theorem respond_of_event {q' : Request} {r : q'.Reply}
    (h : (⟨q, (respond q d w).1⟩ : Event effects) = ⟨q', r⟩) : q = q' ∧ (respond q' d w).1 = r := by
  obtain rfl : q = q' := congrArg Sigma.fst h
  exact ⟨rfl, eq_of_heq (Sigma.mk.inj h).2⟩

theorem readRecord_respond {t : RefreshToken} (h : readRecord (⟨q, (respond q d w).1⟩ :: log) = some t) :
    readRecord log = some t ∨ ∃ tokenHash, q = .sql (.getRefreshTokenByHash tokenHash) ∧
      t ∈ w.db.refreshTokens.rows ∧ t.tokenHash = tokenHash := by
  refine (findSome?_cons_or h).imp_right fun hread => ?_
  unfold Event.record? at hread
  split at hread
  · next heq =>
    obtain ⟨rfl, hr⟩ := respond_of_event heq
    obtain rfl := Option.some.inj hread
    exact ⟨_, rfl, respond_getRefreshTokenByHash hr⟩
  · cases hread

/-- Only a look-up changes what was looked up. -/
theorem readRecord_of_ne (hq : ∀ hash, q ≠ .sql (.getRefreshTokenByHash hash)) :
    readRecord (⟨q, r⟩ :: log) = readRecord log := by
  cases q with
  | sql q =>
    cases q with
    | getRefreshTokenByHash hash => exact absurd rfl (hq hash)
    | _ => rfl
  | _ => rfl

theorem readUser_respond (h : readUser (⟨q, (respond q d w).1⟩ :: log) = some u) :
    readUser log = some u ∨ ∃ id, q = .sql (.getUserByID id) ∧ u ∈ w.db.users.rows ∧ u.id = id := by
  refine (findSome?_cons_or h).imp_right fun hread => ?_
  unfold Event.user? at hread
  split at hread
  · next heq =>
    obtain ⟨rfl, hr⟩ := respond_of_event heq
    obtain rfl := Option.some.inj hread
    exact ⟨_, rfl, respond_getUserByID hr⟩
  · cases hread

theorem readUser_of_ne (hq : ∀ id, q ≠ .sql (.getUserByID id)) : readUser (⟨q, r⟩ :: log) = readUser log := by
  cases q with
  | sql q =>
    cases q with
    | getUserByID id => exact absurd rfl (hq id)
    | _ => rfl
  | _ => rfl

theorem authUser_respond (h : authUser (⟨q, (respond q d w).1⟩ :: log) = some u) :
    authUser log = some u ∨ ∃ email, q = .sql (.getUserByEmailForAuth email) ∧
      u ∈ w.db.users.rows ∧ u.email = email := by
  refine (findSome?_cons_or h).imp_right fun hread => ?_
  unfold Event.authUser? at hread
  split at hread
  · next heq =>
    obtain ⟨rfl, hr⟩ := respond_of_event heq
    obtain rfl := Option.some.inj hread
    exact ⟨_, rfl, respond_getUserByEmailForAuth hr⟩
  · cases hread

theorem foundUser_respond (h : foundUser (⟨q, (respond q d w).1⟩ :: log) = some u) :
    foundUser log = some u ∨ ∃ provider providerID,
      q = .sql (.getUserByProviderID provider providerID) ∧ u ∈ w.db.users.rows ∧
      sameNonNull u.provider provider = true ∧ sameNonNull u.providerID providerID = true := by
  refine (findSome?_cons_or h).imp_right fun hread => ?_
  unfold Event.found? at hread
  split at hread
  · next heq =>
    obtain ⟨rfl, hr⟩ := respond_of_event heq
    obtain rfl := Option.some.inj hread
    exact ⟨_, _, rfl, respond_getUserByProviderID hr⟩
  · cases hread

/-- A user whose login was recorded is the one the statement names, or a new one. -/
theorem signedIn_respond (h : signedIn (⟨q, (respond q d w).1⟩ :: log) = some u) :
    signedIn log = some u ∨ (∃ t, q = .sql (.updateLastLogin u.id t)) ∨
      (∃ p, q = .sql (.createUser p)) ∧ ∀ a ∈ w.db.users.rows, a.id ≠ u.id := by
  refine (findSome?_cons_or h).imp_right fun hread => ?_
  unfold Event.signedIn? at hread
  split at hread
  · next heq =>
    obtain ⟨rfl, hr⟩ := respond_of_event heq
    obtain rfl := Option.some.inj hread
    exact Or.inl ⟨_, by rw [respond_updateLastLogin hr]⟩
  · next heq =>
    obtain ⟨rfl, hr⟩ := respond_of_event heq
    obtain rfl := Option.some.inj hread
    exact Or.inr ⟨⟨_, rfl⟩, respond_createUser hr⟩
  · cases hread

/-- A user whose login was recorded is in the table then. -/
theorem signedIn_stored (h : signedIn (⟨q, (respond q d w).1⟩ :: log) = some u) :
    signedIn log = some u ∨ u ∈ (respond q d w).2.db.users.rows := by
  refine (findSome?_cons_or h).imp_right fun hread => ?_
  unfold Event.signedIn? at hread
  split at hread
  · next id t u' heq =>
    obtain ⟨rfl, hr⟩ := respond_of_event heq
    obtain rfl := Option.some.inj hread
    have hok : (updateUser w.db.users (w.wait d.wait).now id
        (fun u => { u with lastLoginAt := t }) fun _ => rfl).1 = .ok u' := (respond_sql_ok hr).2.1
    rw [(respond_sql_ok hr).2.2]
    exact mem_updateUser _ hok
  · next p u' heq =>
    obtain ⟨rfl, hr⟩ := respond_of_event heq
    obtain rfl := Option.some.inj hread
    rcases respond_createUser_insert d w p with ⟨e, hr', _⟩ | ⟨t, hins, hr', hdb⟩
    · rw [hr'] at hr
      cases hr
    · obtain rfl := Except.ok.inj (hr'.symm.trans hr)
      rw [hdb]
      exact (Relational.Table.mem_of_insert hins).mpr (Or.inr rfl)
  · cases hread

theorem clockReadings_respond {t : Time} (h : t ∈ clockReadings (⟨q, (respond q d w).1⟩ :: log)) :
    t ∈ clockReadings log ∨ q = .now ∧ t = (w.wait d.wait).now := by
  cases q with
  | now =>
    rcases List.mem_cons.mp h with rfl | h
    · exact Or.inr ⟨rfl, rfl⟩
    · exact Or.inl h
  | _ => exact Or.inl h

theorem marked_respond (h : marked (⟨q, (respond q d w).1⟩ :: log) = true) :
    marked log = true ∨ ∃ id, q = .sql (.markRefreshTokenUsed id) ∧ d.fault = false := by
  cases q with
  | sql q =>
    cases q with
    | markRefreshTokenUsed id =>
      cases hf : d.fault with
      | true =>
        rw [respond_sql_fault _ hf] at h
        exact Or.inl h
      | false => exact Or.inr ⟨id, rfl, rfl⟩
    | _ => exact Or.inl h
  | _ => exact Or.inl h

theorem readCode_respond {c : AuthorizationCode} (h : readCode (⟨q, (respond q d w).1⟩ :: log) = some c) :
    readCode log = some c ∨ ∃ code, q = .sql (.getAuthorizationCode code) ∧
      c ∈ w.db.authorizationCodes.rows ∧ c.code = code := by
  refine (findSome?_cons_or h).imp_right fun hread => ?_
  unfold Event.code? at hread
  split at hread
  · next heq =>
    obtain ⟨rfl, hr⟩ := respond_of_event heq
    obtain rfl := Option.some.inj hread
    exact ⟨_, rfl, respond_getAuthorizationCode hr⟩
  · cases hread

theorem readCode_of_ne (hq : ∀ code, q ≠ .sql (.getAuthorizationCode code)) :
    readCode (⟨q, r⟩ :: log) = readCode log := by
  cases q with
  | sql q =>
    cases q with
    | getAuthorizationCode code => exact absurd rfl (hq code)
    | _ => rfl
  | _ => rfl

theorem drawnUUID_respond {F : UUID} (h : drawnUUID (⟨q, (respond q d w).1⟩ :: log) = some F) :
    drawnUUID log = some F ∨ q = .newUUID ∧ d.uuid = F := by
  cases q with
  | newUUID => exact Or.inr ⟨rfl, Option.some.inj h⟩
  | _ => exact Or.inl h

theorem redeemed_respond (h : redeemed (⟨q, (respond q d w).1⟩ :: log) = true) :
    redeemed log = true ∨ ∃ id, q = .sql (.markAuthorizationCodeUsed id) ∧ d.fault = false := by
  cases q with
  | sql q =>
    cases q with
    | markAuthorizationCodeUsed id =>
      cases hf : d.fault with
      | true =>
        rw [respond_sql_fault _ hf] at h
        exact Or.inl h
      | false => exact Or.inr ⟨id, rfl, rfl⟩
    | _ => exact Or.inl h
  | _ => exact Or.inl h

/-- A call that has stored an access token did so before, or the step has inserted the row. -/
theorem storedAccess_respond {a : AccessToken} (h : storedAccess (⟨q, (respond q d w).1⟩ :: log) = some a) :
    storedAccess log = some a ∨ ∃ p, q = .sql (.createAccessToken p) ∧ a = p.row (w.wait d.wait).now d.uuid ∧
      w.db.accessTokens.insert a = some (respond q d w).2.db.accessTokens := by
  cases q with
  | sql q =>
    cases q with
    | createAccessToken p =>
      rcases respond_createAccessToken d w p with ⟨e, hr, _⟩ | ⟨t, hins, hr, hdb⟩
      · rw [hr] at h
        exact Or.inl h
      · rw [hr] at h
        obtain rfl := Option.some.inj h
        exact Or.inr ⟨p, rfl, rfl, by rw [hdb]; exact hins⟩
    | _ => exact Or.inl h
  | _ => exact Or.inl h

/-- A call that has not stored a refresh token has not done so in this step, and then the table
has no new row. -/
theorem created_respond (h : created (⟨q, (respond q d w).1⟩ :: log) = false) :
    created log = false ∧ ∀ p, q = .sql (.createRefreshToken p) →
      (respond q d w).2.db.refreshTokens = w.db.refreshTokens := by
  cases q with
  | sql q =>
    cases q with
    | createRefreshToken p =>
      rcases respond_createRefreshToken d w p with ⟨e, hr, hdb⟩ | ⟨t, _, hr, _⟩
      · rw [hr] at h
        exact ⟨h, fun _ _ => by rw [hdb]⟩
      · rw [hr] at h
        cases h
    | _ => exact ⟨h, fun p hp => by cases hp⟩
  | _ => exact ⟨h, fun p hp => by cases hp⟩

/-- A call that has stored a refresh token did so before, or the step has inserted the row. -/
theorem insert_of_created_respond (h : created (⟨q, (respond q d w).1⟩ :: log) = true) :
    created log = true ∨ ∃ p, q = .sql (.createRefreshToken p) ∧
      w.db.refreshTokens.insert (p.row (w.wait d.wait).now d.uuid) =
        some (respond q d w).2.db.refreshTokens := by
  cases q with
  | sql q =>
    cases q with
    | createRefreshToken p =>
      rcases respond_createRefreshToken d w p with ⟨e, hr, _⟩ | ⟨t, hins, _, hdb⟩
      · rw [hr] at h
        exact Or.inl h
      · exact Or.inr ⟨p, rfl, by rw [hdb]; exact hins⟩
    | _ => exact Or.inl h
  | _ => exact Or.inl h

end Step

end GoauthServer
