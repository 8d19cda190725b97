import GoauthServer.Service.Rotation
import GoauthServer.Spec.Log

/-!
# What a rotation may do

The protocol of `rotateRefreshToken`, proved once: for every request that writes, the log that
must be behind it and the values it writes, in terms of what the call has read. The safety results
use this protocol and not the text of the program.
-/

namespace GoauthServer

open Interact GoTime

/-- `p` is the successor of `t`, for the user `u`, linked to the access token `a`. -/
structure CreateRefreshTokenParams.Succeeds (p : CreateRefreshTokenParams) (t : RefreshToken)
    (u : User) (a : AccessToken) : Prop where
  tokenFamilyID : p.tokenFamilyID = t.tokenFamilyID
  clientID : p.clientID = t.clientID
  userID : p.userID = u.id
  accessTokenID : p.accessTokenID = a.id
  previousTokenID : p.previousTokenID = some t.id
  scope : p.scope = t.scope

/-- The requests of a rotation of the token with the hash `tokenHash`. -/
def rotationRequest (env : Env) (tokenHash : String) : Request → Log effects → Prop
  | .sql (.getRefreshTokenByHash h), log =>
    h = tokenHash ∧ readRecord log = none ∧ readUser log = none ∧ marked log = false ∧
      created log = false ∧ storedAccess log = none
  | .sql (.revokeRefreshTokenFamily tokenFamilyID _), log =>
    ∃ t, readRecord log = some t ∧ t.isRevoked = true ∧ tokenFamilyID = t.tokenFamilyID ∧
      marked log = false
  | .sql (.markRefreshTokenUsed id), log =>
    ∃ t, readRecord log = some t ∧ t.isRevoked = false ∧ id = t.id ∧ marked log = false ∧
      created log = false ∧ storedAccess log = none
  | .sql (.getUserByID id), log => ∃ t, readRecord log = some t ∧ id = t.userID ∧ marked log = true
  | .sql (.createAccessToken p), log =>
    ∃ t u token now, readRecord log = some t ∧ t.isRevoked = false ∧ marked log = true ∧
      readUser log = some u ∧ storedAccess log = none ∧
      Minted env log (env.lib.uuidString u.id) u.email token ∧
      (clockReadings log).head? = some now ∧
      p = { tokenHash := env.lib.sha256Hex token, clientID := some t.clientID, userID := u.id
            scope := strPtr t.scope, expiresAt := add now env.expiry }
  | .sql (.createRefreshToken p), log =>
    ∃ t u a, readRecord log = some t ∧ t.isRevoked = false ∧ marked log = true ∧
      created log = false ∧ readUser log = some u ∧ storedAccess log = some a ∧
      p.Succeeds t u a
  | .sql (.getClient _), _ | .sql (.createAuditLogEntry _), _ | .now, _ | .randBytes _, _ => True
  | _, _ => False

/-- The results of a rotation: a response only after the token was marked and its successor
stored. -/
def rotationResult (env : Env) (r : Except AuthError TokenResponse) (log : Log effects) : Prop :=
  ∀ resp, r = .ok resp → ∃ t u, readRecord log = some t ∧ t.isRevoked = false ∧
    marked log = true ∧ created log = true ∧ readUser log = some u ∧
    Minted env log (env.lib.uuidString u.id) u.email resp.accessToken

/-- The protocol of a rotation. -/
def rotationProtocol (env : Env) (tokenHash : String) :
    Protocol effects (Except AuthError TokenResponse) :=
  ⟨rotationRequest env tokenHash, rotationResult env⟩

section Stages

variable {env : Env} {tokenHash : String} {log : Log effects} {record : RefreshToken}

theorem rotationResult_error {e : AuthError} : rotationResult env (.error e) log := by
  intro resp h
  cases h

theorem rotationResult_ok {user : User} {resp : TokenResponse} (hread : readRecord log = some record)
    (hlive : record.isRevoked = false) (hmark : marked log = true) (hnew : created log = true)
    (huser : readUser log = some user)
    (hmint : Minted env log (env.lib.uuidString user.id) user.email resp.accessToken) :
    rotationResult env (.ok resp) log := by
  intro resp' h
  obtain rfl := Except.ok.inj h
  exact ⟨record, user, hread, hlive, hmark, hnew, huser, hmint⟩

theorem replayDetected_obeys (hread : readRecord log = some record) (hrev : record.isRevoked = true)
    (hmark : marked log = false) :
    (replayDetected env record).Obeys (rotationProtocol env tokenHash) log := by
  refine ⟨⟨record, hread, hrev, rfl, hmark⟩, fun _ => ?_⟩
  have hlast : ∀ entry log, (env.logEvent entry (.ret (.error .invalidGrant))).Obeys
      (rotationProtocol env tokenHash) log :=
    fun entry log => logEvent_obeys trivial rotationResult_error fun _ => rotationResult_error
  exact logEvent_obeys trivial (hlast _ _) fun _ => hlast _ _

theorem issueSuccessor_obeys {user : User} {token : String} (hread : readRecord log = some record)
    (hlive : record.isRevoked = false) (hmark : marked log = true) (hnew : created log = false)
    (huser : readUser log = some user)
    (hacc : storedAccess log = none)
    (hmint : Minted env log (env.lib.uuidString user.id) user.email token) :
    (issueSuccessor env record.clientID record user token).Obeys (rotationProtocol env tokenHash) log := by
  refine ⟨trivial, fun now => ⟨⟨record, user, token, now, hread, hlive, hmark, huser, hacc,
    hmint.cons _, rfl, rfl⟩, ?_⟩⟩
  rintro (e | a)
  · exact rotationResult_error
  refine ⟨trivial, ?_⟩
  rintro (_ | bytes)
  · exact rotationResult_error
  refine ⟨trivial, fun now' => ⟨⟨record, user, a, hread, hlive, hmark, hnew, huser, rfl,
    rfl, rfl, rfl, rfl, rfl, rfl⟩, ?_⟩⟩
  rintro (e | t')
  · exact rotationResult_error
  exact logEvent_obeys trivial (rotationResult_ok hread hlive hmark rfl huser
      (((((hmint.cons _).cons _).cons _).cons _).cons _))
    fun r => rotationResult_ok hread hlive hmark rfl huser
      ((((((hmint.cons _).cons _).cons _).cons _).cons _).cons _)

theorem rotateRecord_obeys (hread : readRecord log = some record) (hlive : record.isRevoked = false)
    (hmark : marked log = false) (hnew : created log = false) (hacc : storedAccess log = none) :
    (rotateRecord env record.clientID record).Obeys (rotationProtocol env tokenHash) log := by
  refine ⟨⟨record, hread, hlive, rfl, hmark, hnew, hacc⟩, ?_⟩
  rintro (e | _)
  · exact rotationResult_error
  refine ⟨⟨record, hread, rfl, rfl⟩, ?_⟩
  rintro (e | user)
  · exact rotationResult_error
  refine Prog.Obeys.bind ⟨trivial, fun now => ⟨trivial, ?_⟩⟩
  rintro (_ | entropy)
  · exact rotationResult_error
  dsimp only
  split
  · exact rotationResult_error
  · next sig _ =>
    exact issueSuccessor_obeys hread hlive rfl hnew rfl hacc ⟨now, List.mem_cons_self, sig, rfl⟩

end Stages

/-- **The protocol of a rotation.** -/
theorem rotateRefreshToken_obeys (env : Env) (rawToken clientID clientSecret : String) :
    (rotateRefreshToken env rawToken clientID clientSecret).Obeys
      (rotationProtocol env (env.lib.sha256Hex rawToken)) [] := by
  unfold rotateRefreshToken
  split
  · exact rotationResult_error
  refine ⟨trivial, ?_⟩
  rintro (e | client)
  · cases e <;> exact rotationResult_error
  dsimp only
  split
  · exact rotationResult_error
  split
  · exact rotationResult_error
  refine ⟨⟨rfl, rfl, rfl, rfl, rfl, rfl⟩, ?_⟩
  rintro (e | record)
  · cases e <;> exact rotationResult_error
  dsimp only
  unfold checkRecord
  split
  · next hrev => exact replayDetected_obeys rfl hrev rfl
  · next hlive =>
    refine ⟨trivial, fun now => ?_⟩
    dsimp only
    split
    · exact rotationResult_error
    split
    · exact rotationResult_error
    · next hcid =>
      obtain rfl := not_not.mp hcid
      exact rotateRecord_obeys rfl (by simpa using hlive) rfl rfl rfl

end GoauthServer
