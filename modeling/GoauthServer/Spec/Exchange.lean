import GoauthServer.Service.Authorization
import GoauthServer.Spec.Log

/-!
# What an exchange may do

The protocol of `exchangeCodeForToken`: for every request that writes, the log that must be behind
it and the values it writes, in terms of what the call has read.
-/

namespace GoauthServer

open Interact GoTime

/-- The code is neither revoked nor used. -/
structure AuthorizationCode.Redeemable (c : AuthorizationCode) : Prop where
  unrevoked : c.isRevoked ≠ some true
  unused : c.usedAt = none

/-- `p` is the first token of the family `tokenFamilyID`, issued for the code `c` to the user `u`
and linked to the access token `a`. -/
structure CreateRefreshTokenParams.Starts (p : CreateRefreshTokenParams) (tokenFamilyID : UUID)
    (c : AuthorizationCode) (u : User) (a : AccessToken) : Prop where
  tokenFamilyID : p.tokenFamilyID = tokenFamilyID
  clientID : p.clientID = c.clientID
  userID : p.userID = u.id
  accessTokenID : p.accessTokenID = a.id
  previousTokenID : p.previousTokenID = none
  scope : p.scope = c.grantedScope

/-- The requests of an exchange of the code `code`. -/
def exchangeRequest (env : Env) (code : String) : Request → Log effects → Prop
  | .sql (.getAuthorizationCode c), log =>
    c = code ∧ readCode log = none ∧ redeemed log = false ∧ readUser log = none ∧
      storedAccess log = none ∧ created log = false
  | .sql (.markAuthorizationCodeUsed id), log =>
    ∃ c, readCode log = some c ∧ c.Redeemable ∧ id = c.id ∧ redeemed log = false ∧
      readUser log = none ∧ storedAccess log = none ∧ created log = false
  | .sql (.getUserByID id), log =>
    ∃ c, readCode log = some c ∧ id = c.userID ∧ redeemed log = true ∧ storedAccess log = none
  | .sql (.createAccessToken p), log =>
    ∃ c u token now, readCode log = some c ∧ c.Redeemable ∧ redeemed log = true ∧
      readUser log = some u ∧ storedAccess log = none ∧
      Minted env log (env.lib.uuidString u.id) u.email token ∧
      (clockReadings log).head? = some now ∧
      p = { tokenHash := env.lib.sha256Hex token, clientID := some c.clientID, userID := u.id
            scope := c.scope, expiresAt := add now env.expiry }
  | .sql (.createRefreshToken p), log =>
    ∃ c u a tokenFamilyID, readCode log = some c ∧ c.Redeemable ∧ redeemed log = true ∧
      created log = false ∧ readUser log = some u ∧ storedAccess log = some a ∧
      drawnUUID log = some tokenFamilyID ∧ p.Starts tokenFamilyID c u a
  | .newUUID, log => created log = false
  | .sql (.getClient _), _ | .sql (.createAuditLogEntry _), _ | .now, _ | .randBytes _, _ => True
  | _, _ => False

/-- The results of an exchange: a response only after the code was marked and an access token of
its user stored. -/
def exchangeResult (env : Env) (r : Except AuthError TokenResponse) (log : Log effects) : Prop :=
  ∀ resp, r = .ok resp → ∃ c u, readCode log = some c ∧ c.Redeemable ∧ redeemed log = true ∧
    readUser log = some u ∧ (storedAccess log).isSome = true ∧
    Minted env log (env.lib.uuidString u.id) u.email resp.accessToken

/-- The protocol of an exchange. -/
def exchangeProtocol (env : Env) (code : String) :
    Protocol effects (Except AuthError TokenResponse) :=
  ⟨exchangeRequest env code, exchangeResult env⟩

section Stages

variable {env : Env} {code : String} {log : Log effects} {authCode : AuthorizationCode}
  {user : User} {token : String}

theorem exchangeResult_error {e : AuthError} : exchangeResult env (.error e) log := by
  intro resp h
  cases h

theorem exchangeResult_ok {resp : TokenResponse} (hread : readCode log = some authCode)
    (hc : authCode.Redeemable) (hred : redeemed log = true) (huser : readUser log = some user)
    (hacc : (storedAccess log).isSome = true)
    (hmint : Minted env log (env.lib.uuidString user.id) user.email resp.accessToken) :
    exchangeResult env (.ok resp) log := by
  intro resp' h
  obtain rfl := Except.ok.inj h
  exact ⟨authCode, user, hread, hc, hred, huser, hacc, hmint⟩

theorem issueRefreshToken_obeys {a : AccessToken} (hread : readCode log = some authCode)
    (hc : authCode.Redeemable) (hred : redeemed log = true) (hnew : created log = false)
    (huser : readUser log = some user) (hacc : storedAccess log = some a)
    (hmint : Minted env log (env.lib.uuidString user.id) user.email token) :
    (issueRefreshToken env authCode.clientID authCode user a token).Obeys
      (exchangeProtocol env code) log := by
  refine ⟨trivial, ?_⟩
  rintro (_ | bytes)
  · exact exchangeResult_error
  refine ⟨hnew, fun F => ⟨trivial, fun now => ⟨⟨authCode, user, a, F, hread, hc, hred, hnew, huser,
    hacc, rfl, rfl, rfl, rfl, rfl, rfl, rfl⟩, ?_⟩⟩⟩
  rintro (e | t)
  · exact exchangeResult_error
  have hsome : (storedAccess log).isSome = true := by rw [hacc]; rfl
  exact logEvent_obeys trivial
    (exchangeResult_ok hread hc hred huser hsome ((((hmint.cons _).cons _).cons _).cons _))
    fun r => exchangeResult_ok hread hc hred huser hsome (((((hmint.cons _).cons _).cons _).cons _).cons _)

theorem issueTokens_obeys {client : Client} (hread : readCode log = some authCode) (hc : authCode.Redeemable)
    (hred : redeemed log = true) (hnew : created log = false) (huser : readUser log = some user)
    (hacc : storedAccess log = none) (hmint : Minted env log (env.lib.uuidString user.id) user.email token) :
    (issueTokens env client authCode.clientID authCode user token).Obeys (exchangeProtocol env code) log := by
  refine ⟨trivial, fun now => ⟨⟨authCode, user, token, now, hread, hc, hred, huser, hacc,
    hmint.cons _, rfl, rfl⟩, ?_⟩⟩
  rintro (e | a)
  · exact exchangeResult_error
  dsimp only
  split
  · exact issueRefreshToken_obeys hread hc hred hnew huser rfl ((hmint.cons _).cons _)
  · exact exchangeResult_ok hread hc hred huser rfl ((hmint.cons _).cons _)

theorem redeemCode_obeys {client : Client} (hread : readCode log = some authCode)
    (hc : authCode.Redeemable) (hred : redeemed log = false) (hnew : created log = false)
    (huser : readUser log = none) (hacc : storedAccess log = none) :
    (redeemCode env client authCode.clientID authCode).Obeys (exchangeProtocol env code) log := by
  refine ⟨⟨authCode, hread, hc, rfl, hred, huser, hacc, hnew⟩, ?_⟩
  rintro (e | _)
  · exact exchangeResult_error
  refine ⟨⟨authCode, hread, rfl, rfl, hacc⟩, ?_⟩
  rintro (e | user)
  · exact exchangeResult_error
  refine Prog.Obeys.bind ⟨trivial, fun now => ⟨trivial, ?_⟩⟩
  rintro (_ | entropy)
  · exact exchangeResult_error
  dsimp only
  split
  · exact exchangeResult_error
  · next sig _ =>
    exact issueTokens_obeys hread hc rfl hnew rfl hacc ⟨now, List.mem_cons_self, sig, rfl⟩

/-- A code that passed the checks belongs to the client. -/
theorem clientID_of_checkCode {clientID : UUID} {redirectURI : String} {now : Time}
    (h : checkCode authCode clientID redirectURI now = none) : authCode.clientID = clientID := by
  by_contra hne
  unfold checkCode at h
  rw [if_pos hne] at h
  split at h <;> cases h

end Stages

/-- **The protocol of an exchange.** -/
theorem exchangeCodeForToken_obeys (env : Env) (code : String) (clientID : UUID)
    (clientSecret redirectURI : String) :
    (exchangeCodeForToken env code clientID clientSecret redirectURI).Obeys
      (exchangeProtocol env code) [] := by
  refine ⟨trivial, ?_⟩
  rintro (e | client)
  · cases e <;> exact exchangeResult_error
  dsimp only
  split
  · exact exchangeResult_error
  split
  · exact exchangeResult_error
  refine ⟨⟨rfl, rfl, rfl, rfl, rfl, rfl⟩, ?_⟩
  rintro (e | authCode)
  · cases e <;> exact exchangeResult_error
  dsimp only
  split
  · exact exchangeResult_error
  next hrev =>
  split
  · exact exchangeResult_error
  next hused =>
  refine ⟨trivial, fun now => ?_⟩
  dsimp only
  split
  · exact exchangeResult_error
  · next hcheck =>
    obtain rfl := clientID_of_checkCode hcheck
    exact redeemCode_obeys rfl ⟨hrev, by simpa using hused⟩ rfl rfl rfl rfl

/-! ### The exchange, in parts -/

/-- The checks that need the clock, and the redemption behind them. -/
def exchangeTimed (env : Env) (client : Client) (clientID : UUID) (redirectURI : String)
    (authCode : AuthorizationCode) (now : Time) : Call (Except AuthError TokenResponse) :=
  match checkCode authCode clientID redirectURI now with
  | some e => .ret (.error e)
  | none => redeemCode env client clientID authCode

/-- The exchange, once the client is authenticated. -/
def exchangeAuthorized (env : Env) (code : String) (client : Client) (clientID : UUID)
    (redirectURI : String) : Call (Except AuthError TokenResponse) :=
  Call.sql (.getAuthorizationCode code) fun
  | .error .noRows => .ret (.error .codeNotFound)
  | .error e => .ret (.error (.ofDB "getting authorization code" e))
  | .ok authCode =>
    if authCode.isRevoked = some true then .ret (.error .codeRevoked)
    else if authCode.usedAt.isSome then .ret (.error .codeUsed)
    else
      Call.now (exchangeTimed env client clientID redirectURI authCode)

theorem exchangeCodeForToken_eq (env : Env) (code : String) (clientID : UUID)
    (clientSecret redirectURI : String) :
    exchangeCodeForToken env code clientID clientSecret redirectURI = Call.sql (.getClient clientID) fun
      | .error .noRows => .ret (.error .clientNotFound)
      | .error e => .ret (.error (.ofDB "getting client" e))
      | .ok client =>
        if client.isActive ≠ some true then .ret (.error .clientInactive)
        else if client.clientSecretHash ≠ env.lib.sha256Hex clientSecret then
          .ret (.error .invalidClientSecret)
        else exchangeAuthorized env code client clientID redirectURI := rfl

/-- What follows the look-up of the code. -/
def exchangeFound (env : Env) (client : Client) (clientID : UUID) (redirectURI : String) :
    Except DBError AuthorizationCode → Call (Except AuthError TokenResponse)
  | .error .noRows => .ret (.error .codeNotFound)
  | .error e => .ret (.error (.ofDB "getting authorization code" e))
  | .ok authCode =>
    if authCode.isRevoked = some true then .ret (.error .codeRevoked)
    else if authCode.usedAt.isSome then .ret (.error .codeUsed)
    else
      Call.now (exchangeTimed env client clientID redirectURI authCode)

theorem exchangeAuthorized_eq (env : Env) (code : String) (client : Client) (clientID : UUID)
    (redirectURI : String) :
    exchangeAuthorized env code client clientID redirectURI =
      Call.sql (.getAuthorizationCode code) (exchangeFound env client clientID redirectURI) := by
  refine congrArg (Call.sql _) (funext fun r => ?_)
  rcases r with e | c
  · cases e <;> rfl
  · rfl

end GoauthServer
