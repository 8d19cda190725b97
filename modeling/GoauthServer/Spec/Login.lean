import GoauthServer.Spec.Log
import GoauthServer.Spec.Quiet

/-!
# What the other issuing operations may do

The protocols of `login`, `changePasswordHandler` and `handleProviderCallback`. Each says for whom
the operation issues something: a login for the user whose password was presented, a change of
password for the user of the challenge, a callback for the user the identity provider named. All
other requests are quiet.
-/

namespace GoauthServer

open Interact GoTime

/-! ### Login -/

/-- `u` was looked up by email, and `password` is the password of the row that was read. -/
def PasswordChecked (env : Env) (password : String) (log : Log effects) (u : User) : Prop :=
  authUser log = some u ∧ ∃ hash, u.passwordHash = some hash ∧
    verifyArgon2id env password hash = .ok true

/-- The requests of a login. -/
def loginRequest (env : Env) (email password : String) : Request → Log effects → Prop
  | .sql (.getUserByEmailForAuth e), log => e = email ∧ authUser log = none ∧ signedIn log = none
  | .sql (.updateLastLogin id _), log => ∃ u, PasswordChecked env password log u ∧ id = u.id
  | .sql (.createAccessToken p), log =>
    ∃ u token, signedIn log = some u ∧ p.userID = u.id ∧
      Stores env log (env.lib.uuidString u.id) u.email token p
  | q, _ => q.Quiet

/-- `token` is a password-change challenge for this user. -/
def ChallengeFor (env : Env) (userID : UUID) (token : String) : Prop :=
  ∃ now tag, token = Jwt.signedString headerHS256
    (env.lib.challengeClaims.marshal (env.challengeClaims userID now)) tag

/-- A reply hands out a token only for `u`. -/
structure LoginReply.IssuesTo (env : Env) (u : UUID) (r : LoginReply) : Prop where
  access : ∀ token expiresIn, r = .accessToken token expiresIn → AccessFor env u token
  challenge : ∀ token, r = .challenge token → ChallengeFor env u token

/-- The reply hands out no token. -/
def LoginReply.Empty : LoginReply → Prop
  | .accessToken _ _ | .challenge _ => False
  | _ => True

/-- The results of a login: a token only for the user who was signed in. -/
def loginResult (env : Env) (r : LoginReply) (log : Log effects) : Prop :=
  r.Empty ∨ ∃ u, signedIn log = some u ∧ r.IssuesTo env u.id

/-- The protocol of a login. -/
def loginProtocol (env : Env) (email password : String) : Protocol effects LoginReply :=
  ⟨loginRequest env email password, loginResult env⟩

section Login

variable {env : Env} {email password sourceIP : String} {log : Log effects} {user : User}

/-- The first half of a login: the credentials. -/
def verifyProtocol (env : Env) (email password : String) : Protocol effects Verified :=
  ⟨loginRequest env email password, fun r log => ∀ u, r = .success u → signedIn log = some u⟩

theorem verify_failed {e : AuthError} : (verifyProtocol env email password).result (.failed e) log := by
  intro u h
  cases h

theorem verify_locked {t : Time} : (verifyProtocol env email password).result (.locked t) log := by
  intro u h
  cases h

theorem failedAttempt_obeys :
    (failedAttempt env user email sourceIP).Obeys (verifyProtocol env email password) log := by
  refine ⟨rfl, ?_⟩
  rintro (e | updated)
  · exact verify_failed
  refine ⟨trivial, fun now => ?_⟩
  dsimp only
  split
  · -- the threshold is reached: lock the account
    refine ⟨trivial, fun now => ⟨rfl, ?_⟩⟩
    rintro (e | _)
    · exact verify_failed
    · exact logEvent_obeys rfl verify_locked fun _ => verify_locked
  · exact logEvent_obeys rfl verify_failed fun _ => verify_failed

theorem successfulAttempt_obeys (h : PasswordChecked env password log user) :
    (successfulAttempt user).Obeys (verifyProtocol env email password) log := by
  refine ⟨rfl, ?_⟩
  rintro (e | _)
  · exact verify_failed
  refine ⟨trivial, fun now => ⟨⟨user, h, rfl⟩, ?_⟩⟩
  rintro (e | updated)
  · exact verify_failed
  · intro u hu
    obtain rfl := Verified.success.inj hu
    rfl

theorem checkPassword_obeys (hread : authUser log = some user) :
    (checkPassword env user email password sourceIP).Obeys (verifyProtocol env email password) log := by
  unfold checkPassword
  split
  · exact verify_failed
  next hash hhash =>
  split
  · exact verify_failed
  · exact verify_failed
  · exact failedAttempt_obeys
  · next hok => exact successfulAttempt_obeys ⟨hread, hash, hhash, hok⟩

theorem verifyCredentials_obeys : (verifyCredentials env email password sourceIP).Obeys
      (verifyProtocol env email password) [] := by
  refine ⟨⟨rfl, rfl, rfl⟩, ?_⟩
  rintro (e | user)
  · cases e <;> exact verify_failed
  dsimp only
  split
  · exact checkPassword_obeys rfl
  · refine ⟨trivial, fun now => ?_⟩
    dsimp only
    split
    · exact verify_locked
    · refine ⟨rfl, ?_⟩
      rintro (e | _)
      · exact verify_failed
      · exact checkPassword_obeys rfl

theorem loginResult_empty {r : LoginReply} (h : r.Empty) : loginResult env r log := Or.inl h

theorem loginResult_access {token : String} {expiresIn : Int64} (hin : signedIn log = some user)
    (htok : AccessFor env user.id token) : loginResult env (.accessToken token expiresIn) log := by
  refine Or.inr ⟨user, hin, fun token' _ h => ?_, fun _ h => by cases h⟩
  obtain ⟨rfl, _⟩ := LoginReply.accessToken.inj h
  exact htok

theorem loginAccessToken_obeys (hin : signedIn log = some user) :
    (loginAccessToken env user).Obeys (loginProtocol env email password) log := by
  refine Prog.Obeys.bind ⟨trivial, fun now => ⟨trivial, ?_⟩⟩
  rintro (_ | entropy)
  · exact loginResult_empty trivial
  dsimp only
  split
  · exact loginResult_empty trivial
  next sig _ =>
  -- the older tokens are revoked before the new one is stored
  refine Prog.Obeys.bind ⟨rfl, ?_⟩
  rintro (e | _)
  · exact loginResult_empty trivial
  have hmint : ∀ log', Minted env (⟨.now, now⟩ :: log') (env.lib.uuidString user.id) user.email
      (env.accessToken (env.accessClaims (env.lib.uuidString user.id) user.email now) sig) :=
    fun log' => ⟨now, List.mem_cons_self, sig, rfl⟩
  refine Prog.Obeys.bind ⟨trivial, fun now' => ⟨⟨user, _, hin, rfl,
    (((hmint log).cons _).cons _).cons _, rfl, now', rfl, rfl⟩, ?_⟩⟩
  rintro (e | _)
  · exact loginResult_empty trivial
  · exact loginResult_access hin (hmint log).accessFor

theorem loginChallenge_obeys (hin : signedIn log = some user) :
    (loginChallenge env user).Obeys (loginProtocol env email password) log := by
  refine Prog.Obeys.bind ?_
  unfold generateChallengeToken
  split
  · exact loginResult_empty trivial
  · refine ⟨trivial, fun now => Or.inr ⟨user, hin, ⟨fun _ _ h => (by cases h), ?_⟩⟩⟩
    intro token h
    obtain rfl := LoginReply.challenge.inj h
    exact ⟨now, _, rfl⟩

end Login

/-- **The protocol of a login.** -/
theorem login_obeys (env : Env) (email password sourceIP : String) :
    (login env email password sourceIP).Obeys (loginProtocol env email password) [] := by
  unfold login
  split
  · exact loginResult_empty trivial
  refine verifyCredentials_obeys.andThen (fun _ _ h => h) fun r log hr => ?_
  split
  · exact loginResult_empty trivial
  · exact loginResult_empty trivial
  · exact loginResult_empty trivial
  · next user =>
    have hin := hr user rfl
    split
    · exact loginChallenge_obeys hin
    · exact loginAccessToken_obeys hin

/-! ### Change of password -/

/-- The challenge was valid for `userID` when the clock was read. -/
def Challenged (env : Env) (challengeToken : String) (log : Log effects) (userID : UUID) : Prop :=
  ∃ key, env.lib.hexDecode env.cfg.sessionSigningKey = some key ∧
    ∃ now ∈ clockReadings log, env.checkChallengeToken key challengeToken now = .ok userID

/-- The requests of a change of password. -/
def changePasswordRequest (env : Env) (challengeToken : String) : Request → Log effects → Prop
  | .sql (.getUserByID id), log => Challenged env challengeToken log id ∧ readUser log = none
  | .sql (.createAccessToken p), log =>
    ∃ u token, readUser log = some u ∧ Challenged env challengeToken log p.userID ∧
      Stores env log (env.lib.uuidString u.id) u.email token p
  | q, _ => q.Quiet

/-- The results of a change of password: a token only for the user who was loaded. -/
def changePasswordResult (env : Env) (r : LoginReply) (log : Log effects) : Prop :=
  r.Empty ∨ ∃ u, readUser log = some u ∧ r.IssuesTo env u.id

/-- The protocol of a change of password. -/
def changePasswordProtocol (env : Env) (challengeToken : String) : Protocol effects LoginReply :=
  ⟨changePasswordRequest env challengeToken, changePasswordResult env⟩

section ChangePassword

variable {env : Env} {challengeToken : String} {log : Log effects} {user : User} {userID : UUID}

theorem Challenged.cons (h : Challenged env challengeToken log userID) (e : Event effects) :
    Challenged env challengeToken (e :: log) userID := by
  obtain ⟨key, hkey, now, hnow, hok⟩ := h
  obtain ⟨a, ha, hclock⟩ := List.mem_filterMap.mp hnow
  exact ⟨key, hkey, now, List.mem_filterMap.mpr ⟨a, List.mem_cons_of_mem e ha, hclock⟩, hok⟩

theorem changePasswordResult_empty {r : LoginReply} (h : r.Empty) : changePasswordResult env r log := Or.inl h

/-- The middle part: what `ChangePassword` returns names the user it has loaded. -/
def passwordChanged (env : Env) (challengeToken : String) (userID : UUID) :
    Protocol effects (Except AuthError ChangePasswordResult) :=
  ⟨changePasswordRequest env challengeToken, fun r log => ∀ result, r = .ok result →
    Challenged env challengeToken log userID ∧ ∃ u, readUser log = some u ∧
      result = ⟨env.lib.uuidString u.id, u.email⟩⟩

theorem passwordChanged_error {e : AuthError} :
    (passwordChanged env challengeToken userID).result (.error e) log := by
  intro result h
  cases h

theorem storeNewPassword_obeys {hash : String} (hch : Challenged env challengeToken log userID)
    (hread : readUser log = some user) :
    (storeNewPassword env userID user hash).Obeys (passwordChanged env challengeToken userID) log := by
  refine ⟨rfl, ?_⟩
  rintro (e | _)
  · exact passwordChanged_error
  refine ⟨rfl, ?_⟩
  rintro (e | _)
  · exact passwordChanged_error
  refine ⟨rfl, fun r => ?_⟩
  -- the two audit entries change neither what was read nor the challenge
  have hlast : ∀ log', readUser log' = some user → Challenged env challengeToken log' userID →
      (passwordChanged env challengeToken userID).result
        (.ok ⟨env.lib.uuidString user.id, user.email⟩) log' := by
    intro log' hread' hch' result hresult
    obtain rfl := Except.ok.inj hresult
    exact ⟨hch', user, hread', rfl⟩
  have hch' := fun e e' e'' : Event effects => ((hch.cons e).cons e').cons e''
  refine logEvent_obeys rfl
    (logEvent_obeys rfl (hlast _ hread (hch' _ _ _)) fun _ => hlast _ hread ((hch' _ _ _).cons _))
    fun _ => logEvent_obeys rfl (hlast _ hread ((hch' _ _ _).cons _))
      fun _ => hlast _ hread (((hch' _ _ _).cons _).cons _)

theorem changePassword_obeys {newPassword : String}
    (hch : Challenged env challengeToken log userID) (hnone : readUser log = none) :
    (changePassword env userID newPassword).Obeys (passwordChanged env challengeToken userID) log := by
  refine ⟨⟨hch, hnone⟩, ?_⟩
  rintro (e | user)
  · cases e <;> exact passwordChanged_error
  dsimp only
  split
  · exact passwordChanged_error
  split
  · exact passwordChanged_error
  refine ⟨trivial, ?_⟩
  rintro (_ | salt)
  · exact passwordChanged_error
  · exact storeNewPassword_obeys ((hch.cons _).cons _) rfl

theorem changedPasswordToken_obeys (hch : Challenged env challengeToken log userID)
    (hread : readUser log = some user) :
    (changedPasswordToken env userID ⟨env.lib.uuidString user.id, user.email⟩).Obeys
      (changePasswordProtocol env challengeToken) log := by
  refine Prog.Obeys.bind ⟨trivial, fun now => ⟨trivial, ?_⟩⟩
  rintro (_ | entropy)
  · exact changePasswordResult_empty trivial
  dsimp only
  split
  · exact changePasswordResult_empty trivial
  next sig _ =>
  have hmint : Minted env (⟨.now, now⟩ :: log) (env.lib.uuidString user.id) user.email
      (env.accessToken (env.accessClaims (env.lib.uuidString user.id) user.email now) sig) :=
    ⟨now, List.mem_cons_self, sig, rfl⟩
  refine Prog.Obeys.bind ⟨trivial, fun now' => ⟨⟨user, _, hread, ((hch.cons _).cons _).cons _,
    (hmint.cons _).cons _, rfl, now', rfl, rfl⟩, ?_⟩⟩
  rintro (e | _)
  · exact changePasswordResult_empty trivial
  · refine Or.inr ⟨user, hread, fun token _ h => ?_, fun _ h => by cases h⟩
    obtain ⟨rfl, _⟩ := LoginReply.accessToken.inj h
    exact hmint.accessFor

end ChangePassword

/-- **The protocol of a change of password.** -/
theorem changePasswordHandler_obeys (env : Env) (challengeToken newPassword : String) :
    (changePasswordHandler env challengeToken newPassword).Obeys
      (changePasswordProtocol env challengeToken) [] := by
  refine Prog.Obeys.bind ?_
  unfold validateChallengeToken
  split
  · exact changePasswordResult_empty trivial
  next key hkey =>
  refine ⟨trivial, fun now => ?_⟩
  rw [Prog.Obeys.ret_iff]
  cases hok : env.checkChallengeToken key challengeToken now with
  | error e => exact changePasswordResult_empty trivial
  | ok userID =>
    have hch : Challenged env challengeToken [⟨.now, now⟩] userID :=
      ⟨key, hkey, now, List.mem_cons_self, hok⟩
    refine (changePassword_obeys hch rfl).andThen (fun _ _ h => h) fun r log hr => ?_
    rcases r with e | result
    · exact changePasswordResult_empty trivial
    · obtain ⟨hch', u, hread, rfl⟩ := hr result rfl
      exact changedPasswordToken_obeys hch' hread

/-! ### The callback of an identity provider -/

/-- The identity provider has named the user `info`. -/
def Named (log : Log effects) (info : ProviderUserInfo) : Prop :=
  ∃ reply, userInfo log = some reply ∧ readUserInfo reply = .ok info

/-- The provider row that a call has looked up. -/
def Event.provider? : Event effects → Option OauthProvider
  | ⟨.sql (.getOAuthProviderByClientAndName _ _), .ok p⟩ => some p
  | _ => none

/-- The provider row the call has looked up. -/
def readProvider (log : Log effects) : Option OauthProvider := log.findSome? Event.provider?

/-- The requests of a callback of the provider `providerName`. -/
def callbackRequest (providerName : String) : Request → Log effects → Prop
  | .sql (.getOAuthProviderByClientAndName _ name), log =>
    name = providerName ∧ readProvider log = none
  | .sql (.getUserByProviderID provider providerID), log =>
    ∃ p info, readProvider log = some p ∧ Named log info ∧ provider = strPtr p.name ∧
      providerID = strPtr info.sub ∧ foundUser log = none ∧ signedIn log = none
  | .sql (.updateLastLogin id _), log =>
    ∃ u, foundUser log = some u ∧ id = u.id ∧ signedIn log = none
  | .sql (.createUser _), log => signedIn log = none
  | .sql (.createAuthorizationCode p), log => ∃ u, signedIn log = some u ∧ p.userID = u.id
  | q, _ => q.Quiet

/-- A callback writes no clients. -/
theorem keepsClients_of_callbackRequest {providerName : String} {q : Request} {log : Log effects}
    (h : callbackRequest providerName q log) : q.keepsClients = true := by
  cases q with
  | sql q => cases q <;> first | rfl | cases h
  | _ => rfl

/-- The protocol of a callback. -/
def callbackProtocol (providerName : String) : Protocol effects (Except AuthError String) :=
  ⟨callbackRequest providerName, fun _ _ => True⟩

section Callback

variable {env : Env} {providerName : String} {log : Log effects} {provider : OauthProvider}
  {p : OAuthProviderWithSecret}

/-- The middle part: who the user is. -/
def userResolved (providerName : String) : Protocol effects (Except AuthError User) :=
  ⟨callbackRequest providerName, fun r log => ∀ u, r = .ok u → signedIn log = some u⟩

theorem userResolved_error {e : AuthError} : (userResolved providerName).result (.error e) log := by
  intro u h
  cases h

theorem userResolved_ok {u : User} (h : signedIn log = some u) :
    (userResolved providerName).result (.ok u) log := by
  intro u' hu'
  obtain rfl := Except.ok.inj hu'
  exact h

theorem upsertUser_obeys {info : ProviderUserInfo} (hp : readProvider log = some provider)
    (hnamed : Named log info) (hfound : foundUser log = none) (hin : signedIn log = none) :
    (upsertUser provider.name info).Obeys (userResolved providerName) log := by
  refine ⟨⟨provider, info, hp, hnamed, rfl, rfl, hfound, hin⟩, ?_⟩
  rintro (e | user)
  · cases e with
    | noRows =>
      -- a new user
      refine ⟨trivial, fun now => ⟨hin, ?_⟩⟩
      rintro (e | user)
      · exact userResolved_error
      · exact userResolved_ok rfl
    | _ => exact userResolved_error
  · refine ⟨trivial, fun now => ⟨⟨user, rfl, rfl, hin⟩, ?_⟩⟩
    rintro (e | user')
    · exact userResolved_error
    · exact userResolved_ok rfl

theorem resolveProviderUser_obeys {code callbackURL : String} (hp : readProvider log = some provider)
    (hname : p.name = provider.name) (hfound : foundUser log = none) (hin : signedIn log = none) :
    (resolveProviderUser p code callbackURL).Obeys (userResolved providerName) log := by
  refine ⟨trivial, ?_⟩
  rintro (_ | providerToken)
  · exact userResolved_error
  refine ⟨trivial, fun reply => ?_⟩
  dsimp only
  split
  · exact userResolved_error
  · next info hinfo =>
    rw [hname]
    exact upsertUser_obeys hp ⟨reply, rfl, hinfo⟩ hfound hin

theorem storeAuthorizationCode_obeys {clientID : UUID} {user : User}
    {clientRedirectURI : String} {scope : Option String} (hin : signedIn log = some user) :
    (storeAuthorizationCode clientID p user clientRedirectURI scope).Obeys
      (callbackProtocol providerName) log := by
  refine ⟨trivial, ?_⟩
  rintro (_ | bytes)
  · trivial
  refine ⟨trivial, fun now => ⟨⟨user, hin, rfl⟩, ?_⟩⟩
  rintro (e | _) <;> trivial

end Callback

/-- **The protocol of a callback.** -/
theorem handleProviderCallback_obeys (env : Env) (clientID : UUID)
    (providerName code callbackURL clientRedirectURI : String) (scope : Option String) :
    (handleProviderCallback env clientID providerName code callbackURL clientRedirectURI
      scope).Obeys (callbackProtocol providerName) [] := by
  refine ⟨rfl, ?_⟩
  rintro (e | client)
  · cases e <;> trivial
  dsimp only
  split
  · trivial
  refine Prog.Obeys.bind ⟨⟨rfl, rfl⟩, ?_⟩
  rintro (e | row)
  · cases e <;> trivial
  dsimp only
  split
  · trivial
  rw [Prog.Obeys.ret_iff]
  dsimp only
  split
  · trivial
  refine (resolveProviderUser_obeys rfl rfl rfl rfl).andThen (fun _ _ h => h) fun r log hr => ?_
  rcases r with e | user
  · trivial
  · exact storeAuthorizationCode_obeys (hr user rfl)

end GoauthServer
