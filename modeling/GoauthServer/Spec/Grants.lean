import GoauthServer.Spec.Operations

/-!
# What a grant rests on

The protocols of the operations say which rows a call has read before it writes. Here is what they
leave out: that the client was authenticated, that the code or the token it presented is its own, where
the client, the redirect URI, the scope and the identity in a new row come from, and that a token of the
direct login is for a user who does not owe a change of password. These are protocols of their own, to
be used together with the others (`Prog.Obeys.and`).
-/

namespace GoauthServer

open Interact

variable {log : Log effects} {q : Request}

/-! ### After the checks -/

/-- The requests of a call that has checked its grant: it does not look up or mark another one. -/
def Request.Follows : Request → Prop
  | .sql (.getAuthorizationCode _) | .sql (.getRefreshTokenByHash _)
  | .sql (.markAuthorizationCodeUsed _) | .sql (.markRefreshTokenUsed _)
  | .sql .deleteExpiredAuthorizationCodes | .sql (.deleteOAuthProvider _) => False
  | _ => True

theorem follows_of_issues {clientID : UUID} (q : Request) (hq : q.Issues clientID) : q.Follows := by
  cases q with
  | sql q => cases q <;> trivial
  | _ => trivial

/-! ### Clients -/

/-- The call has authenticated the client `clientID`: its row is active, and has the hash of the
secret. -/
def Authenticated (env : Env) (clientID : UUID) (clientSecret : String) (log : Log effects) : Prop :=
  ∃ client : Client, (⟨.sql (.getClient clientID), .ok client⟩ : Event effects) ∈ log ∧
    client.isActive = some true ∧ client.clientSecretHash = env.lib.sha256Hex clientSecret

theorem Authenticated.cons {env : Env} {clientID : UUID} {clientSecret : String}
    (h : Authenticated env clientID clientSecret log) (e : Event effects) :
    Authenticated env clientID clientSecret (e :: log) := by
  obtain ⟨client, hmem, hrest⟩ := h
  exact ⟨client, List.mem_cons_of_mem e hmem, hrest⟩

/-! ### The exchange -/

/-- The client is authenticated, and the code it presented is its own, for this redirect URI. -/
structure CodeGrant (env : Env) (clientID : UUID) (clientSecret redirectURI : String)
    (log : Log effects) : Prop where
  authenticated : Authenticated env clientID clientSecret log
  code : ∃ c, readCode log = some c ∧ c.clientID = clientID ∧ c.redirectUri = redirectURI

/-- An exchange stores tokens on the strength of a code. -/
def exchangeGrantRequest (env : Env) (clientID : UUID) (clientSecret redirectURI : String) :
    Request → Log effects → Prop
  | .sql (.createAccessToken _), log | .sql (.createRefreshToken _), log =>
    CodeGrant env clientID clientSecret redirectURI log
  | _, _ => True

def exchangeGrant (env : Env) (clientID : UUID) (clientSecret redirectURI : String) :
    Protocol effects (Except AuthError TokenResponse) :=
  ⟨exchangeGrantRequest env clientID clientSecret redirectURI, fun _ _ => True⟩

namespace CodeGrant

variable {env : Env} {clientID : UUID} {clientSecret redirectURI : String} {log : Log effects}

theorem cons (h : CodeGrant env clientID clientSecret redirectURI log) {q : Request} (hq : q.Follows)
    (r : q.Reply) : CodeGrant env clientID clientSecret redirectURI (⟨q, r⟩ :: log) where
  authenticated := h.authenticated.cons _
  code := by
    rw [readCode_of_ne]
    · exact h.code
    · rintro code rfl
      exact hq

/-- The rest of an exchange, once its code is checked. -/
theorem obeys (h : CodeGrant env clientID clientSecret redirectURI log)
    {p : Call (Except AuthError TokenResponse)} (hp : p.Only Request.Follows) :
    p.Obeys (exchangeGrant env clientID clientSecret redirectURI) log := by
  refine hp.obeys_of_stable (G := CodeGrant env clientID clientSecret redirectURI)
    (fun q r log hq h => h.cons hq r) ?_ (fun _ _ _ => trivial) h
  intro q log _ h
  cases q with
  | sql q => cases q <;> first | exact h | trivial
  | _ => trivial

end CodeGrant

/-- A code that passed the checks is for the redirect URI of the request. -/
theorem redirectUri_of_checkCode {authCode : AuthorizationCode} {clientID : UUID} {redirectURI : String}
    {now : Time} (h : checkCode authCode clientID redirectURI now = none) :
    authCode.redirectUri = redirectURI := by
  by_contra hne
  unfold checkCode at h
  rw [if_pos hne] at h
  split at h
  · cases h
  · split at h <;> cases h

/-- **The grant of an exchange.** -/
theorem exchangeCodeForToken_grant (env : Env) (code : String) (clientID : UUID)
    (clientSecret redirectURI : String) :
    (exchangeCodeForToken env code clientID clientSecret redirectURI).Obeys
      (exchangeGrant env clientID clientSecret redirectURI) [] := by
  refine ⟨trivial, ?_⟩
  rintro (e | client)
  · cases e <;> trivial
  dsimp only
  split
  · trivial
  next hactive =>
  split
  · trivial
  next hsecret =>
  refine ⟨trivial, ?_⟩
  rintro (e | authCode)
  · cases e <;> trivial
  dsimp only
  split
  · trivial
  split
  · trivial
  refine ⟨trivial, fun now => ?_⟩
  dsimp only
  split
  · trivial
  next hcheck =>
  refine ⟨trivial, ?_⟩
  rintro (e | c)
  · trivial
  -- from here on the grant is in the log
  have hgrant : CodeGrant env clientID clientSecret redirectURI
      [⟨.sql (.markAuthorizationCodeUsed authCode.id), .ok c⟩, ⟨.now, now⟩,
        ⟨.sql (.getAuthorizationCode code), .ok authCode⟩, ⟨.sql (.getClient clientID), .ok client⟩] :=
    ⟨⟨client, by simp, not_not.mp hactive, not_not.mp hsecret⟩, authCode, rfl,
      clientID_of_checkCode hcheck, redirectUri_of_checkCode hcheck⟩
  refine hgrant.obeys ⟨trivial, ?_⟩
  rintro (e | user)
  · trivial
  refine (generateAccessToken_only trivial (fun _ => trivial) env _ _).bind ?_
  rintro (e | token)
  · trivial
  · exact (issueTokens_only ..).mono follows_of_issues

/-! ### The rotation -/

/-- The client `cid`, named by `clientID`, is authenticated, and the refresh token it presented is its
own. -/
structure TokenGrant (env : Env) (clientID clientSecret : String) (cid : UUID) (log : Log effects) :
    Prop where
  parsed : env.lib.uuidParse clientID = some cid
  authenticated : Authenticated env cid clientSecret log
  record : ∃ t, readRecord log = some t ∧ t.clientID = cid

/-- A rotation stores tokens on the strength of a refresh token. -/
def rotationGrantRequest (env : Env) (clientID clientSecret : String) : Request → Log effects → Prop
  | .sql (.createAccessToken _), log | .sql (.createRefreshToken _), log =>
    ∃ cid, TokenGrant env clientID clientSecret cid log
  | _, _ => True

def rotationGrant (env : Env) (clientID clientSecret : String) :
    Protocol effects (Except AuthError TokenResponse) :=
  ⟨rotationGrantRequest env clientID clientSecret, fun _ _ => True⟩

namespace TokenGrant

variable {env : Env} {clientID clientSecret : String} {cid : UUID} {log : Log effects}

theorem cons (h : TokenGrant env clientID clientSecret cid log) {q : Request} (hq : q.Follows)
    (r : q.Reply) : TokenGrant env clientID clientSecret cid (⟨q, r⟩ :: log) where
  parsed := h.parsed
  authenticated := h.authenticated.cons _
  record := by
    rw [readRecord_of_ne]
    · exact h.record
    · rintro hash rfl
      exact hq

/-- The rest of a rotation, once its token is checked. -/
theorem obeys (h : TokenGrant env clientID clientSecret cid log)
    {p : Call (Except AuthError TokenResponse)} (hp : p.Only Request.Follows) :
    p.Obeys (rotationGrant env clientID clientSecret) log := by
  refine hp.obeys_of_stable (G := TokenGrant env clientID clientSecret cid)
    (fun q r log hq h => h.cons hq r) ?_ (fun _ _ _ => trivial) h
  intro q log _ h
  cases q with
  | sql q => cases q <;> first | exact ⟨cid, h⟩ | trivial
  | _ => trivial

end TokenGrant

/-- **The grant of a rotation.** -/
theorem rotateRefreshToken_grant (env : Env) (rawToken clientID clientSecret : String) :
    (rotateRefreshToken env rawToken clientID clientSecret).Obeys
      (rotationGrant env clientID clientSecret) [] := by
  unfold rotateRefreshToken
  split
  · trivial
  next cid hcid =>
  refine ⟨trivial, ?_⟩
  rintro (e | client)
  · cases e <;> trivial
  dsimp only
  split
  · trivial
  next hactive =>
  split
  · trivial
  next hsecret =>
  refine ⟨trivial, ?_⟩
  rintro (e | record)
  · cases e <;> trivial
  dsimp only
  unfold checkRecord
  split
  · -- a replay stores nothing
    have hlast : ∀ entry log, (env.logEvent entry (.ret (.error .invalidGrant))).Obeys
        (rotationGrant env clientID clientSecret) log :=
      fun entry log => logEvent_obeys trivial trivial fun _ => trivial
    exact ⟨trivial, fun _ => logEvent_obeys trivial (hlast _ _) fun _ => hlast _ _⟩
  refine ⟨trivial, fun now => ?_⟩
  dsimp only
  split
  · trivial
  split
  · trivial
  next hclient =>
  refine ⟨trivial, fun r => ?_⟩
  rcases r with e | done
  · trivial
  have hgrant : TokenGrant env clientID clientSecret cid
      [⟨.sql (.markRefreshTokenUsed record.id), .ok done⟩, ⟨.now, now⟩,
        ⟨.sql (.getRefreshTokenByHash (env.lib.sha256Hex rawToken)), .ok record⟩,
        ⟨.sql (.getClient cid), .ok client⟩] :=
    ⟨hcid, ⟨client, by simp, not_not.mp hactive, not_not.mp hsecret⟩, record, rfl, not_not.mp hclient⟩
  refine hgrant.obeys ⟨trivial, ?_⟩
  rintro (e | user)
  · trivial
  refine (generateAccessToken_only trivial (fun _ => trivial) env _ _).bind ?_
  rintro (e | token)
  · trivial
  · exact (issueSuccessor_only ..).mono follows_of_issues

/-! ### The callback -/

/-- Where the contents of the rows that a callback stores come from: the identity of a new user from the
provider, the rest from the request. -/
def callbackGrantRequest (clientID : UUID) (providerName redirectURI : String) (scope : Option String) :
    Request → Log effects → Prop
  | .sql (.getOAuthProviderByClientAndName id name), log =>
    id = clientID ∧ name = providerName ∧ readProvider log = none
  | .getUserInfo _ userInfoURL, log =>
    userInfo log = none ∧ signedIn log = none ∧ ∃ p, readProvider log = some p ∧ userInfoURL = p.userInfoUrl
  | .sql (.createUser p), log =>
    ∃ row info, readProvider log = some row ∧ Named log info ∧ p.provider = strPtr row.name ∧
      p.providerID = strPtr info.sub
  | .sql (.createAuthorizationCode p), _ =>
    p.clientID = clientID ∧ p.redirectUri = redirectURI ∧ p.scope = scope
  | _, _ => True

def callbackGrant (clientID : UUID) (providerName redirectURI : String) (scope : Option String)
    (α : Type) : Protocol effects α :=
  ⟨callbackGrantRequest clientID providerName redirectURI scope, fun _ _ => True⟩

/-- **The grant of a callback.** -/
theorem handleProviderCallback_grant (env : Env) (clientID : UUID)
    (providerName code callbackURL clientRedirectURI : String) (scope : Option String) :
    (handleProviderCallback env clientID providerName code callbackURL clientRedirectURI
      scope).Obeys (callbackGrant clientID providerName clientRedirectURI scope _) [] := by
  refine ⟨trivial, ?_⟩
  rintro (e | client)
  · cases e <;> trivial
  dsimp only
  split
  · trivial
  refine Prog.Obeys.bind ⟨⟨rfl, rfl, rfl⟩, ?_⟩
  rintro (e | row)
  · cases e <;> trivial
  dsimp only
  split
  · trivial
  rw [Prog.Obeys.ret_iff]
  dsimp only
  split
  · trivial
  -- the user is resolved, and then a code is stored
  refine Prog.Obeys.bind ⟨trivial, ?_⟩
  have hstore : ∀ p user log, (storeAuthorizationCode clientID p user clientRedirectURI scope).Obeys
      (callbackGrant clientID providerName clientRedirectURI scope _) log := by
    intro p user log
    refine ⟨trivial, ?_⟩
    rintro (_ | bytes)
    · trivial
    refine ⟨trivial, fun now => ⟨⟨rfl, rfl, rfl⟩, ?_⟩⟩
    rintro (e | _) <;> trivial
  rintro (_ | providerToken)
  · trivial
  refine ⟨⟨rfl, rfl, row, rfl, rfl⟩, fun reply => ?_⟩
  dsimp only
  split
  · trivial
  next info hinfo =>
  refine ⟨trivial, ?_⟩
  rintro (e | user)
  · cases e with
    | noRows =>
      refine ⟨trivial, fun now => ⟨⟨row, info, rfl, ⟨reply, rfl, hinfo⟩, rfl, rfl⟩, ?_⟩⟩
      rintro (e | user)
      · trivial
      · exact hstore _ _ _
    | _ => trivial
  · refine ⟨trivial, fun now => ⟨trivial, ?_⟩⟩
    rintro (e | user')
    · trivial
    · exact hstore _ _ _

/-! ### The direct login -/

/-- A login stores a token, which is of no client, for a user who need not change the password. -/
def loginGrantRequest : Request → Log effects → Prop
  | .sql (.createAccessToken p), log =>
    p.clientID = none ∧ ∃ u, signedIn log = some u ∧ u.forcePasswordChange = false ∧ p.userID = u.id
  | _, _ => True

/-- A change of password stores one for the user whose flag it has cleared. -/
def changePasswordGrantRequest : Request → Log effects → Prop
  | .sql (.createAccessToken p), log =>
    p.clientID = none ∧ ∃ u : User,
      (⟨.sql (.setForcePasswordChange p.userID false), .ok u⟩ : Event effects) ∈ log
  | _, _ => True

theorem loginGrantRequest_of_quiet (hq : q.Quiet) (log : Log effects) : loginGrantRequest q log := by
  cases q with
  | sql q => cases q <;> trivial
  | _ => trivial

theorem verifyCredentials_quiet (env : Env) (email password sourceIP : String) :
    Quiet (verifyCredentials env email password sourceIP) := by
  have hfailed : ∀ user, Quiet (failedAttempt env user email sourceIP) := by
    intro user
    refine ⟨rfl, ?_⟩
    rintro (e | updated)
    · trivial
    refine ⟨trivial, fun now => ?_⟩
    dsimp only
    split
    · refine ⟨trivial, fun now => ⟨rfl, ?_⟩⟩
      rintro (e | _)
      · trivial
      · exact logEvent_only (fun _ => rfl) trivial
    · exact logEvent_only (fun _ => rfl) trivial
  have hsuccess : ∀ user, Quiet (successfulAttempt user) := by
    intro user
    refine ⟨rfl, ?_⟩
    rintro (e | _)
    · trivial
    refine ⟨trivial, fun now => ⟨rfl, ?_⟩⟩
    rintro (e | _) <;> trivial
  have hcheck : ∀ user, Quiet (checkPassword env user email password sourceIP) := by
    intro user
    unfold checkPassword
    split
    · trivial
    split
    · trivial
    · trivial
    · exact hfailed user
    · exact hsuccess user
  refine ⟨rfl, ?_⟩
  rintro (e | user)
  · cases e <;> trivial
  dsimp only
  split
  · exact hcheck user
  · refine ⟨trivial, fun now => ?_⟩
    dsimp only
    split
    · trivial
    · refine ⟨rfl, ?_⟩
      rintro (e | _)
      · trivial
      · exact hcheck user

/-- **The grant of a login.** -/
theorem login_grant (env : Env) (email password sourceIP : String) :
    (login env email password sourceIP).Obeys ⟨loginGrantRequest, fun _ _ => True⟩ [] := by
  unfold login
  split
  · trivial
  -- checking the credentials stores nothing, and signs in the user it returns
  have hquiet : (verifyCredentials env email password sourceIP).Obeys
      ⟨fun q _ => Request.Quiet q, fun _ _ => True⟩ [] :=
    (verifyCredentials_quiet env email password sourceIP).obeys (fun _ _ h => h) (fun _ _ => trivial) []
  have hverify : (verifyCredentials env email password sourceIP).Obeys
      (verifyProtocol env email password) [] := verifyCredentials_obeys
  refine (hverify.and hquiet).andThen (fun q log h => loginGrantRequest_of_quiet h.2 log) ?_
  rintro r log ⟨hin, -⟩
  split
  · trivial
  · trivial
  · trivial
  next user =>
  split
  · -- a challenge stores nothing
    unfold loginChallenge generateChallengeToken
    split
    · trivial
    · exact ⟨trivial, fun now => trivial⟩
  next hforce =>
  refine Prog.Obeys.bind ⟨trivial, fun now => ⟨trivial, ?_⟩⟩
  rintro (_ | entropy)
  · trivial
  dsimp only
  split
  · trivial
  refine Prog.Obeys.bind ⟨trivial, ?_⟩
  rintro (e | _)
  · trivial
  refine Prog.Obeys.bind ⟨trivial, fun now' =>
    ⟨⟨rfl, user, hin user rfl, by simpa using hforce, rfl⟩, ?_⟩⟩
  rintro (e | _) <;> trivial

/-- **The grant of a change of password.** -/
theorem changePasswordHandler_grant (env : Env) (challengeToken newPassword : String) :
    (changePasswordHandler env challengeToken newPassword).Obeys
      ⟨changePasswordGrantRequest, fun _ _ => True⟩ [] := by
  refine Prog.Obeys.bind ?_
  unfold validateChallengeToken
  split
  · trivial
  refine ⟨trivial, fun now => ?_⟩
  rw [Prog.Obeys.ret_iff]
  dsimp only
  split
  · trivial
  next userID _ =>
  refine Prog.Obeys.bind ⟨trivial, ?_⟩
  rintro (e | user)
  · cases e <;> trivial
  dsimp only
  split
  · trivial
  split
  · trivial
  refine ⟨trivial, ?_⟩
  rintro (_ | salt)
  · trivial
  refine ⟨trivial, ?_⟩
  rintro (e | _)
  · trivial
  refine ⟨trivial, ?_⟩
  rintro (e | updated)
  · trivial
  -- the flag is cleared; the token comes last
  have htoken : ∀ result log, (⟨.sql (.setForcePasswordChange userID false), .ok updated⟩ :
      Event effects) ∈ log → (changedPasswordToken env userID result).Obeys
        ⟨changePasswordGrantRequest, fun _ _ => True⟩ log := by
    intro result log hmem
    refine Prog.Obeys.bind ⟨trivial, fun now => ⟨trivial, ?_⟩⟩
    rintro (_ | entropy)
    · trivial
    dsimp only
    split
    · trivial
    refine Prog.Obeys.bind ⟨trivial, fun now' => ⟨⟨rfl, updated, ?_⟩, ?_⟩⟩
    · exact List.mem_cons_of_mem _ (List.mem_cons_of_mem _ (List.mem_cons_of_mem _ hmem))
    · rintro (e | _) <;> trivial
  refine ⟨trivial, fun _ => ?_⟩
  refine logEvent_obeys trivial (logEvent_obeys trivial ?_ fun _ => ?_) fun _ =>
    logEvent_obeys trivial ?_ fun _ => ?_
  all_goals
    rw [Prog.Obeys.ret_iff]
    exact htoken _ _ (by simp)

/-! ### Operations -/

/-- What an operation stores, and on what grounds. -/
def Operation.grantRequest (env : Env) : Operation → Request → Log effects → Prop
  | .login _ _ _ => loginGrantRequest
  | .changePasswordHandler _ _ => changePasswordGrantRequest
  | .handleProviderCallback clientID providerName _ _ clientRedirectURI scope =>
    callbackGrantRequest clientID providerName clientRedirectURI scope
  | .exchangeCodeForToken _ clientID clientSecret redirectURI =>
    exchangeGrantRequest env clientID clientSecret redirectURI
  | .rotateRefreshToken _ clientID clientSecret => rotationGrantRequest env clientID clientSecret
  | _ => fun _ _ => True

/-- The protocol of an operation together with its grounds. -/
def Operation.fullProtocol (env : Env) (op : Operation) : Protocol effects Outcome :=
  ⟨fun q log => op.request env q log ∧ op.grantRequest env q log, op.result env⟩

theorem Operation.obeys_full (env : Env) (op : Operation) : (op.call env).Obeys (op.fullProtocol env) [] := by
  have hgrant : (op.call env).Obeys ⟨op.grantRequest env, fun _ _ => True⟩ [] := by
    cases op with
    | login email password sourceIP =>
      exact (login_grant env email password sourceIP).map (fun _ _ h => h) fun _ _ _ => trivial
    | changePasswordHandler challengeToken newPassword =>
      exact (changePasswordHandler_grant env challengeToken newPassword).map (fun _ _ h => h)
        fun _ _ _ => trivial
    | handleProviderCallback clientID providerName code callbackURL clientRedirectURI scope =>
      exact (handleProviderCallback_grant env clientID providerName code callbackURL
        clientRedirectURI scope).map (fun _ _ h => h) fun _ _ _ => trivial
    | exchangeCodeForToken code clientID clientSecret redirectURI =>
      exact (exchangeCodeForToken_grant env code clientID clientSecret redirectURI).map
        (fun _ _ h => h) fun _ _ _ => trivial
    | rotateRefreshToken rawToken clientID clientSecret =>
      exact (rotateRefreshToken_grant env rawToken clientID clientSecret).map (fun _ _ h => h)
        fun _ _ _ => trivial
    | _ => exact Prog.Obeys.anything _ _
  refine Prog.Obeys.mono ?_ ?_ ((op.obeys env).and hgrant)
  · exact fun _ _ h => h
  · exact fun _ _ h => h.1

theorem operations_obeys_full {ι : Type} (env : Env) (ops : ι → Operation) (w : World) :
    Pool.Obeys (fun i => (ops i).fullProtocol env) (operations env ops w) :=
  Pool.Obeys.start (B := backend) (fun i => (ops i).obeys_full env) w

/-! ### Users who were loaded -/

/-- The user that an exchange or a rotation has loaded is the one of its code or its token. -/
structure LoadedUser (op : Operation) (log : Log effects) : Prop where
  exchange : ∀ text clientID clientSecret redirectURI,
    op = .exchangeCodeForToken text clientID clientSecret redirectURI →
      ∀ u, readUser log = some u → ∃ code, readCode log = some code ∧ u.id = code.userID
  rotation : ∀ rawToken clientID clientSecret,
    op = .rotateRefreshToken rawToken clientID clientSecret →
      ∀ u, readUser log = some u → ∃ t, readRecord log = some t ∧ u.id = t.userID

theorem LoadedUser.step {env : Env} {op : Operation} {d : Draw}
    {w : World} (hq : op.request env q log) (h : LoadedUser op log) :
    LoadedUser op (⟨q, (respond q d w).1⟩ :: log) where
  exchange := by
    rintro text clientID clientSecret redirectURI rfl u hu
    rcases readUser_respond hu with hold | ⟨id, rfl, _, hid⟩
    · obtain ⟨code, hcode, huser⟩ := h.exchange _ _ _ _ rfl u hold
      refine ⟨code, ?_, huser⟩
      -- the code is looked up before the user is loaded
      rw [readCode_of_ne]
      · exact hcode
      · rintro k rfl
        obtain ⟨_, _, _, hnone, _⟩ := hq
        rw [hold] at hnone
        cases hnone
    · obtain ⟨code, hcode, huser, _⟩ := hq
      exact ⟨code, hcode, hid.trans huser⟩
  rotation := by
    rintro rawToken clientID clientSecret rfl u hu
    rcases readUser_respond hu with hold | ⟨id, rfl, _, hid⟩
    · obtain ⟨t, ht, huser⟩ := h.rotation _ _ _ rfl u hold
      refine ⟨t, ?_, huser⟩
      rw [readRecord_of_ne]
      · exact ht
      · rintro k rfl
        obtain ⟨_, _, hnone, _⟩ := hq
        rw [hold] at hnone
        cases hnone
    · obtain ⟨t, ht, huser, _⟩ := hq
      exact ⟨t, ht, hid.trans huser⟩

end GoauthServer
