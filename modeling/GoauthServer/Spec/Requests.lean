import GoauthServer.Transport.Middleware
import GoauthServer.Transport.Server

/-!
# The requests of a call

Many results only need to know which requests a call can make at all. For the calls that the others are
built from this is said once, for any property `C` of requests: the call stays within `C` if the few
requests it can make have the property. The results then differ only in the `C` they take.

The calls with which a grant issues its tokens make many requests, of a few kinds. These kinds have a name
(`Request.Issues`), which also says for which client the tokens are stored; likewise the requests of a sign-in
at a provider (`Request.SignsIn`), and those of the administration (`Request.Administers`).
-/

namespace GoauthServer

open Interact

variable {α : Type} {C : Request → Prop} {clientID : UUID} {userID : UUID} {id : UUID}

theorem logEvent_only {env : Env} {entry : AuditEntry} {k : Call α}
    (haudit : ∀ p, C (.sql (.createAuditLogEntry p))) (hk : k.Only C) : (env.logEvent entry k).Only C := by
  unfold Env.logEvent
  split
  · exact ⟨haudit _, fun _ => hk⟩
  · exact hk

/-- A call that makes one statement, and ends. -/
theorem sql_only {q : Query} {k : Except DBError q.Row → Call α} (hq : C (.sql q))
    (hk : ∀ r, ∃ a, k r = .ret a) : (Call.sql q k).Only C := by
  refine ⟨hq, fun r => ?_⟩
  obtain ⟨a, ha⟩ := hk r
  rw [ha]
  trivial

/-! ### Access tokens -/

section Access

variable (hnow : C .now) (hget : ∀ hash, C (.sql (.getAccessToken hash)))
  (hbyID : ∀ id, C (.sql (.getAccessTokenByID id))) (hrevoke : ∀ id, C (.sql (.revokeAccessToken id)))
  (haudit : ∀ p, C (.sql (.createAuditLogEntry p))) (hclient : ∀ id, C (.sql (.getClient id)))

include hnow in
theorem generateAccessToken_only (hrand : ∀ n, C (.randBytes n)) (env : Env) (userID email : String) :
    (generateAccessToken env userID email).Only C := by
  refine ⟨hnow, fun now => ⟨hrand 32, ?_⟩⟩
  rintro (_ | entropy)
  · trivial
  · dsimp only
    split <;> trivial

include hnow in
theorem validateAccessToken_only (env : Env) (token : String) : (validateAccessToken env token).Only C := by
  refine ⟨hnow, fun now => ?_⟩
  dsimp only
  split <;> trivial

include hnow in
theorem generateChallengeToken_only (env : Env) (userID : UUID) :
    (generateChallengeToken env userID).Only C := by
  unfold generateChallengeToken
  split
  · trivial
  · exact ⟨hnow, fun _ => trivial⟩

include hnow in
theorem storeDirectLoginToken_only (hcreate : ∀ p, p.clientID = none → C (.sql (.createAccessToken p)))
    (env : Env) (token : String) (userID : UUID) : (storeDirectLoginToken env token userID).Only C := by
  refine ⟨hnow, fun now => ⟨hcreate _ rfl, fun r => ?_⟩⟩
  dsimp only
  split <;> trivial

include hget in
theorem isTokenRevoked_only (env : Env) (rawToken : String) : (isTokenRevoked env rawToken).Only C := by
  refine ⟨hget _, fun r => ?_⟩
  dsimp only
  split <;> trivial

include hnow hget in
theorem authMiddleware_only (env : Env) (h : RequestHeaders) : (authMiddleware env h).Only C := by
  unfold authMiddleware
  split
  · trivial
  · refine (validateAccessToken_only hnow env _).bind fun r => ?_
    split
    · trivial
    · refine (isTokenRevoked_only hget env _).bind fun r => ?_
      split <;> trivial

include hclient in
theorem validateClientCredentials_only (env : Env) (clientID clientSecret : String) :
    (validateClientCredentials env clientID clientSecret).Only C := by
  unfold validateClientCredentials
  split
  · trivial
  · refine ⟨hclient _, fun r => ?_⟩
    dsimp only
    split
    · trivial
    · trivial
    · split <;> trivial

include hnow hget hclient in
theorem authenticateRevokeRequest_only (env : Env) (authorization : String) :
    (authenticateRevokeRequest env authorization).Only C := by
  unfold authenticateRevokeRequest
  split
  · refine (validateClientCredentials_only hclient env _ _).bind fun r => ?_
    split <;> trivial
  · split
    · refine (validateAccessToken_only hnow env _).bind fun r => ?_
      split
      · trivial
      · refine (isTokenRevoked_only hget env _).bind fun r => ?_
        split <;> trivial
    · trivial

include hget hrevoke in
theorem revokeToken_only (tokenHash : String) : (revokeToken tokenHash).Only C := by
  refine ⟨hget _, fun r => ?_⟩
  dsimp only
  split
  · trivial
  · trivial
  · refine ⟨hrevoke _, fun r => ?_⟩
    dsimp only
    split <;> trivial

include hrevoke haudit in
theorem revokeAccessTokenRecord_only (env : Env) (record : AccessToken) :
    (revokeAccessTokenRecord env record).Only C := by
  unfold revokeAccessTokenRecord
  split
  · trivial
  · refine ⟨hrevoke _, fun r => ?_⟩
    dsimp only
    split
    · trivial
    · exact logEvent_only haudit trivial

include hbyID hrevoke haudit in
theorem revokeLinkedAccess_only (env : Env) (rt : RefreshToken) : (revokeLinkedAccess env rt).Only C := by
  unfold revokeLinkedAccess
  split
  · refine ⟨hbyID _, fun r => ?_⟩
    dsimp only
    split
    · exact (revokeAccessTokenRecord_only hrevoke haudit env _).bind fun _ => trivial
    · trivial
    · trivial
  · trivial

include hget hrevoke haudit in
theorem revokeAnyAccessToken_only (env : Env) (rawToken : String) :
    (revokeAnyAccessToken env rawToken).Only C := by
  refine ⟨hget _, fun r => ?_⟩
  dsimp only
  split
  · trivial
  · trivial
  · exact revokeAccessTokenRecord_only hrevoke haudit env _

end Access

/-! ### Sessions and accounts -/

theorem revokeAllUserAccessTokens_only (h : C (.sql (.revokeAccessTokensByUser userID))) :
    (revokeAllUserAccessTokens userID).Only C :=
  sql_only h fun r => by cases r <;> exact ⟨_, rfl⟩

theorem revokeUserRefreshTokens_only {reason : String}
    (h : C (.sql (.revokeRefreshTokensByUser userID (some reason)))) :
    (revokeUserRefreshTokens userID reason).Only C :=
  sql_only h fun r => by cases r <;> exact ⟨_, rfl⟩

theorem getUser_only (h : C (.sql (.getUserByID id))) : (getUser id).Only C := by
  refine ⟨h, fun r => ?_⟩
  dsimp only
  split <;> trivial

theorem sessionRevokeAuthorizationCode_only (hget : C (.sql (.getAuthorizationCodeByID id)))
    (hrevoke : C (.sql (.revokeAuthorizationCode id))) : (sessionRevokeAuthorizationCode id).Only C := by
  refine ⟨hget, fun r => ?_⟩
  dsimp only
  split
  · trivial
  · trivial
  · exact sql_only hrevoke fun r => by cases r <;> exact ⟨_, rfl⟩

theorem sessionRevokeAccessToken_only (hget : C (.sql (.getAccessTokenByID id)))
    (hrevoke : C (.sql (.revokeAccessToken id))) : (sessionRevokeAccessToken id).Only C := by
  refine ⟨hget, fun r => ?_⟩
  dsimp only
  split
  · trivial
  · trivial
  · exact sql_only hrevoke fun r => by cases r <;> exact ⟨_, rfl⟩

theorem sessionRevokeUserSessions_only (h : C (.sql (.revokeAccessTokensByUser userID))) :
    (sessionRevokeUserSessions userID).Only C :=
  sql_only h fun r => by cases r <;> exact ⟨_, rfl⟩

theorem sessionRevokeClientSessions_only
    (h : C (.sql (.revokeAccessTokensByClient clientID))) : (sessionRevokeClientSessions clientID).Only C :=
  sql_only h fun r => by cases r <;> exact ⟨_, rfl⟩

/-! ### Middleware -/

theorem adminMiddleware_only (huser : ∀ id, C (.sql (.getUserByID id))) (env : Env) (r : HttpRequest)
    (ctx : Option AuthContext) : (adminMiddleware env r ctx).Only C := by
  unfold adminMiddleware
  split
  · trivial
  · split
    · trivial
    · refine Prog.Only.bind ⟨huser _, fun r => ?_⟩ fun r => ?_
      · dsimp only
        split <;> trivial
      · split <;> trivial

theorem csrfMiddleware_only (hrand : ∀ n, C (.randBytes n)) (r : HttpRequest) (ctx : Option AuthContext) :
    (csrfMiddleware r ctx).Only C := by
  unfold csrfMiddleware
  split
  · refine ⟨hrand _, fun b => ?_⟩
    dsimp only
    split <;> trivial
  · trivial

theorem rateLimitByUser_only (allow : String → Bool) (r : HttpRequest) (ctx : Option AuthContext) :
    (rateLimitByUser allow r ctx).Only C := by
  unfold rateLimitByUser
  split <;> trivial

/-! ### Issuing tokens -/

/-- The requests with which a grant issues its tokens, for the client `clientID`. -/
def Request.Issues (clientID : UUID) : Request → Prop
  | .now | .randBytes _ | .newUUID | .sql (.createAuditLogEntry _) => True
  | .sql (.createAccessToken p) => p.clientID = some clientID
  | .sql (.createRefreshToken p) => p.clientID = clientID
  | _ => False

theorem issueTokens_only (env : Env) (client : Client) (clientID : UUID) (authCode : AuthorizationCode)
    (user : User) (token : String) :
    (issueTokens env client clientID authCode user token).Only (Request.Issues clientID) := by
  refine ⟨trivial, fun now => ⟨rfl, ?_⟩⟩
  rintro (e | a)
  · trivial
  dsimp only
  split
  · refine ⟨trivial, ?_⟩
    rintro (_ | bytes)
    · trivial
    refine ⟨trivial, fun familyID => ⟨trivial, fun now => ⟨rfl, ?_⟩⟩⟩
    rintro (e | t)
    · trivial
    · exact logEvent_only (fun _ => trivial) trivial
  · trivial

theorem issueSuccessor_only (env : Env) (clientID : UUID) (record : RefreshToken) (user : User)
    (token : String) :
    (issueSuccessor env clientID record user token).Only (Request.Issues clientID) := by
  refine ⟨trivial, fun now => ⟨rfl, ?_⟩⟩
  rintro (e | a)
  · trivial
  refine ⟨trivial, ?_⟩
  rintro (_ | bytes)
  · trivial
  refine ⟨trivial, fun now => ⟨rfl, ?_⟩⟩
  rintro (e | t)
  · trivial
  · exact logEvent_only (fun _ => trivial) trivial

/-- What remains of an exchange once the code is checked: it is marked, the user is looked up, and the
tokens are issued. -/
theorem redeemCode_only (hmark : ∀ id, C (.sql (.markAuthorizationCodeUsed id)))
    (huser : ∀ id, C (.sql (.getUserByID id))) (hissue : ∀ q, q.Issues clientID → C q) (env : Env)
    (client : Client) (authCode : AuthorizationCode) : (redeemCode env client clientID authCode).Only C := by
  refine ⟨hmark _, ?_⟩
  rintro (e | _)
  · trivial
  refine ⟨huser _, ?_⟩
  rintro (e | user)
  · trivial
  refine (generateAccessToken_only (hissue _ trivial) (fun _ => hissue _ trivial) env _ _).bind ?_
  rintro (e | token)
  · trivial
  · exact (issueTokens_only env client clientID authCode user token).mono hissue

/-- What remains of a rotation once the token is checked. -/
theorem rotateRecord_only (hmark : ∀ id, C (.sql (.markRefreshTokenUsed id)))
    (huser : ∀ id, C (.sql (.getUserByID id))) (hissue : ∀ q, q.Issues clientID → C q) (env : Env)
    (record : RefreshToken) : (rotateRecord env clientID record).Only C := by
  refine ⟨hmark _, ?_⟩
  rintro (e | _)
  · trivial
  refine ⟨huser _, ?_⟩
  rintro (e | user)
  · trivial
  refine (generateAccessToken_only (hissue _ trivial) (fun _ => hissue _ trivial) env _ _).bind ?_
  rintro (e | token)
  · trivial
  · exact (issueSuccessor_only env clientID record user token).mono hissue

theorem exchangeCodeForToken_only (hclient : ∀ id, C (.sql (.getClient id)))
    (hcode : ∀ code, C (.sql (.getAuthorizationCode code)))
    (hmark : ∀ id, C (.sql (.markAuthorizationCodeUsed id))) (huser : ∀ id, C (.sql (.getUserByID id)))
    (hissue : ∀ q, q.Issues clientID → C q) (env : Env) (code clientSecret redirectURI : String) :
    (exchangeCodeForToken env code clientID clientSecret redirectURI).Only C := by
  refine ⟨hclient _, ?_⟩
  rintro (e | client)
  · cases e <;> trivial
  dsimp only
  split
  · trivial
  split
  · trivial
  refine ⟨hcode _, ?_⟩
  rintro (e | authCode)
  · cases e <;> trivial
  dsimp only
  split
  · trivial
  split
  · trivial
  refine ⟨hissue _ trivial, fun now => ?_⟩
  dsimp only
  split
  · trivial
  · exact redeemCode_only hmark huser hissue env client authCode

theorem checkRecord_only (hfamily : ∀ family reason, C (.sql (.revokeRefreshTokenFamily family reason)))
    (hmark : ∀ id, C (.sql (.markRefreshTokenUsed id))) (huser : ∀ id, C (.sql (.getUserByID id)))
    (hissue : ∀ q, q.Issues clientID → C q) (env : Env) (record : RefreshToken) :
    (checkRecord env clientID record).Only C := by
  have haudit : ∀ p, C (.sql (.createAuditLogEntry p)) := fun _ => hissue _ trivial
  unfold checkRecord
  split
  · exact ⟨hfamily _ _, fun _ => logEvent_only haudit (logEvent_only haudit trivial)⟩
  refine ⟨hissue _ trivial, fun now => ?_⟩
  dsimp only
  split
  · trivial
  split
  · trivial
  · exact rotateRecord_only hmark huser hissue env record

/-! ### Signing in at a provider -/

/-- The requests of the authorization code flow for the client `clientID`. -/
def Request.SignsIn (clientID : UUID) : Request → Prop
  | .now | .randBytes _ | .exchangeCode _ _ _ | .getUserInfo _ _ | .sql (.getClient _)
  | .sql (.getOAuthProviderByClientAndName _ _) | .sql (.getUserByProviderID _ _)
  | .sql (.updateLastLogin _ _) | .sql (.createUser _) => True
  | .sql (.createAuthorizationCode p) => p.clientID = clientID
  | _ => False

theorem upsertUser_signsIn (clientID : UUID) (providerName : String) (info : ProviderUserInfo) :
    (upsertUser providerName info).Only (Request.SignsIn clientID) := by
  refine ⟨trivial, fun r => ?_⟩
  dsimp only
  split
  · refine ⟨trivial, fun now => ⟨trivial, ?_⟩⟩
    rintro (e | u) <;> trivial
  · refine ⟨trivial, fun now => ⟨trivial, ?_⟩⟩
    rintro (e | u) <;> trivial
  · trivial

theorem getProviderWithSecretByClientAndName_signsIn (env : Env) (clientID : UUID) (name : String) :
    (getProviderWithSecretByClientAndName env clientID name).Only (Request.SignsIn clientID) := by
  refine ⟨trivial, fun r => ?_⟩
  dsimp only
  split
  · trivial
  · trivial
  split <;> trivial

theorem handleProviderCallback_signsIn (env : Env) (clientID : UUID)
    (providerName code callbackURL clientRedirectURI : String) (scope : Option String) :
    (handleProviderCallback env clientID providerName code callbackURL clientRedirectURI scope).Only
      (Request.SignsIn clientID) := by
  refine ⟨trivial, fun r => ?_⟩
  dsimp only
  split
  · trivial
  · trivial
  split
  · trivial
  refine (getProviderWithSecretByClientAndName_signsIn env _ _).bind ?_
  rintro (e | p)
  · trivial
  dsimp only
  split
  · trivial
  -- the provider says who the user is
  refine Prog.Only.bind ⟨trivial, ?_⟩ ?_
  · rintro (_ | providerToken)
    · trivial
    refine ⟨trivial, fun reply => ?_⟩
    dsimp only
    split
    · trivial
    · exact upsertUser_signsIn clientID _ _
  -- and gets a code
  · rintro (e | user)
    · trivial
    refine ⟨trivial, ?_⟩
    rintro (_ | bytes)
    · trivial
    refine ⟨trivial, fun now => ⟨rfl, ?_⟩⟩
    rintro (e | c) <;> trivial

theorem initiateAuthorization_signsIn (env : Env)
    (authCodeURL : OAuthProviderWithSecret → (callbackURL state : String) → String) (clientID : UUID)
    (providerName callbackURL clientRedirectURI state : String) :
    (initiateAuthorization env authCodeURL clientID providerName callbackURL clientRedirectURI state).Only
      (Request.SignsIn clientID) := by
  refine ⟨trivial, fun r => ?_⟩
  dsimp only
  split
  · trivial
  · trivial
  split
  · trivial
  split
  · trivial
  refine (getProviderWithSecretByClientAndName_signsIn env _ _).bind fun r => ?_
  split
  · trivial
  · trivial
  split <;> trivial

/-! ### Administration -/

/-- The requests with which clients and providers are looked after. Not among them are the deletion of a client
and the audit events. -/
def Request.Administers : Request → Prop
  | .randBytes _ | .sql (.getClient _) | .sql (.createClient _) | .sql (.updateClient _)
  | .sql (.regenerateClientSecret _ _) | .sql (.countClients _) | .sql (.getUserByEmail _)
  | .sql (.getOAuthProvider _) | .sql (.createOAuthProvider _) | .sql (.updateOAuthProvider _)
  | .sql (.disableOAuthProvider _) | .sql (.deleteOAuthProvider _) => True
  | _ => False

section Administration

variable (hC : ∀ q, q.Administers → C q) (env : AdminEnv)

include hC

theorem createClient_only (dto : CreateClientDTO) (adminUserID : UUID) :
    (createClient env dto adminUserID).Only C := by
  unfold createClient
  split
  · trivial
  refine ⟨hC _ trivial, ?_⟩
  rintro (_ | bytes)
  · trivial
  refine ⟨hC _ trivial, fun r => ?_⟩
  dsimp only
  split <;> trivial

theorem updateClient_only (id : UUID) (dto : UpdateClientDTO) : (updateClient env id dto).Only C := by
  unfold updateClient
  split
  · trivial
  refine ⟨hC _ trivial, fun r => ?_⟩
  dsimp only
  split <;> trivial

theorem regenerateSecret_only (haudit : ∀ p, C (.sql (.createAuditLogEntry p))) (id : UUID) :
    (regenerateSecret env id).Only C := by
  refine ⟨hC _ trivial, fun r => ?_⟩
  dsimp only
  split
  · trivial
  · trivial
  refine ⟨hC _ trivial, ?_⟩
  rintro (_ | bytes)
  · trivial
  refine ⟨hC _ trivial, ?_⟩
  rintro (e | updated)
  · trivial
  · exact logEvent_only haudit trivial

theorem bootstrapDefaultClient_only (haudit : ∀ p, C (.sql (.createAuditLogEntry p)))
    (cfg : BootstrapClientConfig) : (bootstrapDefaultClient env cfg).Only C := by
  unfold bootstrapDefaultClient createDefaultClient
  split
  · trivial
  split
  · trivial
  split
  · trivial
  refine ⟨hC _ trivial, ?_⟩
  rintro (e | count)
  · trivial
  dsimp only
  split
  · trivial
  split
  · trivial
  refine ⟨hC _ trivial, ?_⟩
  rintro (e | adminUser)
  · trivial
  refine ⟨hC _ trivial, ?_⟩
  rintro (e | newClient)
  · trivial
  · exact ⟨haudit _, fun _ => trivial⟩

omit hC in
theorem deleteClient_only {id : UUID} (hget : C (.sql (.getClient id))) (hdelete : C (.sql (.deleteClient id))) :
    (deleteClient id).Only C := by
  refine ⟨hget, fun r => ?_⟩
  dsimp only
  split
  · trivial
  · trivial
  refine ⟨hdelete, ?_⟩
  rintro (e | _) <;> trivial

theorem encrypt_only (plaintext : String) : (encrypt env plaintext).Only C := by
  refine ⟨hC _ trivial, ?_⟩
  rintro (_ | nonce) <;> trivial

theorem createProvider_only (clientID : UUID) (dto : CreateProviderDTO) :
    (createProvider env clientID dto).Only C := by
  unfold createProvider
  split
  · trivial
  refine (encrypt_only hC env _).bind ?_
  rintro (e | secret)
  · trivial
  refine ⟨hC _ trivial, fun r => ?_⟩
  dsimp only
  split <;> trivial

theorem getOwnProvider_only (id clientID : UUID) : (getOwnProvider id clientID).Only C := by
  refine ⟨hC _ trivial, fun r => ?_⟩
  dsimp only
  split
  · trivial
  · trivial
  split <;> trivial

theorem updateProvider_only (id clientID : UUID) (dto : UpdateProviderDTO) :
    (updateProvider env id clientID dto).Only C := by
  unfold updateProvider
  split
  · trivial
  refine (getOwnProvider_only hC id clientID).bind ?_
  rintro (e | existing)
  · trivial
  have hsecret : (updatedSecret env existing dto.providerClientSecret).Only C := by
    unfold updatedSecret
    split
    · exact (encrypt_only hC env _).map _
    · trivial
  refine hsecret.bind ?_
  rintro (e | secret)
  · trivial
  refine ⟨hC _ trivial, ?_⟩
  rintro (e | row) <;> trivial

theorem onOwnProvider_only (id clientID : UUID) {q : Query} (hq : Request.Administers (.sql q)) :
    (onOwnProvider id clientID q).Only C := by
  refine ((getOwnProvider_only hC id clientID).map _).bind ?_
  rintro (e | _)
  · trivial
  refine ⟨hC _ hq, ?_⟩
  rintro (e | _) <;> trivial

theorem ProviderOperation.call_only (op : ProviderOperation) : (op.call env).Only C := by
  cases op with
  | create clientID dto => exact (createProvider_only hC env clientID dto).map _
  | update id clientID dto => exact (updateProvider_only hC env id clientID dto).map _
  | enable id clientID =>
    refine Prog.Only.map ((getOwnProvider_only hC id clientID).bind ?_) _
    rintro (e | existing)
    · trivial
    refine ⟨hC _ trivial, ?_⟩
    rintro (e | row) <;> trivial
  | disable id clientID => exact (onOwnProvider_only hC id clientID (q := .disableOAuthProvider id) trivial).map _
  | delete id clientID => exact (onOwnProvider_only hC id clientID (q := .deleteOAuthProvider id) trivial).map _

end Administration

end GoauthServer
