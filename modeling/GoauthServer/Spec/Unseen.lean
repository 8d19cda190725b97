import GoauthServer.Spec.Cleanup
import GoauthServer.Spec.Requests
import GoauthServer.Transport.Routes

/-!
# Calls that do not see a cleanup

A call is *unseen* if each of its statements is blind to what cleanups remove, or is an audit event, whose
outcome every caller ignores. Next to a run without cleanups such a call keeps step and ends with the same
result (`Unseen.lockstep`). That a call is unseen is read off its text, one lemma for each.

Unseen are the handlers of clients, of providers and of users, the login up to the token it stores, and what
all middlewares do after the authentication. Not unseen are the two grants, the revocation, the authentication
by a token, and the four routes for sessions.
-/

namespace GoauthServer

open Interact

variable {α β : Type}

/-- An audit event is stored. -/
def Request.Audits : Request → Prop
  | .sql (.createAuditLogEntry _) => True
  | _ => False

/-- The call depends on nothing that cleanups remove. -/
abbrev Unseen (p : Call α) : Prop := p.ReactsTo Request.Blind Request.Audits

/-! ### Rules -/

namespace Unseen

variable {p : Call α} {f : α → Call β} {x : Removed} {w w' : World}

theorem sql {q : Query} {k : Except DBError q.Row → Call α} (hq : q.blind = true) (hk : ∀ r, Unseen (k r)) :
    Unseen (Call.sql q k) := ⟨Or.inl hq, hk⟩

theorem now {k : Time → Call α} (hk : ∀ t, Unseen (k t)) : Unseen (Call.now k) := ⟨Or.inl trivial, hk⟩

theorem randBytes {n : ℕ} {k : Option Base64.Bytes → Call α} (hk : ∀ b, Unseen (k b)) :
    Unseen (Call.randBytes n k) := ⟨Or.inl trivial, hk⟩

theorem bind (hp : Unseen p) (hf : ∀ a, Unseen (f a)) : Unseen (p.bind f) :=
  Prog.ReactsTo.bind hp hf

theorem map (hp : Unseen p) (f : α → β) : Unseen (p.map f) := Prog.ReactsTo.map hp f

/-- **The runs.** An unseen call keeps step in a world that trails, and ends with the same result. -/
theorem lockstep (hp : Unseen p) {t : Time} (h : w.Trails x t w') :
    p.Lockstep backend (fun a w b w' => a = b ∧ World.Trails x t w w') p w w' := by
  refine Prog.Lockstep.of_reactsTo (B := backend) (R := World.Trails x t) ?_ ?_ hp h
  · intro q d w w' hq h
    have hboth := h.blind hq d
    exact ⟨hboth.1.symm, hboth.2⟩
  · intro q d w w' hq h
    cases q with
    | sql q =>
      cases q with
      | createAuditLogEntry p => exact h.audit p d
      | _ => cases hq
    | _ => cases hq

/-- An unseen call, and then calls that end alike wherever it hands over. -/
theorem andThen {γ : Type} {C : (q : Request) → Draw → World → Prop} {Q : β → World → γ → World → Prop}
    {f' : α → Call γ} {t : Time} (hp : Unseen p) (h : w.Trails x t w')
    (hf : ∀ a v v', World.Trails x t v v' → (f a).Alike backend C Q (f' a) v v') :
    (p.bind f).Alike backend C Q (p.bind f') w w' := by
  refine Prog.Alike.bind ((hp.lockstep h).mono ?_)
  rintro a v b v' ⟨rfl, hv⟩
  exact hf a v v' hv

end Unseen

theorem logEvent_unseen {env : Env} {entry : AuditEntry} {k : Call α} (hk : Unseen k) :
    Unseen (env.logEvent entry k) := by
  unfold Env.logEvent
  split
  · exact ⟨Or.inr ⟨trivial, fun _ _ => rfl⟩, fun _ => hk⟩
  · exact hk

/-! ### Accounts -/

theorem getUser_unseen (id : UUID) : Unseen (getUser id) := .of_only (getUser_only rfl)

theorem revokeUserRefreshTokens_unseen (userID : UUID) (reason : String) :
    Unseen (revokeUserRefreshTokens userID reason) :=
  .of_only (revokeUserRefreshTokens_only rfl)

theorem revokeAllUserAccessTokens_unseen (userID : UUID) : Unseen (revokeAllUserAccessTokens userID) :=
  .of_only (revokeAllUserAccessTokens_only rfl)

theorem lockAccount_unseen (env : Env) (user : User) (email sourceIP : String) :
    Unseen (lockAccount env user email sourceIP) := by
  refine .now fun now => .sql rfl fun r => ?_
  split
  · trivial
  · exact logEvent_unseen trivial

theorem failedAttempt_unseen (env : Env) (user : User) (email sourceIP : String) :
    Unseen (failedAttempt env user email sourceIP) := by
  refine .sql rfl fun r => ?_
  split
  · trivial
  · refine .now fun now => ?_
    split
    · exact lockAccount_unseen env user email sourceIP
    · exact logEvent_unseen trivial

theorem successfulAttempt_unseen (user : User) : Unseen (successfulAttempt user) := by
  refine .sql rfl fun r => ?_
  split
  · trivial
  · refine .now fun now => .sql rfl fun r => ?_
    split <;> trivial

theorem checkPassword_unseen (env : Env) (user : User) (email password sourceIP : String) :
    Unseen (checkPassword env user email password sourceIP) := by
  unfold checkPassword
  split
  · trivial
  · split
    · trivial
    · trivial
    · exact failedAttempt_unseen env user email sourceIP
    · exact successfulAttempt_unseen user

theorem verifyCredentials_unseen (env : Env) (email password sourceIP : String) :
    Unseen (verifyCredentials env email password sourceIP) := by
  refine .sql rfl fun r => ?_
  split
  · trivial
  · trivial
  · split
    · exact checkPassword_unseen env _ email password sourceIP
    · refine .now fun now => ?_
      split
      · trivial
      · refine .sql rfl fun r => ?_
        split
        · trivial
        · exact checkPassword_unseen env _ email password sourceIP

theorem getCurrentUser_unseen (env : Env) (ctx : Option AuthContext) : Unseen (getCurrentUser env ctx) := by
  unfold getCurrentUser
  split
  · trivial
  · split
    · trivial
    · exact (getUser_unseen _).map _

theorem logoutRefreshTokens_unseen (env : Env) (userID : String) : Unseen (logoutRefreshTokens env userID) := by
  unfold logoutRefreshTokens
  split
  · trivial
  · split
    · trivial
    · exact (revokeUserRefreshTokens_unseen _ _).map _

/-! ### Tokens -/

theorem generateAccessToken_unseen (env : Env) (userID email : String) :
    Unseen (generateAccessToken env userID email) :=
  .of_only (generateAccessToken_only trivial (fun _ => trivial) env userID email)

theorem loginChallenge_unseen (env : Env) (user : User) : Unseen (loginChallenge env user) :=
  Unseen.bind (.of_only (generateChallengeToken_only trivial env user.id)) fun r => by
    split <;> trivial

theorem validateClientCredentials_unseen (env : Env) (clientID clientSecret : String) :
    Unseen (validateClientCredentials env clientID clientSecret) :=
  .of_only (validateClientCredentials_only (fun _ => rfl) env clientID clientSecret)

theorem replayDetected_unseen (env : Env) (record : RefreshToken) : Unseen (replayDetected env record) :=
  .sql rfl fun _ => logEvent_unseen (logEvent_unseen trivial)

/-! ### Middleware -/

theorem adminMiddleware_unseen (env : Env) (r : HttpRequest) (ctx : Option AuthContext) :
    Unseen (adminMiddleware env r ctx) :=
  .of_only (adminMiddleware_only (fun _ => rfl) env r ctx)

theorem csrfMiddleware_unseen (r : HttpRequest) (ctx : Option AuthContext) : Unseen (csrfMiddleware r ctx) :=
  .of_only (csrfMiddleware_only (fun _ => trivial) r ctx)

theorem rateLimitByUser_unseen (allow : String → Bool) (r : HttpRequest) (ctx : Option AuthContext) :
    Unseen (rateLimitByUser allow r ctx) :=
  .of_only (rateLimitByUser_only allow r ctx)

/-! ### Handlers for clients -/

theorem listClients_unseen (params : ListClientsParams) : Unseen (listClients params) := by
  refine .sql rfl fun r => ?_
  split
  · trivial
  · refine .sql rfl fun r => ?_
    split <;> trivial

theorem getClient_unseen (id : UUID) : Unseen (getClient id) := by
  refine .sql rfl fun r => ?_
  split <;> trivial

theorem blind_of_administers (q : Request) (hq : q.Administers) : q.Blind := by
  cases q with
  | sql q => cases q <;> first | rfl | cases hq
  | _ => trivial

theorem regenerateSecret_unseen (env : AdminEnv) (id : UUID) : Unseen (regenerateSecret env id) := by
  refine .sql rfl fun r => ?_
  dsimp only
  split
  · trivial
  · trivial
  · refine .randBytes fun b => ?_
    split
    · trivial
    · refine .sql rfl fun r => ?_
      split
      · trivial
      · exact logEvent_unseen trivial

/-! ### Handlers for providers -/

theorem listProvidersByClient_unseen (clientID : UUID) : Unseen (listProvidersByClient clientID) := by
  refine .sql rfl fun r => ?_
  split <;> trivial

theorem listEnabledProvidersByClient_unseen (clientID : UUID) :
    Unseen (listEnabledProvidersByClient clientID) := by
  refine .sql rfl fun r => ?_
  split <;> trivial

theorem getProvider_unseen (id : UUID) : Unseen (getProvider id) := by
  refine .sql rfl fun r => ?_
  split <;> trivial

/-! ### Handlers for users -/

theorem listUsers_unseen (params : ListUsersParams) : Unseen (listUsers params) := by
  refine .sql rfl fun r => ?_
  split
  · trivial
  · refine .sql rfl fun r => ?_
    split <;> trivial

theorem updateUserStatus_unseen (id : UUID) (isActive : Bool) : Unseen (updateUserStatus id isActive) := by
  refine .sql rfl fun r => ?_
  split <;> trivial

theorem unlockUser_unseen (env : Env) (idParam : String) (actorID : Option UUID) :
    Unseen (unlockUser env idParam actorID) := by
  unfold unlockUser
  split
  · trivial
  · refine Unseen.bind (.sql rfl fun r => ?_) fun r => ?_
    · split <;> trivial
    · split
      · trivial
      · trivial
      · exact logEvent_unseen trivial

theorem revokeUserSessions_unseen (env : Env) (idParam : String) (actorID : Option UUID) :
    Unseen (revokeUserSessions env idParam actorID) := by
  unfold revokeUserSessions
  split
  · trivial
  · refine (getUser_unseen _).bind fun r => ?_
    split
    · trivial
    · trivial
    · refine (revokeUserRefreshTokens_unseen _ _).bind fun r => ?_
      split
      · trivial
      · exact logEvent_unseen trivial

/-! ### The admin API -/

/-- The four requests about sessions. -/
def ApiRequest.session : ApiRequest → Bool
  | .listAuthorizationCodes _ | .revokeAuthorizationCode _ | .listAccessTokens _ | .revokeAccessToken _ => true
  | _ => false

theorem AdminEndpoint.session_request (env : Env) (input : AdminInput) (ctx : Option AuthContext)
    (endpoint : AdminEndpoint) :
    (endpoint.request env input ctx).session = decide (endpoint.group = .sessions) := by
  cases endpoint <;> rfl

/-- **A request that is not about sessions.** -/
theorem ApiRequest.call_unseen (env : AdminEnv) {req : ApiRequest} (h : req.session = false) :
    Unseen (req.call env) := by
  cases req with
  -- clients
  | listClients q isActive =>
    refine Unseen.map ?_ _
    unfold listClientsHandler
    split
    · trivial
    · split
      · trivial
      · exact (listClients_unseen _).map _
  | getClient clientParam =>
    refine Unseen.map ?_ _
    unfold getClientHandler
    split
    · trivial
    · exact (getClient_unseen _).map _
  | createClient userID body =>
    refine Unseen.map ?_ _
    unfold createClientHandler
    split
    · trivial
    · split
      · trivial
      · split
        · trivial
        · exact Unseen.map (.of_only (createClient_only blind_of_administers env _ _)) _
  | updateClient clientParam body =>
    refine Unseen.map ?_ _
    unfold updateClientHandler
    split
    · trivial
    · split
      · trivial
      · exact Unseen.map (.of_only (updateClient_only blind_of_administers env _ _)) _
  | regenerateClientSecret clientParam =>
    refine Unseen.map ?_ _
    unfold regenerateClientSecretHandler
    split
    · trivial
    · exact (regenerateSecret_unseen env _).map _
  | deleteClient clientParam =>
    refine Unseen.map ?_ _
    unfold deleteClientHandler
    split
    · trivial
    · exact Unseen.map (.of_only (deleteClient_only (C := Request.Blind) rfl rfl)) _
  -- providers
  | listProviders clientParam =>
    refine Unseen.map ?_ _
    unfold listProvidersHandler
    split
    · trivial
    · exact (listProvidersByClient_unseen _).map _
  | getProvider clientParam idParam =>
    refine Unseen.map ?_ _
    unfold getProviderHandler
    split
    · trivial
    · split
      · trivial
      · exact (getProvider_unseen _).map _
  | createProvider clientParam body =>
    refine Unseen.map ?_ _
    unfold createProviderHandler
    split
    · trivial
    · split
      · trivial
      · exact Unseen.map (.of_only (createProvider_only blind_of_administers env _ _)) _
  | updateProvider clientParam idParam body =>
    refine Unseen.map ?_ _
    unfold updateProviderHandler
    split
    · trivial
    · split
      · trivial
      · split
        · trivial
        · exact Unseen.map (.of_only (updateProvider_only blind_of_administers env _ _ _)) _
  | deleteProvider clientParam idParam =>
    refine Unseen.map ?_ _
    unfold deleteProviderHandler
    split
    · trivial
    · split
      · trivial
      · exact Unseen.map (.of_only (onOwnProvider_only blind_of_administers _ _ (q := .deleteOAuthProvider _) trivial)) _
  | listEnabledProviders clientParam =>
    refine Unseen.map ?_ _
    unfold listEnabledProvidersHandler
    split
    · trivial
    · exact (listEnabledProvidersByClient_unseen _).map _
  -- users
  | listUsers q isActive isAdmin =>
    refine Unseen.map ?_ _
    unfold listUsersHandler
    split
    · trivial
    · split
      · trivial
      · split
        · trivial
        · exact (listUsers_unseen _).map _
  | updateUserStatus idParam body =>
    refine Unseen.map ?_ _
    unfold updateUserStatusHandler
    split
    · trivial
    · split
      · trivial
      · exact (updateUserStatus_unseen _ _).map _
  | unlockUser idParam actorID => exact (unlockUser_unseen _ _ _).map _
  | revokeUserSessions idParam actorID => exact (revokeUserSessions_unseen _ _ _).map _
  -- sessions
  | listAuthorizationCodes | revokeAuthorizationCode | listAccessTokens | revokeAccessToken => cases h

end GoauthServer
