import GoauthServer.Service.Deployment
import GoauthServer.Spec.Secrecy

/-!
# Stored secrets stay in the store

What a handler of the admin API, or the public list of providers, answers in two stores that agree is the same
(`stored_secrets_hidden`): no response depends on the hash of a client secret or a password, on the credentials
of a provider, on the hash of an access token or on an authorization code.

Most services map each row to a record without the secret columns, so that their results are equal already.
There are three exceptions, and for each the relation between the two results is weaker. `UpdateUserStatus`
returns the row, and `ListAuthorizationCodes` a record with the code in it: the handler is what drops the
secret. `UpdateProvider` reads the stored secret and writes it back.
-/

namespace GoauthServer

open Interact Relational

variable {α β : Type} {Q : α → β → Prop}

/-! ### Rules -/

/-- A statement, by its two outcomes. -/
theorem Similar.sql_cases {q : Query} {k : Except DBError q.Row → Call α} {k' : Except DBError q.Row → Call β}
    (hq : q.ofAdmin = true) (herror : ∀ e, Similar Q (k (.error e)) (k' (.error e)))
    (hok : ∀ r r', q.SameRow r r' → Similar Q (k (.ok r)) (k' (.ok r'))) :
    Similar Q (Call.sql q k) (Call.sql q k') := by
  refine Similar.sql hq fun r r' hr => ?_
  cases hr with
  | error e => exact herror e
  | ok h => exact hok _ _ h

theorem logEvent_similar {env : Env} {entry : AuditEntry} {k : Call α} {k' : Call β}
    (hk : Similar Q k k') : Similar Q (env.logEvent entry k) (env.logEvent entry k') := by
  unfold Env.logEvent
  split
  · exact Similar.sql rfl fun _ _ _ => hk
  · exact hk

theorem map_of_forall₂ {ρ σ : Type} {R : ρ → ρ → Prop} {l l' : List ρ} (h : List.Forall₂ R l l') {f : ρ → σ}
    (hf : ∀ r r', R r r' → f r = f r') : l.map f = l'.map f := by
  induction h with
  | nil => rfl
  | cons hr _ ih => rw [List.map_cons, List.map_cons, hf _ _ hr, ih]

/-! ### What the services return of a row -/

theorem clientKey_shown : ∀ c c' : Client, c.shown = c'.shown → c.id = c'.id := of_shown Client.id fun _ => rfl

theorem owner_shown : ∀ o o' : OauthProvider, o.shown = o'.shown → o.clientID = o'.clientID :=
  of_shown OauthProvider.clientID fun _ => rfl

theorem toClient_shown : ∀ c c' : Client, c.shown = c'.shown → toClient c = toClient c' :=
  of_shown toClient fun _ => rfl

theorem toOAuthProvider_shown :
    ∀ o o' : OauthProvider, o.shown = o'.shown → toOAuthProvider o = toOAuthProvider o' :=
  of_shown toOAuthProvider fun _ => rfl

theorem toUser_shown : ∀ u u' : User, u.shown = u'.shown → toUser u = toUser u' :=
  of_shown toUser fun _ => rfl

theorem toAccessToken_shown : ∀ t t' : AccessToken, t.shown = t'.shown → toAccessToken t = toAccessToken t' :=
  of_shown toAccessToken fun _ => rfl

/-- The record that `ListAuthorizationCodes` returns has the code, but its rendering has not. -/
theorem toAuthorizationCodeResponse_shown (env : Env) : ∀ c c' : AuthorizationCode, c.shown = c'.shown →
    toAuthorizationCodeResponse env (toAuthorizationCode c) =
      toAuthorizationCodeResponse env (toAuthorizationCode c') :=
  of_shown (fun c => toAuthorizationCodeResponse env (toAuthorizationCode c)) fun _ => rfl

/-! ### The client service -/

theorem listClients_similar (params : ListClientsParams) :
    Similar Eq (listClients params) (listClients params) := by
  refine Similar.sql_cases rfl (fun _ => .ret rfl) fun rows rows' hrows => ?_
  refine Similar.sql_cases rfl (fun _ => .ret rfl) fun total total' htotal => ?_
  rw [map_of_forall₂ hrows toClient_shown, show total = total' from htotal]
  exact .ret rfl

theorem getClient_similar (id : UUID) : Similar Eq (getClient id) (getClient id) := by
  refine Similar.sql_cases rfl (fun e => by cases e <;> exact .ret rfl) fun row row' hrow => ?_
  exact .ret (congrArg Except.ok (toClient_shown row row' hrow))

theorem createClient_similar (env : AdminEnv) (dto : CreateClientDTO) (adminUserID : UUID) :
    Similar Eq (createClient env dto adminUserID) (createClient env dto adminUserID) := by
  unfold createClient
  split
  · exact .ret rfl
  · refine Similar.randBytes fun bytes => ?_
    cases bytes with
    | none => exact .ret rfl
    | some bytes =>
      refine Similar.sql_cases rfl (fun e => by cases e <;> exact .ret rfl) fun row row' hrow => ?_
      refine .ret ?_
      rw [toClient_shown row row' hrow]

theorem updateClient_similar (env : AdminEnv) (id : UUID) (dto : UpdateClientDTO) :
    Similar Eq (updateClient env id dto) (updateClient env id dto) := by
  unfold updateClient
  split
  · exact .ret rfl
  · refine Similar.sql_cases rfl (fun e => by cases e <;> exact .ret rfl) fun row row' hrow => ?_
    exact .ret (congrArg Except.ok (toClient_shown row row' hrow))

theorem regenerateSecret_similar (env : AdminEnv) (id : UUID) :
    Similar Eq (regenerateSecret env id) (regenerateSecret env id) := by
  refine Similar.sql_cases rfl (fun e => by cases e <;> exact .ret rfl) fun row row' hrow => ?_
  -- the new hash is written for the same client, and the old one is not used
  have hid := clientKey_shown row row' hrow
  refine Similar.randBytes fun bytes => ?_
  cases bytes with
  | none => exact .ret rfl
  | some bytes =>
    dsimp only
    rw [hid]
    refine Similar.sql_cases rfl (fun _ => .ret rfl) fun updated updated' hupdated => ?_
    dsimp only
    rw [clientKey_shown updated updated' hupdated, toClient_shown updated updated' hupdated]
    exact logEvent_similar (.ret rfl)

theorem deleteClient_similar (id : UUID) : Similar Eq (deleteClient id) (deleteClient id) := by
  refine Similar.sql_cases rfl (fun e => by cases e <;> exact .ret rfl) fun _ _ _ => ?_
  exact Similar.sql_cases rfl (fun _ => .ret rfl) fun _ _ _ => .ret rfl

/-! ### The provider service -/

theorem listProvidersByClient_similar (clientID : UUID) :
    Similar Eq (listProvidersByClient clientID) (listProvidersByClient clientID) := by
  refine Similar.sql_cases rfl (fun _ => .ret rfl) fun rows rows' hrows => ?_
  exact .ret (congrArg Except.ok (map_of_forall₂ hrows toOAuthProvider_shown))

theorem listEnabledProvidersByClient_similar (clientID : UUID) :
    Similar Eq (listEnabledProvidersByClient clientID) (listEnabledProvidersByClient clientID) := by
  refine Similar.sql_cases rfl (fun _ => .ret rfl) fun rows rows' hrows => ?_
  exact .ret (congrArg Except.ok (map_of_forall₂ hrows toOAuthProvider_shown))

theorem getProvider_similar (id : UUID) : Similar Eq (getProvider id) (getProvider id) := by
  refine Similar.sql_cases rfl (fun e => by cases e <;> exact .ret rfl) fun row row' hrow => ?_
  exact .ret (congrArg Except.ok (toOAuthProvider_shown row row' hrow))

theorem encrypt_similar (env : AdminEnv) (plaintext : String) :
    Similar Eq (encrypt env plaintext) (encrypt env plaintext) :=
  Similar.randBytes fun nonce => by cases nonce <;> exact .ret rfl

theorem createProvider_similar (env : AdminEnv) (clientID : UUID) (dto : CreateProviderDTO) :
    Similar Eq (createProvider env clientID dto) (createProvider env clientID dto) := by
  unfold createProvider
  split
  · exact .ret rfl
  · refine (encrypt_similar env _).bind_eq fun secret => ?_
    cases secret with
    | error e => exact .ret rfl
    | ok secret =>
      refine Similar.sql_cases rfl (fun e => by cases e <;> exact .ret rfl) fun row row' hrow => ?_
      exact .ret (congrArg Except.ok (toOAuthProvider_shown row row' hrow))

theorem getOwnProvider_similar (id clientID : UUID) :
    Similar (ExceptRel fun o o' : OauthProvider => o.shown = o'.shown) (getOwnProvider id clientID)
      (getOwnProvider id clientID) := by
  refine Similar.sql_cases rfl (fun e => by cases e <;> exact .ret (.error _)) fun row row' hrow => ?_
  dsimp only
  rw [owner_shown row row' hrow]
  split
  · exact .ret (.error _)
  · exact .ret (.ok hrow)

/-- The secret that is written may be the stored one, so nothing is said about it. -/
theorem updatedSecret_similar (env : AdminEnv) (existing existing' : OauthProvider) (secret : String) :
    Similar (ExceptRel fun _ _ => True) (updatedSecret env existing secret)
      (updatedSecret env existing' secret) := by
  unfold updatedSecret
  split
  · refine (encrypt_similar env secret).map fun r r' hr => ?_
    subst hr
    cases r with
    | error e => exact .error _
    | ok s => exact .ok trivial
  · exact .ret (.ok trivial)

theorem updateProvider_similar (env : AdminEnv) (id clientID : UUID) (dto : UpdateProviderDTO) :
    Similar Eq (updateProvider env id clientID dto) (updateProvider env id clientID dto) := by
  unfold updateProvider
  split
  · exact .ret rfl
  · refine (getOwnProvider_similar id clientID).bind fun existing existing' hexisting => ?_
    cases hexisting with
    | error e => exact .ret rfl
    | ok hrow =>
      refine (updatedSecret_similar env _ _ _).bind fun secret secret' hsecret => ?_
      cases hsecret with
      | error e => exact .ret rfl
      | @ok secret secret' _ =>
        -- the two updates differ in the secret they write, and in nothing else
        refine Similar.update
          (p := { id := id, displayName := dto.displayName, providerClientID := dto.providerClientID
                  providerClientSecret := "", authUrl := dto.authURL, tokenUrl := dto.tokenURL
                  userInfoUrl := dto.userInfoURL, scopes := dto.scopes, isEnabled := some dto.isEnabled })
          fun r r' hr => ?_
        cases hr with
        | error e => exact .ret rfl
        | ok hupdated => exact .ret (congrArg Except.ok (toOAuthProvider_shown _ _ hupdated))

theorem deleteProvider_similar (id clientID : UUID) :
    Similar Eq (deleteProvider id clientID) (deleteProvider id clientID) := by
  have howner : Similar Eq (validateOwnership id clientID) (validateOwnership id clientID) := by
    refine (getOwnProvider_similar id clientID).map fun r r' hr => ?_
    cases hr <;> rfl
  refine howner.bind_eq fun r => ?_
  cases r with
  | error e => exact .ret rfl
  | ok _ => exact Similar.sql_cases rfl (fun _ => .ret rfl) fun _ _ _ => .ret rfl

/-! ### The user and the session service -/

theorem listUsers_similar (params : ListUsersParams) : Similar Eq (listUsers params) (listUsers params) := by
  refine Similar.sql_cases rfl (fun _ => .ret rfl) fun rows rows' hrows => ?_
  refine Similar.sql_cases rfl (fun _ => .ret rfl) fun total total' htotal => ?_
  rw [map_of_forall₂ hrows toUser_shown, show total = total' from htotal]
  exact .ret rfl

theorem updateUserStatus_similar (id : UUID) (isActive : Bool) :
    Similar (ExceptRel fun u u' : User => u.shown = u'.shown) (updateUserStatus id isActive)
      (updateUserStatus id isActive) :=
  Similar.sql_cases rfl (fun e => by cases e <;> exact .ret (.error _)) fun _ _ hrow => .ret (.ok hrow)

theorem unlockUserAccount_similar (id : UUID) : Similar Eq (unlockUserAccount id) (unlockUserAccount id) :=
  Similar.sql_cases rfl (fun e => by cases e <;> exact .ret rfl) fun _ _ _ => .ret rfl

theorem getUser_similar (id : UUID) :
    Similar (ExceptRel fun u u' : User => u.shown = u'.shown) (getUser id) (getUser id) :=
  Similar.sql_cases rfl (fun e => by cases e <;> exact .ret (.error _)) fun _ _ hrow => .ret (.ok hrow)

theorem revokeUserRefreshTokens_similar (id : UUID) (reason : String) :
    Similar Eq (revokeUserRefreshTokens id reason) (revokeUserRefreshTokens id reason) :=
  Similar.sql_cases rfl (fun _ => .ret rfl) fun _ _ _ => .ret rfl

theorem listAuthorizationCodes_similar (env : Env) (params : ListSessionsParams) :
    Similar (ExceptRel fun r r' => r.1.map (toAuthorizationCodeResponse env) =
        r'.1.map (toAuthorizationCodeResponse env) ∧ r.2 = r'.2)
      (listAuthorizationCodes params) (listAuthorizationCodes params) := by
  refine Similar.sql_cases rfl (fun _ => .ret (.error _)) fun rows rows' hrows => ?_
  refine Similar.sql_cases rfl (fun _ => .ret (.error _)) fun total total' htotal => ?_
  refine .ret (.ok ⟨?_, htotal⟩)
  rw [List.map_map, List.map_map]
  exact map_of_forall₂ hrows (toAuthorizationCodeResponse_shown env)

theorem listAccessTokens_similar (params : ListSessionsParams) :
    Similar Eq (listAccessTokens params) (listAccessTokens params) := by
  refine Similar.sql_cases rfl (fun _ => .ret rfl) fun rows rows' hrows => ?_
  refine Similar.sql_cases rfl (fun _ => .ret rfl) fun total total' htotal => ?_
  rw [map_of_forall₂ hrows toAccessToken_shown, show total = total' from htotal]
  exact .ret rfl

theorem sessionRevokeAuthorizationCode_similar (id : UUID) :
    Similar Eq (sessionRevokeAuthorizationCode id) (sessionRevokeAuthorizationCode id) := by
  refine Similar.sql_cases rfl (fun e => by cases e <;> exact .ret rfl) fun _ _ _ => ?_
  exact Similar.sql_cases rfl (fun _ => .ret rfl) fun _ _ _ => .ret rfl

theorem sessionRevokeAccessToken_similar (id : UUID) :
    Similar Eq (sessionRevokeAccessToken id) (sessionRevokeAccessToken id) := by
  refine Similar.sql_cases rfl (fun e => by cases e <;> exact .ret rfl) fun _ _ _ => ?_
  exact Similar.sql_cases rfl (fun _ => .ret rfl) fun _ _ _ => .ret rfl

/-! ### Handlers -/

theorem updateUserStatusHandler_similar (env : Env) (idParam : String) (body : Except String Bool) :
    Similar Eq (updateUserStatusHandler env idParam body) (updateUserStatusHandler env idParam body) := by
  unfold updateUserStatusHandler
  split
  · exact .ret rfl
  · split
    · exact .ret rfl
    · refine (updateUserStatus_similar _ _).map fun r r' hr => ?_
      cases hr with
      | error e => rfl
      | ok hrow =>
        show AccountsReply.user _ = AccountsReply.user _
        rw [toUser_shown _ _ hrow]

theorem unlockUser_similar (env : Env) (idParam : String) (actorID : Option UUID) :
    Similar Eq (unlockUser env idParam actorID) (unlockUser env idParam actorID) := by
  unfold unlockUser
  split
  · exact .ret rfl
  · refine (unlockUserAccount_similar _).bind_eq fun r => ?_
    cases r with
    | error e => cases e <;> exact .ret rfl
    | ok _ => exact logEvent_similar (.ret rfl)

theorem revokeUserSessions_similar (env : Env) (idParam : String) (actorID : Option UUID) :
    Similar Eq (revokeUserSessions env idParam actorID) (revokeUserSessions env idParam actorID) := by
  unfold revokeUserSessions
  split
  · exact .ret rfl
  · refine (getUser_similar _).bind fun r r' hr => ?_
    cases hr with
    | error e => cases e <;> exact .ret rfl
    | ok _ =>
      refine (revokeUserRefreshTokens_similar _ _).bind_eq fun r => ?_
      cases r with
      | error e => exact .ret rfl
      | ok _ => exact logEvent_similar (.ret rfl)

theorem listAuthorizationCodesHandler_similar (env : Env) (q : SessionQuery) :
    Similar Eq (listAuthorizationCodesHandler env q) (listAuthorizationCodesHandler env q) := by
  unfold listAuthorizationCodesHandler
  split
  · exact .ret rfl
  · refine (listAuthorizationCodes_similar env _).map fun r r' hr => ?_
    cases hr with
    | error e => rfl
    | ok h =>
      show AccountsReply.codes _ _ = AccountsReply.codes _ _
      rw [h.1, h.2]

/-- **A request** of the admin API in two stores that agree. -/
theorem ApiRequest.call_similar (env : AdminEnv) (req : ApiRequest) :
    Similar Eq (req.call env) (req.call env) := by
  cases req with
  -- clients
  | listClients q isActive =>
    refine Similar.map_eq ?_ _
    unfold listClientsHandler
    split
    · exact .ret rfl
    · split
      · exact .ret rfl
      · exact (listClients_similar _).map_eq _
  | getClient clientParam =>
    refine Similar.map_eq ?_ _
    unfold getClientHandler
    split
    · exact .ret rfl
    · exact (getClient_similar _).map_eq _
  | createClient userID body =>
    refine Similar.map_eq ?_ _
    unfold createClientHandler
    split
    · exact .ret rfl
    · split
      · exact .ret rfl
      · split
        · exact .ret rfl
        · exact (createClient_similar env _ _).map_eq _
  | updateClient clientParam body =>
    refine Similar.map_eq ?_ _
    unfold updateClientHandler
    split
    · exact .ret rfl
    · split
      · exact .ret rfl
      · exact (updateClient_similar env _ _).map_eq _
  | regenerateClientSecret clientParam =>
    refine Similar.map_eq ?_ _
    unfold regenerateClientSecretHandler
    split
    · exact .ret rfl
    · exact (regenerateSecret_similar env _).map_eq _
  | deleteClient clientParam =>
    refine Similar.map_eq ?_ _
    unfold deleteClientHandler
    split
    · exact .ret rfl
    · exact (deleteClient_similar _).map_eq _
  -- providers
  | listProviders clientParam =>
    refine Similar.map_eq ?_ _
    unfold listProvidersHandler
    split
    · exact .ret rfl
    · exact (listProvidersByClient_similar _).map_eq _
  | getProvider clientParam idParam =>
    refine Similar.map_eq ?_ _
    unfold getProviderHandler
    split
    · exact .ret rfl
    · split
      · exact .ret rfl
      · exact (getProvider_similar _).map_eq _
  | createProvider clientParam body =>
    refine Similar.map_eq ?_ _
    unfold createProviderHandler
    split
    · exact .ret rfl
    · split
      · exact .ret rfl
      · exact (createProvider_similar env _ _).map_eq _
  | updateProvider clientParam idParam body =>
    refine Similar.map_eq ?_ _
    unfold updateProviderHandler
    split
    · exact .ret rfl
    · split
      · exact .ret rfl
      · split
        · exact .ret rfl
        · exact (updateProvider_similar env _ _ _).map_eq _
  | deleteProvider clientParam idParam =>
    refine Similar.map_eq ?_ _
    unfold deleteProviderHandler
    split
    · exact .ret rfl
    · split
      · exact .ret rfl
      · exact (deleteProvider_similar _ _).map_eq _
  | listEnabledProviders clientParam =>
    refine Similar.map_eq ?_ _
    unfold listEnabledProvidersHandler
    split
    · exact .ret rfl
    · exact (listEnabledProvidersByClient_similar _).map_eq _
  -- users
  | listUsers q isActive isAdmin =>
    refine Similar.map_eq ?_ _
    unfold listUsersHandler
    split
    · exact .ret rfl
    · split
      · exact .ret rfl
      · split
        · exact .ret rfl
        · exact (listUsers_similar _).map_eq _
  | updateUserStatus idParam body => exact (updateUserStatusHandler_similar _ _ _).map_eq _
  | unlockUser idParam actorID => exact (unlockUser_similar _ _ _).map_eq _
  | revokeUserSessions idParam actorID => exact (revokeUserSessions_similar _ _ _).map_eq _
  -- sessions
  | listAuthorizationCodes q => exact (listAuthorizationCodesHandler_similar _ q).map_eq _
  | revokeAuthorizationCode idParam =>
    refine Similar.map_eq ?_ _
    unfold revokeAuthorizationCodeHandler
    split
    · exact .ret rfl
    · exact (sessionRevokeAuthorizationCode_similar _).map_eq _
  | listAccessTokens q =>
    refine Similar.map_eq ?_ _
    unfold listAccessTokensHandler
    split
    · exact .ret rfl
    · exact (listAccessTokens_similar _).map_eq _
  | revokeAccessToken idParam =>
    refine Similar.map_eq ?_ _
    unfold revokeAccessTokenHandler
    split
    · exact .ret rfl
    · exact (sessionRevokeAccessToken_similar _).map_eq _

/-- **Stored secrets never reach a response of the admin API.** In two stores that agree but for the columns
with secrets, a request is answered with the same response, under the same draws and faults; and the stores
agree afterwards, so that the same holds of the requests that follow. -/
theorem stored_secrets_hidden (env : AdminEnv) (req : ApiRequest) (ds : ℕ → Draw) {w w' : World}
    (h : w.Agree w') :
    ((req.call env).run backend ds w).1 = ((req.call env).run backend ds w').1 ∧
      ((req.call env).run backend ds w).2.Agree ((req.call env).run backend ds w').2 :=
  (ApiRequest.call_similar env req).run h ds

/-- The deployment, with another password of `ann`, another secret of `app` and another code. -/
def otherSecrets : Store :=
  { Deployment.store with
    users := ⟨[{ Deployment.ann with passwordHash := none }], List.pairwise_singleton _ _⟩
    clients := ⟨[{ Deployment.app with clientSecretHash := "5f4dcc3b" }], List.pairwise_singleton _ _⟩
    authorizationCodes :=
      ⟨[{ Deployment.annCode with code := "another-code" }], List.pairwise_singleton _ _⟩ }

/-- The client is shown alike under both secrets. -/
theorem stored_secrets_hidden_app :
    Deployment.store.clients.rows ≠ otherSecrets.clients.rows ∧
    (((ApiRequest.getClient Deployment.appText).call Deployment.admin).run backend
        (fun _ => Deployment.draw 7 20) ⟨0, Deployment.store⟩).1 =
      .clients (.client (toClientResponse Deployment.env (toClient Deployment.app))) ∧
    (((ApiRequest.getClient Deployment.appText).call Deployment.admin).run backend
        (fun _ => Deployment.draw 7 20) ⟨0, Deployment.store⟩).1 =
      (((ApiRequest.getClient Deployment.appText).call Deployment.admin).run backend
        (fun _ => Deployment.draw 7 20) ⟨0, otherSecrets⟩).1 := by
  refine ⟨by decide, by decide +kernel, (stored_secrets_hidden _ _ _ ⟨rfl, ?_⟩).1⟩
  exact ⟨.cons rfl .nil, .cons rfl .nil, .nil, .cons rfl .nil, .nil, rfl, rfl⟩

end GoauthServer
