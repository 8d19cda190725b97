import GoauthServer.Spec.Grants
import GoauthServer.Transport.Server

/-!
# What is done in the name of a client

Six operations act for a client: the exchange of a code, the rotation of a refresh token, a revocation with
client credentials, the login page, the callback page, and the callback itself. Each of them looks the client
up first, and does nothing else unless it finds it active (`acting`). The other operations store nothing for a
client (`passive`). `ServerOperation.obeys` collects that for the whole server.
-/

namespace GoauthServer

open Interact

variable {id : UUID} {log : Log effects} {op : Operation}

/-- The call has looked up the client and found it active. -/
def FoundActive (id : UUID) (log : Log effects) : Prop :=
  ∃ c : Client, (⟨.sql (.getClient id), .ok c⟩ : Event effects) ∈ log ∧ c.isActive = some true

theorem FoundActive.cons (h : FoundActive id log) (e : Event effects) : FoundActive id (e :: log) := by
  obtain ⟨c, hc, hactive⟩ := h
  exact ⟨c, List.mem_cons_of_mem e hc, hactive⟩

/-- The client for which a statement stores a code or a token. -/
def Request.newFor? : Request → Option UUID
  | .sql (.createAuthorizationCode p) => some p.clientID
  | .sql (.createAccessToken p) => p.clientID
  | .sql (.createRefreshToken p) => some p.clientID
  | _ => none

/-- The requests of a call that acts for the client `id`: what it stores is for this client, and it does not
delete clients. -/
def Request.For (id : UUID) : Request → Prop
  | .sql (.deleteClient _) => False
  | q => ∀ c ∈ q.newFor?, c = id

/-- The requests before the client is known: its look-up, and random bytes. -/
def Request.Opening (id : UUID) : Request → Prop
  | .sql (.getClient c) => c = id
  | .randBytes _ => True
  | _ => False

/-- **A call that acts for a client.** Before it has found the client active it only looks it up, and where it
has not it hands out nothing. -/
def acting (id : UUID) {α : Type} (hands : α → Bool) : Protocol effects α :=
  ⟨fun q log => q.For id ∧ (q.Opening id ∨ FoundActive id log),
    fun a log => hands a = true → FoundActive id log⟩

/-- **A call that acts for no client.** It stores nothing for one, and deletes only a client it has looked
up. -/
def passiveRequest : Request → Log effects → Prop
  | .sql (.deleteClient id), log => ∃ c : Client, (⟨.sql (.getClient id), .ok c⟩ : Event effects) ∈ log
  | q, _ => q.newFor? = none

def passive {α : Type} : Protocol effects α := ⟨passiveRequest, fun _ _ => True⟩

/-! ### Calls that act for a client -/

section Acting

variable {id : UUID} {α : Type} {log : Log effects} {hands : α → Bool}

theorem for_of_quiet {q : Request} (h : q.Quiet) : q.For id := by
  cases q with
  | sql q =>
    cases q with
    | createAuthorizationCode | createAccessToken | createRefreshToken | deleteClient => cases h
    | _ => exact fun c hc => by cases hc
  | _ => exact fun c hc => by cases hc

/-- Once the client was found active, a call may do whatever is for this client. -/
theorem acting_of_found {p : Call α} (hp : p.Only (Request.For id))
    (h : FoundActive id log) : p.Obeys (acting id hands) log :=
  hp.obeys_of_stable (P := acting id hands) (G := FoundActive id) (fun _ _ _ _ h => h.cons _)
    (fun _ _ hq h => ⟨hq, Or.inr h⟩) (fun _ _ h _ => h) h

/-- **The look-up.** A call that ends where the client is not found, or not active. -/
theorem acting_getClient {k : Except DBError Client → Call α}
    (herr : ∀ e, ∃ a, k (.error e) = .ret a ∧ hands a = false)
    (hdead : ∀ c : Client, c.isActive ≠ some true → ∃ a, k (.ok c) = .ret a ∧ hands a = false)
    (hlive : ∀ c, (k (.ok c)).Only (Request.For id)) :
    (Call.sql (.getClient id) k).Obeys (acting id hands) log := by
  have hends : ∀ {a : α} {log'}, hands a = false → (acting id hands).result a log' := by
    intro a log' ha htrue
    rw [ha] at htrue
    cases htrue
  refine ⟨⟨fun c hc => (by cases hc), Or.inl rfl⟩, ?_⟩
  rintro (e | c)
  · obtain ⟨a, hk, ha⟩ := herr e
    rw [hk]
    exact hends ha
  · by_cases hactive : c.isActive = some true
    · exact acting_of_found (hlive c) ⟨c, List.mem_cons_self, hactive⟩
    · obtain ⟨a, hk, ha⟩ := hdead c hactive
      rw [hk]
      exact hends ha

theorem only_for_of_quiet {p : Call α} (hp : Quiet p) : p.Only (Request.For id) :=
  hp.mono fun _ => for_of_quiet

theorem for_of_issues (q : Request) (hq : q.Issues id) : q.For id := by
  cases q with
  | sql q =>
    cases q with
    | createAccessToken p => exact fun c hc => Option.some.inj (Eq.symm (Eq.trans hq.symm hc))
    | createRefreshToken p => exact fun c hc => (Option.some.inj hc).symm.trans hq
    | createAuditLogEntry p => exact for_of_quiet rfl
    | _ => cases hq
  | _ => exact for_of_quiet trivial

/-! ### The exchange -/

theorem exchangeCodeForToken_acting (env : Env) (code : String) (clientSecret redirectURI : String) :
    (exchangeCodeForToken env code id clientSecret redirectURI).Obeys (acting id Except.isOk) log := by
  have honly := exchangeCodeForToken_only (C := Request.For id) (fun _ => for_of_quiet rfl) (fun _ => for_of_quiet rfl)
    (fun _ => for_of_quiet rfl) (fun _ => for_of_quiet rfl) for_of_issues env code clientSecret redirectURI
  refine acting_getClient (fun e => ?_) (fun c hc => ⟨_, if_pos hc, rfl⟩) fun c => honly.2 (.ok c)
  cases e <;> exact ⟨_, rfl, rfl⟩

/-! ### The rotation -/

theorem rotateRefreshToken_acting (env : Env) (rawToken : String) {clientID : String}
    (hparse : env.lib.uuidParse clientID = some id) (clientSecret : String) :
    (rotateRefreshToken env rawToken clientID clientSecret).Obeys (acting id Except.isOk) log := by
  unfold rotateRefreshToken
  rw [hparse]
  refine acting_getClient (fun e => ?_) (fun c hc => ⟨_, if_pos hc, rfl⟩) fun c => ?_
  · cases e <;> exact ⟨_, rfl, rfl⟩
  dsimp only
  split
  · trivial
  split
  · trivial
  refine ⟨for_of_quiet rfl, ?_⟩
  rintro (e | record)
  · cases e <;> trivial
  · exact checkRecord_only (fun _ _ => for_of_quiet rfl) (fun _ => for_of_quiet rfl)
      (fun _ => for_of_quiet rfl) for_of_issues env record

/-! ### Revocation with client credentials -/

/-- The credentials are valid. -/
def confirms : Except AuthError Bool → Bool
  | .ok valid => valid
  | .error _ => false

theorem validateClientCredentials_acting (env : Env) {clientID : String}
    (hparse : env.lib.uuidParse clientID = some id) (clientSecret : String) :
    (validateClientCredentials env clientID clientSecret).Obeys (acting id confirms) log := by
  unfold validateClientCredentials
  rw [hparse]
  refine acting_getClient (fun e => ?_) (fun c hc => ⟨_, if_pos hc, rfl⟩) fun c => ?_
  · cases e <;> exact ⟨_, rfl, rfl⟩
  dsimp only
  split <;> trivial

/-- The client whose credentials a request for revocation presents. -/
def revokeClient? (env : Env) (authorization : String) : Option UUID :=
  (env.lib.basicAuth authorization).bind fun credentials => env.lib.uuidParse credentials.1

theorem revoke_acting (env : Env) {authorization : String} (h : revokeClient? env authorization = some id)
    (form : Option (String × String)) (hands : ℕ → Bool) (hhands : hands 401 = false) :
    (revoke env authorization form).Obeys (acting id hands) log := by
  obtain ⟨⟨clientID, clientSecret⟩, hauth, hparse⟩ := Option.bind_eq_some_iff.mp h
  have hvalid : (authenticateRevokeRequest env authorization).Obeys (acting id fun valid => valid) log := by
    unfold authenticateRevokeRequest
    rw [hauth]
    refine (validateClientCredentials_acting env hparse clientSecret).andThen (fun _ _ h => h) ?_
    rintro (e | valid) log' hfound
    · exact fun h => by cases h
    · exact hfound
  refine hvalid.andThen (fun _ _ h => h) ?_
  rintro (_ | _) log' hfound
  · intro h401
    rw [hhands] at h401
    cases h401
  · refine acting_of_found ?_ (hfound rfl)
    dsimp only
    split
    · trivial
    split
    · trivial
    · exact (only_for_of_quiet (revokeAnyToken_quiet env _ _)).bind fun _ => trivial

/-! ### The authorization code flow -/

theorem for_of_signsIn (q : Request) (hq : q.SignsIn id) : q.For id := by
  cases q with
  | sql q =>
    cases q with
    | createAuthorizationCode p => exact fun c hc => (Option.some.inj hc).symm.trans hq
    | getClient | getOAuthProviderByClientAndName | getUserByProviderID | updateLastLogin =>
      exact for_of_quiet rfl
    | createUser => exact fun c hc => by cases hc
    | _ => cases hq
  | _ => exact for_of_quiet trivial

theorem handleProviderCallback_acting (env : Env)
    (providerName code callbackURL clientRedirectURI : String) (scope : Option String) :
    (handleProviderCallback env id providerName code callbackURL clientRedirectURI scope).Obeys
      (acting id Except.isOk) log := by
  have honly := (handleProviderCallback_signsIn env id providerName code callbackURL clientRedirectURI
    scope).mono for_of_signsIn
  refine acting_getClient (fun e => ?_) (fun c hc => ⟨_, if_pos hc, rfl⟩) fun c => honly.2 (.ok c)
  cases e <;> exact ⟨_, rfl, rfl⟩

theorem initiateAuthorization_acting (env : Env)
    (authCodeURL : OAuthProviderWithSecret → (callbackURL state : String) → String)
    (providerName callbackURL clientRedirectURI state : String) :
    (initiateAuthorization env authCodeURL id providerName callbackURL clientRedirectURI state).Obeys
      (acting id Except.isOk) log := by
  have honly := (initiateAuthorization_signsIn env authCodeURL id providerName callbackURL clientRedirectURI
    state).mono for_of_signsIn
  refine acting_getClient (fun e => ?_) (fun c hc => ⟨_, if_pos hc, rfl⟩) fun c => honly.2 (.ok c)
  cases e <;> exact ⟨_, rfl, rfl⟩

/-- The response redirects the browser. -/
def WebReply.redirects (r : WebReply) : Bool :=
  match r.body with
  | .location _ => true
  | _ => false

theorem redirects_handleLoginError (e : AuthError) : (handleLoginError e).redirects = false := by
  unfold handleLoginError
  cases e.root <;> rfl

theorem redirects_handleCallbackError (e : AuthError) : (handleCallbackError e).redirects = false := by
  unfold handleCallbackError
  cases e.root <;> rfl

/-- A response that does not redirect may be given at any time. -/
theorem acting_ret {a : α} (h : hands a = false) : (Prog.ret a : Call α).Obeys (acting id hands) log := by
  intro ha
  rw [h] at ha
  cases ha

theorem webLogin_acting (env : WebEnv) {r : WebLogin} (hparse : env.auth.lib.uuidParse r.clientID = some id) :
    (webLogin env r).Obeys (acting id WebReply.redirects) log := by
  unfold webLogin
  rw [hparse]
  dsimp only
  split
  · exact acting_ret rfl
  split
  · exact acting_ret rfl
  refine ⟨⟨fun c hc => (by cases hc), Or.inl trivial⟩, ?_⟩
  rintro (_ | bytes)
  · exact acting_ret rfl
  refine (initiateAuthorization_acting env.auth _ _ _ _ _).andThen (fun _ _ h => h) ?_
  rintro (e | authURL) log' hfound
  · exact acting_ret (redirects_handleLoginError e)
  · exact fun _ => hfound rfl

theorem webCallback_acting (env : WebEnv) {r : WebCallback}
    (hparse : env.auth.lib.uuidParse r.clientID = some id) :
    (webCallback env r).Obeys (acting id WebReply.redirects) log := by
  unfold webCallback
  rw [hparse]
  dsimp only
  repeat' split
  all_goals first | exact acting_ret rfl | skip
  refine (handleProviderCallback_acting env.auth _ _ _ _ _).andThen (fun _ _ h => h) ?_
  rintro (e | authCode) log' hfound
  · exact acting_ret (redirects_handleCallbackError e)
  · dsimp only
    split
    · exact acting_ret rfl
    · exact fun _ => hfound rfl

end Acting

/-! ### The whole server -/

/-- The client for which an operation acts. -/
def Operation.client? (env : Env) : Operation → Option UUID
  | .handleProviderCallback clientID _ _ _ _ _ => some clientID
  | .exchangeCodeForToken _ clientID _ _ => some clientID
  | .rotateRefreshToken _ clientID _ => env.lib.uuidParse clientID
  | .revoke authorization _ => revokeClient? env authorization
  | _ => none

def ServerOperation.client? (env : WebEnv) : ServerOperation → Option UUID
  | .auth op => op.client? env.auth
  | .webLogin r => env.auth.lib.uuidParse r.clientID
  | .webCallback r => env.auth.lib.uuidParse r.clientID
  | .client _ | .provider _ => none

/-- The response hands out tokens or a code, or it redirects the browser. -/
def Outcome.hands : Outcome → Bool
  | .tokens r => r.isOk
  | .code r => r.isOk
  | .login _ | .done => false

def ServerReply.hands : ServerReply → Bool
  | .auth r => r.hands
  | .web r => r.redirects
  | .client _ | .provider => false

/-- What an operation may do, for the client for which it acts. -/
def ServerOperation.protocol (env : WebEnv) (op : ServerOperation) : Protocol effects ServerReply :=
  match op.client? env with
  | some id => acting id ServerReply.hands
  | none => passive

/-- The operations that act for no client. -/
theorem Operation.passive_of_request {env : Env} (hop : op.client? env = none) {q : Request}
    (h : (op.fullProtocol env).request q log) : passiveRequest q log := by
  obtain ⟨hreq, hgrant⟩ := h
  cases q with
  | sql q =>
    cases q with
    | createAuthorizationCode p =>
      obtain ⟨_, _, _, _, _, _, rfl⟩ := Operation.eq_of_createAuthorizationCode hreq
      cases hop
    | createAccessToken p =>
      rcases Operation.eq_of_createAccessToken hreq with
        ⟨_, _, _, rfl⟩ | ⟨_, _, rfl⟩ | ⟨_, _, _, rfl⟩ | ⟨_, _, _, _, rfl⟩
      · exact hgrant.1
      · exact hgrant.1
      · obtain ⟨cid, hcid⟩ := hgrant
        exact absurd (hcid.parsed.symm.trans hop) (by simp)
      · cases hop
    | createRefreshToken p =>
      rcases Operation.eq_of_createRefreshToken hreq with ⟨_, _, _, rfl⟩ | ⟨_, _, _, _, rfl⟩
      · obtain ⟨cid, hcid⟩ := hgrant
        exact absurd (hcid.parsed.symm.trans hop) (by simp)
      · cases hop
    | deleteClient id =>
      cases op with
      | updateUserStatus => rcases hreq with hreq | hreq <;> cases hreq
      | _ => cases hreq
    | _ => rfl
  | _ => rfl

section Passive

variable {α : Type} {log : Log effects}

/-- A call whose result is only renamed. -/
theorem map_passive {β : Type} {p : Call α} (f : α → β) (hp : p.Obeys passive log) :
    (p.map f).Obeys passive log :=
  hp.map (fun _ _ h => h) fun _ _ h => h

/-- A call that stores nothing for a client and deletes none, whatever it has read. -/
theorem passive_of_only {p : Call α} (hp : p.Only fun q => ∀ log, passiveRequest q log) :
    p.Obeys passive log :=
  hp.obeys (fun _ log h => h log) (fun _ _ => trivial) log

theorem passive_of_administers (q : Request) (hq : q.Administers) (log : Log effects) :
    passiveRequest q log := by
  cases q with
  | sql q => cases q <;> first | rfl | cases hq
  | _ => rfl

/-- The client that is deleted was looked up. -/
theorem deleteClient_passive (id : UUID) : (deleteClient id).Obeys passive log := by
  refine ⟨rfl, ?_⟩
  rintro (e | existing)
  · cases e <;> trivial
  refine ⟨⟨existing, List.mem_cons_self⟩, ?_⟩
  rintro (e | _) <;> trivial

theorem ClientOperation.call_passive (env : AdminEnv) (op : ClientOperation) :
    (op.call env).Obeys passive log := by
  have haudit : ∀ p log, passiveRequest (.sql (.createAuditLogEntry p)) log := fun _ _ => rfl
  have hC := passive_of_administers
  cases op with
  | create dto adminUserID => exact passive_of_only ((createClient_only hC env dto adminUserID).map _)
  | update id dto => exact passive_of_only ((updateClient_only hC env id dto).map _)
  | regenerate id => exact passive_of_only ((regenerateSecret_only hC env haudit id).map _)
  | delete id => exact map_passive _ (deleteClient_passive id)
  | bootstrap cfg => exact passive_of_only ((bootstrapDefaultClient_only hC env haudit cfg).map _)

theorem ProviderOperation.call_passive (env : AdminEnv) (op : ProviderOperation) :
    (op.call env).Obeys passive log :=
  passive_of_only (op.call_only passive_of_administers env)

end Passive

/-- An operation that acts for a client. -/
theorem Operation.obeys_acting (env : Env) (h : op.client? env = some id) :
    (op.call env).Obeys (acting id Outcome.hands) [] := by
  cases op with
  | handleProviderCallback clientID providerName code callbackURL clientRedirectURI scope =>
    obtain rfl := Option.some.inj h
    exact (handleProviderCallback_acting env _ _ _ _ _).map (fun _ _ h => h) fun _ _ h => h
  | exchangeCodeForToken code clientID clientSecret redirectURI =>
    obtain rfl := Option.some.inj h
    exact (exchangeCodeForToken_acting env _ _ _).map (fun _ _ h => h) fun _ _ h => h
  | rotateRefreshToken rawToken clientID clientSecret =>
    exact (rotateRefreshToken_acting env _ h _).map (fun _ _ h => h) fun _ _ h => h
  | revoke authorization form =>
    exact (revoke_acting env h form (fun _ => false) rfl).map (fun _ _ h => h) fun _ _ h => h
  | _ => cases h

/-- **Every operation keeps to its protocol.** -/
theorem ServerOperation.obeys (env : WebEnv) (admin : AdminEnv) (op : ServerOperation) :
    (op.call env admin).Obeys (op.protocol env) [] := by
  unfold ServerOperation.protocol
  split
  · next id hid =>
    cases op with
    | auth op => exact (op.obeys_acting env.auth hid).map (fun _ _ h => h) fun _ _ h => h
    | webLogin r => exact (webLogin_acting env hid).map (fun _ _ h => h) fun _ _ h => h
    | webCallback r => exact (webCallback_acting env hid).map (fun _ _ h => h) fun _ _ h => h
    | client op => cases hid
    | provider op => cases hid
  · next hid =>
    cases op with
    | auth op =>
      exact (op.obeys_full env.auth).map (fun _ _ h => Operation.passive_of_request hid h) fun _ _ _ => trivial
    | webLogin r =>
      have hparse : env.auth.lib.uuidParse r.clientID = none := hid
      simp only [ServerOperation.call, GoauthServer.webLogin, hparse]
      trivial
    | webCallback r =>
      have hparse : env.auth.lib.uuidParse r.clientID = none := hid
      simp only [ServerOperation.call, GoauthServer.webCallback, hparse]
      trivial
    | client op => exact map_passive _ (op.call_passive admin)
    | provider op => exact map_passive _ (op.call_passive admin)

end GoauthServer
