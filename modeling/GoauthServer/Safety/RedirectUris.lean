import GoauthServer.Safety.Identities
import GoauthServer.Service.Client
import GoauthServer.Spec.Grants
import GoauthServer.Transport.Web
import Mathlib.Data.Fintype.Basic

/-!
# Where authorization codes are sent

The redirect URI of a web flow is checked once, by `Login`, against the URIs that are registered at that
time. `Callback` takes it from the signed cookie and does not check it again, and the cookie has no time
in it. So an administrator who takes a URI off the list does not stop the flows that are under way: a
code is still created for that URI, and the user still redirected to it.

That is the only way in which it goes wrong (`codes_to_registered_uris`). Where no update removes a URI
that a login has found registered, every code is created for a URI that is registered at that moment.
The argument follows the URI: from the row that the login read (`Registered`), through the cookie, which
carries what the login encoded as long as signatures cannot be forged (`Unforged`), to the row of the
code.
-/

namespace GoauthServer

open Interact Relational Base64

variable {op : FlowOperation} {log : Log effects}

/-! ### Logins, callbacks and updates -/

/-- A step of a browser through the flow, or an update by an administrator. -/
inductive FlowOperation where
  | login (r : WebLogin)
  | callback (r : WebCallback)
  | updateClient (id : UUID) (dto : UpdateClientDTO)

/-- The URI that a login asks for. -/
def FlowOperation.redirectURI? : FlowOperation → Option String
  | .login r => some r.redirectURI
  | _ => none

/-- The cookie that a callback presents. -/
def FlowOperation.cookie? : FlowOperation → Option String
  | .callback r => r.cookie
  | _ => none

/-- The call that serves the operation. An update answers the administrator, not a browser. -/
def FlowOperation.call (env : WebEnv) (admin : AdminEnv) : FlowOperation → Call (Option WebReply)
  | .login r => (webLogin env r).map some
  | .callback r => (webCallback env r).map some
  | .updateClient id dto => (GoauthServer.updateClient admin id dto).map fun _ => none

/-- Logins, callbacks and updates that are about to start. -/
def flows {ι : Type} (env : WebEnv) (admin : AdminEnv) (ops : ι → FlowOperation) (w : World) :
    Pool backend ι (Option WebReply) :=
  Pool.start (fun i => (ops i).call env admin) w

/-! ### What is assumed, what is asked, and when it holds -/

section Conditions

variable {ι : Type}

/-- What was signed for the cookie of a response, if it sets one. -/
def signedPayload? (r : Option (Option WebReply)) : Option (List Char) :=
  (r.join.bind WebReply.setCookie).bind fun cookie =>
    match Text.splitFirst '.' cookie.toList with
    | (b64Payload, some _) => some b64Payload
    | (_, none) => none

/-- **No forged signature.** If the cookie of call `i` verifies, then the server has signed its payload,
in a response that was sent before. -/
def Unforged (env : WebEnv) (ops : ι → FlowOperation) (c : Pool backend ι (Option WebReply)) (i : ι)
    (_ : Draw) : Prop :=
  ∀ cookie ∈ (ops i).cookie?, (decodeSession env cookie).isOk = true →
    ∃ j, signedPayload? (c.result? j) = some (Text.splitFirst '.' cookie.toList).1

/-- The parameters of an update. -/
def Request.update? : Request → Option UpdateClientParams
  | .sql (.updateClient p) => some p
  | _ => none

/-- The parameters of a new code. -/
def Request.newCode? : Request → Option CreateAuthorizationCodeParams
  | .sql (.createAuthorizationCode p) => some p
  | _ => none

theorem Request.eq_of_newCode? {q : Request} {p : CreateAuthorizationCodeParams}
    (h : q.newCode? = some p) : q = .sql (.createAuthorizationCode p) := by
  unfold Request.newCode? at h
  split at h
  · rw [Option.some.inj h]
  · cases h

/-- The row of the client `id` was read, and has the URI. -/
def Event.registers (id : UUID) (uri : String) : Event effects → Bool
  | ⟨.sql (.getClient id'), .ok client⟩ => id' == id && client.redirectUris.contains uri
  | _ => false

/-- The call has found the URI registered for the client `id`. -/
def validated (id : UUID) (uri : String) (log : Log effects) : Bool := log.any (Event.registers id uri)

/-- **The condition.** An update that is executed keeps every URI that a login has found registered for
the client. -/
def KeepsSessions (ops : ι → FlowOperation) (c : Pool backend ι (Option WebReply)) (i : ι) (d : Draw) :
    Prop :=
  ∀ p ∈ (c.next? i).bind Request.update?, d.fault = false →
    ∀ j, ∀ uri ∈ (ops j).redirectURI?, validated p.id uri (c.threads j).log = true →
      uri ∈ p.redirectUris

/-- The URI is registered for the client. -/
def Registered (s : Store) (id : UUID) (uri : String) : Prop :=
  ∃ client ∈ s.clients.rows, client.id = id ∧ uri ∈ client.redirectUris

/-- A code that is created is for a URI that is registered at this moment. -/
def CodeRegistered (c : Pool backend ι (Option WebReply)) (i : ι) (d : Draw) : Prop :=
  ∀ p ∈ (c.next? i).bind Request.newCode?,
    (respond (.sql (.createAuthorizationCode p)) d c.world).1.isOk = true →
      Registered c.world.db p.clientID p.redirectUri

variable [Fintype ι] [DecidableEq ι] (env : WebEnv) (ops : ι → FlowOperation)
  (c : Pool backend ι (Option WebReply)) (i : ι) (d : Draw)

instance : Decidable (Unforged env ops c i d) := Option.decidableForallMem _

instance : Decidable (KeepsSessions ops c i d) := Option.decidableForallMem _

instance (s : Store) (id : UUID) (uri : String) : Decidable (Registered s id uri) :=
  inferInstanceAs (Decidable (∃ client ∈ s.clients.rows, client.id = id ∧ uri ∈ client.redirectUris))

instance : Decidable (CodeRegistered c i d) := Option.decidableForallMem _

end Conditions

/-! ### What the calls do -/

section Protocols

variable {env : WebEnv} {log : Log effects}

/-- A login that sets a cookie has found its URI registered, and the cookie is its session. -/
def webLoginResult (env : WebEnv) (r : WebLogin) (reply : WebReply) (log : Log effects) : Prop :=
  ∀ cookie, reply.setCookie = some cookie → ∃ clientID state,
    env.auth.lib.uuidParse r.clientID = some clientID ∧
    cookie = encodeSession env (r.session env clientID state) ∧
    validated clientID r.redirectURI log = true

theorem handleLoginError_setCookie (e : AuthError) : (handleLoginError e).setCookie = none := by
  unfold handleLoginError
  split <;> rfl

theorem webLoginResult_error {r : WebLogin} {reply : WebReply} (h : reply.setCookie = none) :
    webLoginResult env r reply log := by
  intro cookie hcookie
  rw [h] at hcookie
  cases hcookie

/-- **A login** only reads. -/
theorem webLogin_obeys (env : WebEnv) (r : WebLogin) :
    (webLogin env r).Obeys ⟨fun q _ => Request.Reads q, webLoginResult env r⟩ [] := by
  unfold webLogin
  split
  · exact webLoginResult_error rfl
  next clientID hclientID =>
  split
  · exact webLoginResult_error rfl
  split
  · exact webLoginResult_error rfl
  refine ⟨trivial, ?_⟩
  rintro (_ | bytes)
  · exact webLoginResult_error rfl
  have herror : ∀ e log, (Prog.ret (handleLoginError e) : Call WebReply).Obeys
      ⟨fun q _ => Request.Reads q, webLoginResult env r⟩ log :=
    fun e log => webLoginResult_error (handleLoginError_setCookie e)
  refine Prog.Obeys.bind ⟨rfl, ?_⟩
  rintro (e | client)
  · cases e <;> exact herror _ _
  dsimp only
  split
  · exact herror _ _
  split
  · exact herror _ _
  next hcontains =>
  refine Prog.Obeys.bind ⟨rfl, ?_⟩
  rintro (e | row)
  · cases e <;> exact herror _ _
  dsimp only
  split
  · exact herror _ _
  rw [Prog.Obeys.ret_iff]
  dsimp only
  split
  · exact herror _ _
  -- the row of the client is in the log
  intro cookie hcookie
  refine ⟨clientID, _, hclientID, (Option.some.inj hcookie).symm, ?_⟩
  have huri : client.redirectUris.contains r.redirectURI = true := by
    rw [Bool.not_eq_true, Bool.not_eq_false'] at hcontains
    exact hcontains
  refine List.any_eq_true.mpr ⟨⟨.sql (.getClient clientID), .ok client⟩, by simp, ?_⟩
  exact Bool.and_eq_true_iff.mpr ⟨beq_self_eq_true clientID, huri⟩

/-- The session that a callback acts on: the cookie carries it, and it is for this client. -/
structure Accepted (env : WebEnv) (r : WebCallback) (clientID : UUID) (session : OauthSession) : Prop where
  parsed : env.auth.lib.uuidParse r.clientID = some clientID
  decoded : ∃ cookie, r.cookie = some cookie ∧ decodeSession env cookie = .ok session
  sameClient : session.clientID = env.auth.lib.uuidString clientID

/-- What a callback may ask for: it acts on a session, and the code it creates is for the client and the
URI of the session. -/
def webCallbackRequest (env : WebEnv) (r : WebCallback) (q : Request) (log : Log effects) : Prop :=
  ∃ clientID session, Accepted env r clientID session ∧ callbackRequest r.provider q log ∧
    callbackGrantRequest clientID r.provider session.redirectURI session.scope q log

/-- A callback sets the cookie only to clear it. -/
def webCallbackResult (reply : WebReply) (_ : Log effects) : Prop :=
  reply.setCookie = none ∨ reply.setCookie = some ""

theorem handleCallbackError_setCookie (e : AuthError) : (handleCallbackError e).setCookie = some "" := by
  unfold handleCallbackError
  split <;> rfl

/-- **A callback** keeps to its session. -/
theorem webCallback_obeys (env : WebEnv) (r : WebCallback) :
    (webCallback env r).Obeys ⟨webCallbackRequest env r, webCallbackResult⟩ [] := by
  unfold webCallback
  split
  · exact Or.inl rfl
  next clientID hclientID =>
  split
  · exact Or.inl rfl
  split
  · exact Or.inl rfl
  split
  · exact Or.inl rfl
  split
  · exact Or.inl rfl
  next cookie hcookie =>
  split
  · exact Or.inl rfl
  next session hsession =>
  split
  · exact Or.inr rfl
  split
  · exact Or.inr rfl
  next hcontext =>
  have hsame : session.clientID = env.auth.lib.uuidString clientID := by
    by_contra hne
    exact hcontext (by simp [hne])
  have haccepted : Accepted env r clientID session := ⟨hclientID, ⟨cookie, hcookie, hsession⟩, hsame⟩
  have hreq := handleProviderCallback_obeys env.auth clientID r.provider r.code
    (env.buildCallbackURL clientID r.provider) session.redirectURI session.scope
  have hgrant := handleProviderCallback_grant env.auth clientID r.provider r.code
    (env.buildCallbackURL clientID r.provider) session.redirectURI session.scope
  refine (hreq.and hgrant).andThen (fun q log h => ⟨clientID, session, haccepted, h.1, h.2⟩) ?_
  rintro (e | authCode) log -
  · exact Or.inr (handleCallbackError_setCookie e)
  · dsimp only
    split <;> exact Or.inr rfl

/-- **An update** is one statement. -/
theorem updateClient_obeys (admin : AdminEnv) (id : UUID) (dto : UpdateClientDTO) :
    (updateClient admin id dto).Obeys ⟨fun (q : Request) _ => ∃ p, q = .sql (.updateClient p),
      fun _ _ => True⟩ [] := by
  unfold updateClient
  split
  · trivial
  refine ⟨⟨_, rfl⟩, ?_⟩
  rintro (e | row)
  · cases e <;> trivial
  · trivial

end Protocols

/-- The requests of an operation. -/
def FlowOperation.request (env : WebEnv) : FlowOperation → Request → Log effects → Prop
  | .login _ => fun q _ => q.Reads
  | .callback r => webCallbackRequest env r
  | .updateClient _ _ => fun q _ => ∃ p, q = .sql (.updateClient p)

/-- The results of an operation. -/
def FlowOperation.result (env : WebEnv) : FlowOperation → Option WebReply → Log effects → Prop
  | .login r, reply, log => ∃ x, reply = some x ∧ webLoginResult env r x log
  | .callback _, reply, log => ∃ x, reply = some x ∧ webCallbackResult x log
  | .updateClient _ _, reply, _ => reply = none

def FlowOperation.protocol (env : WebEnv) (op : FlowOperation) : Protocol effects (Option WebReply) :=
  ⟨op.request env, op.result env⟩

theorem FlowOperation.obeys (env : WebEnv) (admin : AdminEnv) (op : FlowOperation) :
    (op.call env admin).Obeys (op.protocol env) [] := by
  cases op with
  | login r => exact (webLogin_obeys env r).map (fun _ _ h => h) fun x _ h => ⟨x, rfl, h⟩
  | callback r => exact (webCallback_obeys env r).map (fun _ _ h => h) fun x _ h => ⟨x, rfl, h⟩
  | updateClient id dto =>
    exact (updateClient_obeys admin id dto).map (fun _ _ h => h) fun _ _ _ => rfl

/-- A statement on the clients is an update. -/
theorem FlowOperation.keepsClients_or_update {env : WebEnv} {q : Request} (hq : op.request env q log) :
    q.keepsClients = true ∨ ∃ p, q = .sql (.updateClient p) := by
  cases op with
  | login r =>
    have hreads : q.Reads := hq
    left
    cases q with
    | sql q => cases q <;> first | rfl | cases hreads
    | _ => rfl
  | callback r =>
    obtain ⟨_, _, _, hcallback, _⟩ := hq
    exact Or.inl (keepsClients_of_callbackRequest hcallback)
  | updateClient id dto => exact Or.inr hq

/-- A code is created by a callback, for the client and the URI of its session. -/
theorem FlowOperation.newCode_of_request {env : WebEnv}
    {p : CreateAuthorizationCodeParams} (hq : op.request env (.sql (.createAuthorizationCode p)) log) :
    ∃ r clientID session, op = .callback r ∧ Accepted env r clientID session ∧ p.clientID = clientID ∧
      p.redirectUri = session.redirectURI := by
  cases op with
  | login r => cases hq
  | callback r =>
    obtain ⟨clientID, session, haccepted, _, hclient, huri, _⟩ := hq
    exact ⟨r, clientID, session, rfl, haccepted, hclient, huri⟩
  | updateClient id dto =>
    obtain ⟨_, h⟩ := hq
    cases h

/-! ### The URIs of sessions stay registered -/

section Steps

variable {d : Draw} {w : World} {id : UUID} {uri : String}

/-- A row that is read now is in the table. -/
theorem validated_respond {q : Request} {log : Log effects}
    (h : validated id uri (⟨q, (respond q d w).1⟩ :: log) = true) :
    validated id uri log = true ∨ Registered w.db id uri := by
  unfold validated at h ⊢
  rw [List.any_cons, Bool.or_eq_true] at h
  rcases h with h | h
  · right
    cases q with
    | sql q =>
      cases q with
      | getClient id' =>
        cases hr : (respond (.sql (.getClient id')) d w).1 with
        | error e =>
          rw [hr] at h
          cases h
        | ok client =>
          rw [hr] at h
          obtain ⟨hid, huri⟩ := Bool.and_eq_true_iff.mp h
          obtain ⟨hmem, hp⟩ := selectOne_ok (respond_sql_ok hr).2.1
          refine ⟨client, hmem, ?_, by simpa using huri⟩
          rw [beq_iff_eq] at hid hp
          exact hp.trans hid
      | _ => cases h
    | _ => cases h
  · exact Or.inl h

/-- An update that keeps the URI keeps it registered. -/
theorem Registered.update {p : UpdateClientParams} (h : Registered w.db id uri)
    (hkeep : d.fault = false → p.id = id → uri ∈ p.redirectUris) :
    Registered (respond (.sql (.updateClient p)) d w).2.db id uri := by
  obtain ⟨client, hmem, hid, huri⟩ := h
  have hrows := respond_clients_map (q := .sql (.updateClient p)) (fun _ h => by cases h) d w
  refine ⟨(Request.sql (.updateClient p)).clientRow d w client, ?_, ?_, ?_⟩
  · rw [hrows]
    exact List.mem_map_of_mem hmem
  · rw [Request.clientRow_id, hid]
  · cases hf : d.fault with
    | true =>
      rw [Request.clientRow_fault hf]
      exact huri
    | false =>
      rw [Request.clientRow_sql hf]
      dsimp only [Query.clientRow]
      split
      · next hp =>
        -- this is the row that is updated
        rw [beq_iff_eq, hid] at hp
        exact hkeep hf hp.symm
      · exact huri

end Steps

section Pools

variable {ι : Type} {env : WebEnv} {ops : ι → FlowOperation} {c : Pool backend ι (Option WebReply)}

/-- The invariant: what a login has found registered still is. -/
def SessionsRegistered (ops : ι → FlowOperation) (c : Pool backend ι (Option WebReply)) : Prop :=
  ∀ j, ∀ uri ∈ (ops j).redirectURI?, ∀ id, validated id uri (c.threads j).log = true →
    Registered c.world.db id uri

theorem SessionsRegistered.step [DecidableEq ι] {i : ι} {d : Draw} {q : Request}
    {k : q.Reply → Call (Option WebReply)} (hi : (c.threads i).prog = .call q k)
    (hq : (ops i).request env q (c.threads i).log) (hkeep : KeepsSessions ops c i d)
    (h : SessionsRegistered ops c) : SessionsRegistered ops (c.step i d) := by
  -- what is registered for a session stays registered
  have hstay : ∀ j, ∀ uri ∈ (ops j).redirectURI?, ∀ id, validated id uri (c.threads j).log = true →
      Registered (respond q d c.world).2.db id uri := by
    intro j uri huri id hval
    have hreg := h j uri huri id hval
    rcases FlowOperation.keepsClients_or_update hq with hkeeps | ⟨p, rfl⟩
    · unfold Registered
      rw [respond_of_keepsClients hkeeps]
      exact hreg
    · refine hreg.update fun hfault hid => hkeep p ?_ hfault j uri huri (hid ▸ hval)
      rw [Pool.next?_of_call hi]
      rfl
  refine Pool.forall_log_step (J := fun j log (w : World) => ∀ uri ∈ (ops j).redirectURI?, ∀ id,
    validated id uri log = true → Registered w.db id uri) hi ?_ ?_ fun j => h j
  · intro _ uri huri id hval
    rcases validated_respond hval with hold | hnew
    · exact hstay i uri huri id hold
    · -- only a login asks for a URI, and a login does not write
      have hreads : q.Reads := by
        cases hop : ops i with
        | login r =>
          rw [hop] at hq
          exact hq
        | _ =>
          rw [hop] at huri
          cases huri
      unfold Registered
      rw [respond_of_reads hreads]
      exact hnew
  · exact fun j _ _ => hstay j

/-- A session that verifies was begun by a login that has found its URI registered. -/
theorem exists_login (hobeys : Pool.Obeys (fun j => (ops j).protocol env) c) {b64Payload : List Char} {j : ι}
    (h : signedPayload? (c.result? j) = some b64Payload) :
    ∃ r clientID state, ops j = .login r ∧ env.auth.lib.uuidParse r.clientID = some clientID ∧
      b64Payload = env.sessionPayload (r.session env clientID state) ∧
      validated clientID r.redirectURI (c.threads j).log = true := by
  cases hres : c.result? j with
  | none =>
    rw [hres] at h
    cases h
  | some reply =>
    rw [hres] at h
    have hproto := hobeys.result hres
    cases hop : ops j with
    | login r =>
      simp only [hop] at hproto
      obtain ⟨x, rfl, hx⟩ := hproto
      cases hcookie : x.setCookie with
      | none => simp [signedPayload?, hcookie] at h
      | some cookie =>
        obtain ⟨clientID, state, hclientID, rfl, hval⟩ := hx cookie hcookie
        refine ⟨r, clientID, state, rfl, hclientID, ?_, hval⟩
        simp only [signedPayload?, Option.join_some, Option.bind_some, hcookie, splitFirst_encodeSession] at h
        exact (Option.some.inj h).symm
    | callback r =>
      simp only [hop] at hproto
      obtain ⟨x, rfl, hx | hx⟩ := hproto
      · simp [signedPayload?, hx] at h
      · simp [signedPayload?, hx, Text.splitFirst] at h
    | updateClient id dto =>
      simp only [hop] at hproto
      obtain rfl := hproto
      cases h

end Pools

/-- **Codes go to registered URIs.** In every interleaving of logins, callbacks and updates in which no
signature is forged: if no update removes a URI that a login has found registered, then each code is
created for a URI that is registered for its client at that moment. -/
theorem codes_to_registered_uris {ι : Type} [DecidableEq ι] (env : WebEnv) (admin : AdminEnv)
    (hjson : ∀ s s', env.unmarshalSession (env.marshalSession s) = some s' → s' = s)
    (huuid : ∀ text id, env.auth.lib.uuidParse text = some id →
      env.auth.lib.uuidParse (env.auth.lib.uuidString id) = some id)
    (ops : ι → FlowOperation) (w : World) (ls : List (ι × Draw))
    (hunforged : Pool.Along (Unforged env ops) (flows env admin ops w) ls)
    (hkeep : Pool.Along (KeepsSessions ops) (flows env admin ops w) ls) :
    Pool.Along CodeRegistered (flows env admin ops w) ls := by
  have hobeys : Pool.Obeys (fun j => (ops j).protocol env) (flows env admin ops w) :=
    Pool.Obeys.start (B := backend) (fun j => (ops j).obeys env admin) w
  have hstart : SessionsRegistered ops (flows env admin ops w) := by
    intro j uri _ id hval
    cases hval
  refine Pool.along_of_invariant (I := SessionsRegistered ops)
    (fun c i d q k hi hq hC h => h.step hi hq hC.2) ?_ hobeys hstart (hunforged.and hkeep)
  rintro c i d hob ⟨hunf, _⟩ hreg p hp _
  -- the request of call `i` is the statement that stores the code
  have hi : c.next? i = some (.sql (.createAuthorizationCode p)) := by
    obtain ⟨q, hnext, hcode⟩ := Option.bind_eq_some_iff.mp hp
    rw [hnext, Request.eq_of_newCode? hcode]
  obtain ⟨k, hprog⟩ := Pool.call_of_next? hi
  obtain ⟨r, clientID, session, hop, haccepted, hclient, huri⟩ :=
    FlowOperation.newCode_of_request (hob.request hprog)
  -- its cookie carries the session of a login
  obtain ⟨cookie, hcookie, hdecode⟩ := haccepted.decoded
  obtain ⟨j, hj⟩ := hunf cookie (by rw [hop]; exact hcookie) (by rw [hdecode]; rfl)
  obtain ⟨r', clientID', state, hlogin, hparse, hpayload, hval⟩ := exists_login hob hj
  have hsession : session = r'.session env clientID' state := by
    obtain ⟨b64Payload, _, payload, hsplit, _, hdec, hun⟩ := decodeSession_ok hdecode
    rw [hsplit] at hpayload
    dsimp only at hpayload
    rw [hpayload, WebEnv.sessionPayload, decode_encode rawURL_lawful] at hdec
    rw [← Option.some.inj hdec] at hun
    exact hjson _ _ hun
  -- the login was for the same client
  have hsame : clientID' = clientID := by
    have hstring : env.auth.lib.uuidString clientID' = env.auth.lib.uuidString clientID := by
      rw [← haccepted.sameClient, hsession]
      rfl
    have hself := huuid r'.clientID clientID' hparse
    rw [hstring, huuid r.clientID clientID haccepted.parsed] at hself
    exact (Option.some.inj hself).symm
  rw [hclient, huri, hsession, ← hsame]
  exact hreg j r'.redirectURI (by rw [hlogin]; rfl) clientID' hval

section Examples

open Deployment

/-- The session that a login of `app` through `google` begins. -/
def appSession : OauthSession where
  state := "BwgJCgsMDQ4PEBESExQVFhcYGRobHB0eHyAhIiMkJSY"
  clientID := appText
  provider := "google"
  redirectURI := "https://app.example/callback"
  scope := none

/-- The web flow of the deployment. The JSON of `appSession` is the byte 1, its signature the byte 2. -/
def webEnv : WebEnv where
  auth :=
    { providerEnv with
      lib := { providerEnv.lib with hmac := fun _ _ msg => if msg = encode rawURL [1] then [2] else [] } }
  scheme := "https"
  hostName := "auth.example"
  port := "443"
  marshalSession s := if s = appSession then [1] else []
  unmarshalSession bs := if bs = [1] then some appSession else none
  authCodeURL p _ _ := p.authURL
  redirectWithCode uri code := some (uri ++ "?code=" ++ code)

/-- The administration of the deployment. -/
def appAdmin : AdminEnv where
  auth := webEnv.auth
  env := "production"
  parseRequestURI _ := some ⟨"https", "app.example", "app.example"⟩
  quote s := s
  encryptSecret s _ := s

/-- The login, the callback with its cookie, and an update of `app`. -/
def appFlow (redirectURIs : List String) : Fin 3 → FlowOperation
  | 0 => .login ⟨appText, "google", "https://app.example/callback", ""⟩
  | 1 => .callback
      { clientID := appText, provider := "google", error := "", errorDescription := ""
        code := "code", state := "BwgJCgsMDQ4PEBESExQVFhcYGRobHB0eHyAhIiMkJSY"
        cookie := some (encodeSession webEnv appSession) }
  | 2 => .updateClient 1 ⟨"app", none, redirectURIs, ["authorization_code"]⟩

/-- First the login, then the update, then the callback. -/
def updateBetween : List (Fin 3 × Draw) :=
  List.replicate 3 (0, draw 7 20) ++ [(2, draw 7 20)] ++
    List.replicate 10 (1, answer 7 30 "42" "bob@example.com")

theorem unmarshalSession_webEnv (s s' : OauthSession)
    (h : webEnv.unmarshalSession (webEnv.marshalSession s) = some s') : s' = s := by
  simp only [webEnv] at h
  by_cases hs : s = appSession
  · rw [if_pos hs, if_pos rfl] at h
    exact (Option.some.inj h).symm.trans hs.symm
  · rw [if_neg hs, if_neg (by decide)] at h
    cases h

theorem uuidParse_webEnv (text : String) (id : UUID) (h : webEnv.auth.lib.uuidParse text = some id) :
    webEnv.auth.lib.uuidParse (webEnv.auth.lib.uuidString id) = some id := by
  have hcases : id = 1 ∨ id = 2 := by
    simp only [webEnv, providerEnv, lib] at h
    split at h
    · exact Or.inl (Option.some.inj h).symm
    · split at h
      · exact Or.inr (Option.some.inj h).symm
      · cases h
  rcases hcases with rfl | rfl <;> decide

/-- An update that adds a URI. -/
theorem codes_to_registered_uris_app :
    Pool.Along CodeRegistered
      (flows webEnv appAdmin
        (appFlow ["https://app.example/callback", "https://app.example/other"]) ⟨0, providerStore⟩)
      updateBetween := by
  refine codes_to_registered_uris webEnv appAdmin unmarshalSession_webEnv uuidParse_webEnv _ _ _ ?_ ?_
  · decide +kernel
  · decide +kernel

/-- **A code for a URI that is not registered.** The update between login and callback replaces the URI.
No signature is forged, and the callback creates a code for the old one. -/
theorem code_after_removal :
    Pool.Along (Unforged webEnv (appFlow ["https://app.example/new"]))
        (flows webEnv appAdmin (appFlow ["https://app.example/new"]) ⟨0, providerStore⟩) updateBetween ∧
      ¬ Pool.Along CodeRegistered
        (flows webEnv appAdmin (appFlow ["https://app.example/new"]) ⟨0, providerStore⟩)
        updateBetween := by
  decide +kernel

end Examples

end GoauthServer
