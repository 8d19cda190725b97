import GoauthServer.Framework.Lockstep
import GoauthServer.Service.Deployment
import GoauthServer.Spec.ProviderCalls
import GoauthServer.Transport.Providers

/-!
# Providers and the clients they belong to

Requests about one provider are addressed to a client. Whether the provider belongs to it is checked by one
statement, and the write is made by another one, by the identifier alone. What connects the two is that no
statement of these requests changes the client of a row, and none makes a row: at any time, whatever row has an
identifier, it belongs to the client that had it at the start (`Owners`).

So the rows of other clients stay as they are, and a provider in a response is one of the client. A request that
is answered with a row of another client goes on as if there had been none; for the handlers this is so to the
letter, and `EnableProvider` and `DisableProvider` return one error in place of another.
-/

namespace GoauthServer

open Interact Relational

/-! ### What the requests may do -/

/-- The requests to the repository of a call about the provider `id` of the client. -/
def confinedRequest (clientID id : UUID) : Request → Log effects → Prop
  | .sql (.getOAuthProvider id'), _ => id' = id
  | .sql (.updateOAuthProvider p), log => p.id = id ∧ ∃ o, OwnedIn log id clientID o
  | .sql (.disableOAuthProvider id'), log | .sql (.deleteOAuthProvider id'), log =>
    id' = id ∧ ∃ o, OwnedIn log id clientID o
  | .randBytes _, _ => True
  | _, _ => False

/-- The call got this row as an answer about the provider `id`. -/
def ReturnedIn (log : Log effects) (id : UUID) (o : OauthProvider) : Prop :=
  ⟨.sql (.getOAuthProvider id), .ok o⟩ ∈ log ∨
    ∃ p : UpdateOAuthProviderParams, p.id = id ∧ ⟨.sql (.updateOAuthProvider p), .ok o⟩ ∈ log

/-- What a call addressed to `target` may do, and respond. -/
def confinedProtocol (env : AdminEnv) (target : Option (UUID × UUID)) : Protocol effects ProviderOutcome where
  request q log := ∃ clientID id, target = some (clientID, id) ∧ confinedRequest clientID id q log
  result r log := ∀ status p, r = .response (.provider status p) →
    ∃ clientID id o o', target = some (clientID, id) ∧ OwnedIn log id clientID o ∧ ReturnedIn log id o' ∧
      p = toProviderResponse env.auth (toOAuthProvider o')

/-- An edit asks for nothing else. -/
theorem confinedRequest_of_edit {env : AdminEnv} {id : UUID} {e : ProviderEdit} {q : Request} {log : Log effects}
    (h : editRequest env id e q log) : confinedRequest e.clientID id q log := by
  cases q with
  | sql q =>
    cases q with
    | getOAuthProvider id' => exact h
    | updateOAuthProvider p =>
      obtain ⟨o, howned, hwrites⟩ := h
      exact ⟨hwrites.id_eq, o, howned⟩
    | disableOAuthProvider id' => exact h
    | deleteOAuthProvider id' => exact h
    | _ => exact h.elim
  | randBytes n => trivial
  | _ => exact h.elim

/-! ### The requests that reach the service -/

/-- The response of `GetProvider`. -/
def getOutcome (env : AdminEnv) (clientID : UUID) : Except AdminError ProviderModel → ProviderOutcome
  | .error e => .response (.failed (handleProviderError e))
  | .ok p =>
    if p.clientID ≠ clientID then .response (.failed ⟨404, "provider not found", none⟩)
    else .response (.provider 200 (toProviderResponse env.auth p))

/-- The response of `UpdateProvider`. -/
def updateOutcome (env : AdminEnv) : Except AdminError ProviderModel → ProviderOutcome
  | .error e => .response (.failed (handleProviderError e))
  | .ok p => .response (.provider 200 (toProviderResponse env.auth p))

/-- The response of `DeleteProvider`. -/
def deleteOutcome : Except AdminError Unit → ProviderOutcome
  | .error e => .response (.failed (handleProviderError e))
  | .ok _ => .response .noContent

/-- A call of the service for the provider `id` of the client, with its response. -/
inductive Serves (env : AdminEnv) (clientID id : UUID) : Call ProviderOutcome → Prop
  | get : Serves env clientID id ((getProvider id).map (getOutcome env clientID))
  | update (dto : UpdateProviderDTO) :
      Serves env clientID id ((updateProvider env id clientID dto).map (updateOutcome env))
  | delete : Serves env clientID id ((deleteProvider id clientID).map deleteOutcome)
  | enable : Serves env clientID id ((enableProvider id clientID).map .service)
  | disable : Serves env clientID id ((disableProvider id clientID).map .service)

/-- A request is refused at once, or it is served for the client and the provider it is addressed to. -/
theorem ProviderRequest.call_cases (env : AdminEnv) (req : ProviderRequest) :
    (∃ e, req.call env = .ret (.response (.failed e))) ∨
      ∃ clientID id, req.target env = some (clientID, id) ∧ Serves env clientID id (req.call env) := by
  cases req with
  | get clientParam idParam =>
    simp only [ProviderRequest.call, getProviderHandler, ProviderRequest.target, parseClientID, parseProviderID]
    cases env.auth.lib.uuidParse clientParam with
    | none => exact Or.inl ⟨_, rfl⟩
    | some clientID =>
      cases env.auth.lib.uuidParse idParam with
      | none => exact Or.inl ⟨_, rfl⟩
      | some id =>
        refine Or.inr ⟨clientID, id, rfl, ?_⟩
        rw [Prog.map_map]
        convert (Serves.get : Serves env clientID id _) using 2
        funext r
        cases r with
        | error e => rfl
        | ok p => exact apply_ite ProviderOutcome.response _ _ _
  | update clientParam idParam body =>
    simp only [ProviderRequest.call, updateProviderHandler, ProviderRequest.target, parseClientID, parseProviderID]
    cases env.auth.lib.uuidParse clientParam with
    | none => exact Or.inl ⟨_, rfl⟩
    | some clientID =>
      cases env.auth.lib.uuidParse idParam with
      | none => exact Or.inl ⟨_, rfl⟩
      | some id =>
        cases body with
        | error text => exact Or.inl ⟨_, rfl⟩
        | ok dto =>
          refine Or.inr ⟨clientID, id, rfl, ?_⟩
          rw [Prog.map_map]
          convert (Serves.update dto : Serves env clientID id _) using 2
          funext r
          cases r <;> rfl
  | delete clientParam idParam =>
    simp only [ProviderRequest.call, deleteProviderHandler, ProviderRequest.target, parseClientID, parseProviderID]
    cases env.auth.lib.uuidParse clientParam with
    | none => exact Or.inl ⟨_, rfl⟩
    | some clientID =>
      cases env.auth.lib.uuidParse idParam with
      | none => exact Or.inl ⟨_, rfl⟩
      | some id =>
        refine Or.inr ⟨clientID, id, rfl, ?_⟩
        rw [Prog.map_map]
        convert (Serves.delete : Serves env clientID id _) using 2
        funext r
        cases r <;> rfl
  | enable id clientID => exact Or.inr ⟨clientID, id, rfl, .enable⟩
  | disable id clientID => exact Or.inr ⟨clientID, id, rfl, .disable⟩

/-! ### The protocol -/

section Obeys

variable {env : AdminEnv} {clientID id : UUID}

/-- A response that shows no provider is always allowed. -/
theorem confinedProtocol_result {target : Option (UUID × UUID)} {r : ProviderOutcome} {log : Log effects}
    (h : ∀ status p, r ≠ .response (.provider status p)) : (confinedProtocol env target).result r log :=
  fun status p hp => absurd hp (h status p)

/-- The look-up of the handler `GetProvider`. -/
theorem getProvider_obeys : (getProvider id).Obeys ⟨confinedRequest clientID id, fun r log => ∀ m, r = .ok m →
      ∃ o, ⟨.sql (.getOAuthProvider id), .ok o⟩ ∈ log ∧ m = toOAuthProvider o⟩ [] := by
  refine ⟨rfl, ?_⟩
  rintro (e | o)
  · cases e <;> (intro m hm; cases hm)
  · intro m hm
    obtain rfl := Except.ok.inj hm
    exact ⟨o, List.mem_cons_self, rfl⟩

theorem Serves.obeys {call : Call ProviderOutcome} (h : Serves env clientID id call) :
    call.Obeys (confinedProtocol env (some (clientID, id))) [] := by
  cases h with
  | get =>
    refine getProvider_obeys.map (fun _ _ h => ⟨clientID, id, rfl, h⟩) ?_
    rintro (e | m) log h
    · exact confinedProtocol_result fun _ _ hp => by cases hp
    · obtain ⟨o, hmem, rfl⟩ := h m rfl
      simp only [getOutcome]
      split
      · exact confinedProtocol_result fun _ _ hp => by cases hp
      · next hclient =>
        intro status p hp
        obtain ⟨rfl, rfl⟩ := ProviderReply.provider.inj (ProviderOutcome.response.inj hp)
        exact ⟨clientID, id, o, o, rfl, ⟨hmem, not_not.mp hclient⟩, Or.inl hmem, rfl⟩
  | update dto =>
    refine (updateProvider_obeys clientID dto).map
      (fun _ _ h => ⟨clientID, id, rfl, confinedRequest_of_edit h⟩) ?_
    rintro (e | m) log h
    · exact confinedProtocol_result fun _ _ hp => by cases hp
    · intro status p hp
      obtain ⟨rfl, rfl⟩ := ProviderReply.provider.inj (ProviderOutcome.response.inj hp)
      obtain ⟨⟨o, howned⟩, params, row, hid, rfl, hmem⟩ := h m rfl
      exact ⟨clientID, id, o, row, rfl, howned, Or.inr ⟨params, hid, hmem⟩, rfl⟩
  | delete =>
    have hcall : (deleteProvider id clientID).Obeys ⟨editRequest env id (.delete clientID), fun _ _ => True⟩ [] :=
      onOwnProvider_obeys rfl fun o _ howned => ⟨rfl, o, howned⟩
    refine hcall.map (fun _ _ h => ⟨clientID, id, rfl, confinedRequest_of_edit h⟩) ?_
    rintro (e | _) log _ <;> exact confinedProtocol_result fun _ _ hp => by cases hp
  | enable =>
    have hcall : (enableProvider id clientID).Obeys ⟨editRequest env id (.enable clientID), fun _ _ => True⟩ [] :=
      enableProvider_obeys clientID
    refine hcall.map (fun _ _ h => ⟨clientID, id, rfl, confinedRequest_of_edit h⟩) fun r log _ => ?_
    exact confinedProtocol_result fun _ _ hp => by cases hp
  | disable =>
    have hcall : (disableProvider id clientID).Obeys ⟨editRequest env id (.disable clientID), fun _ _ => True⟩ [] :=
      onOwnProvider_obeys rfl fun o _ howned => ⟨rfl, o, howned⟩
    refine hcall.map (fun _ _ h => ⟨clientID, id, rfl, confinedRequest_of_edit h⟩) fun r log _ => ?_
    exact confinedProtocol_result fun _ _ hp => by cases hp

/-- **Every request keeps to its protocol.** -/
theorem request_obeys (env : AdminEnv) (req : ProviderRequest) :
    (req.call env).Obeys (confinedProtocol env (req.target env)) [] := by
  rcases req.call_cases env with ⟨e, hcall⟩ | ⟨clientID, id, htarget, hserves⟩
  · rw [hcall]
    exact confinedProtocol_result fun _ _ hp => by cases hp
  · rw [htarget]
    exact hserves.obeys

end Obeys

/-! ### Owners -/

section Owners

variable {ι : Type} {w₀ : World} {c : Pool backend ι ProviderOutcome} {q : Request}
  {log : Log effects}

/-- The provider was there at the start, and belonged to the same client. -/
def KnownSince (w₀ : World) (o : OauthProvider) : Prop :=
  ∃ o₀ ∈ w₀.db.oauthProviders.rows, o₀.id = o.id ∧ o₀.clientID = o.clientID

/-- Rows with one identifier, at whatever time, belong to one client. -/
theorem KnownSince.clientID_eq {o o' : OauthProvider} (h : KnownSince w₀ o) (h' : KnownSince w₀ o')
    (hid : o.id = o'.id) : o.clientID = o'.clientID := by
  obtain ⟨o₁, ho₁, hid₁, hclient₁⟩ := h
  obtain ⟨o₂, ho₂, hid₂, hclient₂⟩ := h'
  obtain rfl := provider_eq ho₁ ho₂ (hid₁.trans (hid.trans hid₂.symm))
  exact hclient₁.symm.trans hclient₂

/-- The rows there are, and the rows the calls have been given, were there at the start. -/
structure Owners (w₀ : World) (c : Pool backend ι ProviderOutcome) : Prop where
  rows : ∀ o ∈ c.world.db.oauthProviders.rows, KnownSince w₀ o
  returned : ∀ i id o, ReturnedIn (c.threads i).log id o → o.id = id ∧ KnownSince w₀ o

/-- A statement that is confined makes no provider. -/
theorem respond_rows {clientID id : UUID} (hq : confinedRequest clientID id q log)
    (d : Draw) (w : World) {o' : OauthProvider} (ho' : o' ∈ (respond q d w).2.db.oauthProviders.rows) :
    ∃ o ∈ w.db.oauthProviders.rows, o.id = o'.id ∧ o.clientID = o'.clientID := by
  rcases respond_providers q d w with hsame | ⟨q', rfl, _, ⟨p, rfl, _⟩ | hrows⟩
  · rw [hsame] at ho'
    exact ⟨o', ho', rfl, rfl⟩
  · exact hq.elim
  · rw [hrows] at ho'
    obtain ⟨o, ho, hrow⟩ := List.mem_filterMap.mp ho'
    obtain ⟨hid, hclient, _⟩ := Query.providerRow_fixed hrow
    exact ⟨o, ho, hid.symm, hclient.symm⟩

/-- A row that a statement returns is one that is there, before or after it. -/
theorem respond_returned {d : Draw} {w : World} {id : UUID} {o : OauthProvider}
    (h : ReturnedIn (⟨q, (respond q d w).1⟩ :: log) id o) :
    ReturnedIn log id o ∨ o.id = id ∧ ∃ o' ∈ w.db.oauthProviders.rows, o'.id = o.id ∧ o'.clientID = o.clientID := by
  rcases h with h | ⟨p, hid, h⟩
  · rcases List.mem_cons.mp h with heq | h
    · right
      cases q with
      | sql q =>
        cases q with
        | getOAuthProvider id' =>
          injection heq with hq hr
          obtain rfl := Query.getOAuthProvider.inj (Request.sql.inj hq)
          obtain ⟨hmem, hid⟩ := respond_getOAuthProvider hr.symm
          exact ⟨hid, o, hmem, rfl, rfl⟩
        | _ => cases heq
      | _ => cases heq
    · exact Or.inl (Or.inl h)
  · rcases List.mem_cons.mp h with heq | h
    · right
      cases q with
      | sql q =>
        cases q with
        | updateOAuthProvider p' =>
          injection heq with hq hr
          obtain rfl := Query.updateOAuthProvider.inj (Request.sql.inj hq)
          obtain ⟨⟨o', hmem, hid', rfl⟩, _⟩ := respond_updateOAuthProvider hr.symm
          exact ⟨hid'.trans hid, o', hmem, rfl, rfl⟩
        | _ => cases heq
      | _ => cases heq
    · exact Or.inl (Or.inr ⟨p, hid, h⟩)

theorem Owners.step [DecidableEq ι] {env : AdminEnv} {reqs : ι → ProviderRequest} (h : Owners w₀ c)
    (hobeys : c.Obeys fun i => confinedProtocol env ((reqs i).target env)) (i : ι) (d : Draw) :
    Owners w₀ (c.step i d) := by
  cases hi : (c.threads i).prog with
  | ret a =>
    rw [Pool.step_of_ret hi]
    exact h
  | call q k =>
    obtain ⟨clientID, id, _, hq⟩ := hobeys.request hi
    constructor
    · intro o' ho'
      rw [step_world hi] at ho'
      obtain ⟨o, ho, hid, hclient⟩ := respond_rows hq d c.world ho'
      obtain ⟨o₀, ho₀, hid₀, hclient₀⟩ := h.rows o ho
      exact ⟨o₀, ho₀, hid₀.trans hid, hclient₀.trans hclient⟩
    · refine Pool.forall_log_step (J := fun _ log _ => ∀ id o, ReturnedIn log id o → o.id = id ∧ KnownSince w₀ o)
        hi (fun hself id o hreturned => ?_) (fun _ _ h => h) h.returned
      rcases respond_returned hreturned with hold | ⟨hid, o', ho', hid', hclient⟩
      · exact hself id o hold
      · obtain ⟨o₀, ho₀, hid₀, hclient₀⟩ := h.rows o' ho'
        exact ⟨hid, o₀, ho₀, hid₀.trans hid', hclient₀.trans hclient⟩

end Owners

/-! ### Rows of other clients -/

/-- The client a request is addressed to, if it parses. -/
def ProviderRequest.client? (env : AdminEnv) (req : ProviderRequest) : Option UUID :=
  (req.target env).map Prod.fst

section Foreign

variable {ι : Type} [DecidableEq ι] {q : Query} {log : Log effects} {o : OauthProvider}

/-- The providers of other clients. -/
def Store.foreignProviders (s : Store) (client : Option UUID) : List OauthProvider :=
  s.oauthProviders.rows.filter fun o => some o.clientID ≠ client

/-- The step leaves the providers of other clients as they are. -/
def LeavesForeign (env : AdminEnv) (reqs : ι → ProviderRequest) (c : Pool backend ι ProviderOutcome) (i : ι)
    (d : Draw) : Prop :=
  (c.step i d).world.db.foreignProviders ((reqs i).client? env) =
    c.world.db.foreignProviders ((reqs i).client? env)

/-- A list in which the elements with `p` stay, and the others may be rewritten to others or dropped. -/
theorem filter_filterMap_eq {α : Type} {p : α → Bool} {f : α → Option α} {l : List α}
    (hkeep : ∀ a ∈ l, p a = true → f a = some a)
    (hother : ∀ a ∈ l, p a = false → ∀ b, f a = some b → p b = false) :
    (l.filterMap f).filter p = l.filter p := by
  induction l with
  | nil => rfl
  | cons a l ih =>
    have ih' := ih (fun b hb => hkeep b (List.mem_cons_of_mem a hb))
      fun b hb => hother b (List.mem_cons_of_mem a hb)
    cases hp : p a with
    | true =>
      rw [List.filterMap_cons_some (hkeep a List.mem_cons_self hp), List.filter_cons_of_pos hp,
        List.filter_cons_of_pos hp, ih']
    | false =>
      have hneg : ¬ p a = true := ne_true_of_eq_false hp
      rw [List.filter_cons_of_neg hneg]
      cases hf : f a with
      | none => rw [List.filterMap_cons_none hf, ih']
      | some b =>
        have hb : ¬ p b = true := ne_true_of_eq_false (hother a List.mem_cons_self hp b hf)
        rw [List.filterMap_cons_some hf, List.filter_cons_of_neg hb, ih']

/-- A confined statement leaves the providers with other identifiers alone. -/
theorem providerRow_of_ne {clientID id : UUID} {now : Time}
    (hq : confinedRequest clientID id (.sql q) log) (hid : o.id ≠ id) : q.providerRow now o = some o := by
  cases q with
  | updateOAuthProvider p =>
    obtain ⟨rfl, _⟩ := hq
    exact congrArg some (if_neg fun h => hid (beq_iff_eq.mp h))
  | disableOAuthProvider id' =>
    obtain ⟨rfl, _⟩ := hq
    exact congrArg some (if_neg fun h => hid (beq_iff_eq.mp h))
  | deleteOAuthProvider id' =>
    obtain ⟨rfl, _⟩ := hq
    exact if_neg fun h => hid (beq_iff_eq.mp h)
  | _ => rfl

/-- A statement that changes providers is made by a call that has found its own to be one of the client. -/
theorem owned_of_changes {clientID id : UUID} {now : Time}
    (hq : confinedRequest clientID id (.sql q) log) (hne : q.providerRow now o ≠ some o) :
    ∃ o', OwnedIn log id clientID o' := by
  cases q with
  | updateOAuthProvider p => exact hq.2
  | disableOAuthProvider id' => exact hq.2
  | deleteOAuthProvider id' => exact hq.2
  | _ => exact absurd rfl hne

theorem leavesForeign {env : AdminEnv} {reqs : ι → ProviderRequest} {w₀ : World}
    {c : Pool backend ι ProviderOutcome} (h : Owners w₀ c)
    (hobeys : c.Obeys fun i => confinedProtocol env ((reqs i).target env)) (i : ι) (d : Draw) :
    LeavesForeign env reqs c i d := by
  unfold LeavesForeign Store.foreignProviders
  cases hi : (c.threads i).prog with
  | ret a => rw [Pool.step_of_ret hi]
  | call q k =>
    obtain ⟨clientID, id, htarget, hq⟩ := hobeys.request hi
    have hclient : (reqs i).client? env = some clientID := congrArg (Option.map Prod.fst) htarget
    rw [step_world hi, hclient]
    rcases respond_providers q d c.world with hsame | ⟨q', rfl, _, ⟨p, rfl, _⟩ | hrows⟩
    · rw [hsame]
    · exact hq.elim
    · rw [hrows]
      refine filter_filterMap_eq (fun o ho hforeign => ?_) fun o _ hown o' hrow => ?_
      · -- a row that would be changed has the identifier that the call has found to be its own
        by_contra hchanged
        obtain ⟨o', hmem, hclient'⟩ := owned_of_changes hq hchanged
        obtain ⟨hid', hknown⟩ := h.returned i id o' (Or.inl hmem)
        have hid : o.id = id := by
          by_contra hne
          exact hchanged (providerRow_of_ne hq hne)
        have howner := (h.rows o ho).clientID_eq hknown (hid.trans hid'.symm)
        rw [howner, hclient'] at hforeign
        simp at hforeign
      · rw [(Query.providerRow_fixed hrow).2.1]
        exact hown

end Foreign

/-! ### Answers about other clients -/

/-- What can be seen of an outcome: of the two operations without a handler, not whether a provider that is not
one of the client exists. -/
def ProviderOutcome.blur : ProviderOutcome → ProviderOutcome
  | .service (.error .providerClientMismatch) => .service (.error .providerNotFound)
  | r => r

/-- A provider of another client, and no provider. -/
def foreignReply (client : Option UUID) : (q : Request) → q.Reply → q.Reply → Prop
  | .sql (.getOAuthProvider _), .ok o, .error .noRows => some o.clientID ≠ client
  | _, _, _ => False

section Blind

variable {env : AdminEnv} {clientID id : UUID} {α : Type}

/-- Programs without this request. -/
def neverReads (q : Request) : Prop := ∀ id, q ≠ .sql (.getOAuthProvider id)

theorem not_foreignReply {client : Option UUID} {q : Request} {r r' : q.Reply} (hq : neverReads q) :
    ¬ foreignReply client q r r' := by
  intro h
  cases q with
  | sql q =>
    cases q with
    | getOAuthProvider id => exact hq id rfl
    | _ => exact h
  | _ => exact h

/-- The look-up of a provider of the client, and what follows. -/
theorem getOwnProvider_insensitive {β : Type} {f : Except AdminError OauthProvider → Call α} {g : α → β}
    (herr : (f (.error .providerClientMismatch)).map g = (f (.error .providerNotFound)).map g)
    (hrest : ∀ r, (f r).Only neverReads) :
    ((getOwnProvider id clientID).bind f).Insensitive (foreignReply (some clientID)) g := by
  have hblind : ∀ r, (f r).Insensitive (foreignReply (some clientID)) g :=
    fun r => Prog.Insensitive.of_only (R := foreignReply (some clientID)) (fun _ _ _ hq => not_foreignReply hq)
      (hrest r)
  refine ⟨?_, ?_⟩
  · rintro (e | o) (e' | o') hr
    · exact hr.elim
    · exact hr.elim
    · cases e' with
      | noRows =>
        have hne : o.clientID ≠ clientID := fun heq => hr (congrArg some heq)
        dsimp only
        rw [if_pos hne]
        exact herr
      | _ => exact hr.elim
    · exact hr.elim
  · rintro (e | o)
    · cases e <;> exact hblind _
    · dsimp only
      split <;> exact hblind _

/-- What follows the look-up of `UpdateProvider` does not read providers. -/
theorem updateRest_only (existing : OauthProvider) (dto : UpdateProviderDTO) :
    ((updatedSecret env existing dto.providerClientSecret).bind fun
      | .error e => .ret (.error e)
      | .ok secret => writeProvider id dto secret).Only neverReads := by
  have hencrypt : (encrypt env dto.providerClientSecret).Only neverReads := by
    refine ⟨fun _ h => (by cases h), ?_⟩
    rintro (_ | nonce) <;> trivial
  have hwrite : ∀ secret, (writeProvider id dto secret).Only neverReads := by
    intro secret
    refine ⟨fun _ h => (by cases h), ?_⟩
    rintro (e | row) <;> trivial
  refine Prog.Only.bind ?_ ?_
  · unfold updatedSecret
    split
    · exact hencrypt.map _
    · trivial
  · rintro (e | secret)
    · trivial
    · exact hwrite secret

/-- `DisableProvider` and `DeleteProvider`. -/
theorem onOwnProvider_insensitive {β : Type} {q : Query} {g : Except AdminError Unit → β}
    (herr : g (.error .providerClientMismatch) = g (.error .providerNotFound))
    (hq : ∀ id, q ≠ .getOAuthProvider id) :
    (onOwnProvider id clientID q).Insensitive (foreignReply (some clientID)) g := by
  unfold onOwnProvider validateOwnership Prog.map
  rw [Prog.bind_assoc]
  refine getOwnProvider_insensitive (congrArg Prog.ret herr) ?_
  rintro (e | o)
  · trivial
  · refine ⟨fun id h => hq id (Request.sql.inj h), ?_⟩
    rintro (e | r) <;> trivial

theorem getOutcome_foreign {p : ProviderModel} (hne : p.clientID ≠ clientID) :
    getOutcome env clientID (.ok p) = getOutcome env clientID (.error .providerNotFound) := by
  simp only [getOutcome]
  rw [if_pos hne]
  rfl

/-- After a row of another client, every call goes on as if there had been none. -/
theorem Serves.insensitive {call : Call ProviderOutcome} (h : Serves env clientID id call) :
    call.Insensitive (foreignReply (some clientID)) ProviderOutcome.blur := by
  cases h with
  | get =>
    refine .map ⟨?_, ?_⟩
    · rintro (e | o) (e' | o') hr
      · exact hr.elim
      · exact hr.elim
      · cases e' with
        | noRows =>
          have hne : (toOAuthProvider o).clientID ≠ clientID := fun heq => hr (congrArg some heq)
          exact congrArg (fun r => Prog.ret (ProviderOutcome.blur r)) (getOutcome_foreign hne)
        | _ => exact hr.elim
      · exact hr.elim
    · rintro (e | o)
      · cases e <;> trivial
      · trivial
  | update dto =>
    refine .map ?_
    unfold updateProvider
    split
    · trivial
    · refine getOwnProvider_insensitive rfl ?_
      rintro (e | existing)
      · trivial
      · exact updateRest_only existing dto
  | delete => exact .map (onOwnProvider_insensitive rfl fun _ h => by cases h)
  | enable =>
    refine .map (getOwnProvider_insensitive rfl ?_)
    rintro (e | existing)
    · trivial
    · refine ⟨fun _ h => (by cases h), ?_⟩
      rintro (e | row) <;> trivial
  | disable => exact .map (onOwnProvider_insensitive rfl fun _ h => by cases h)

theorem request_insensitive (env : AdminEnv) (req : ProviderRequest) :
    (req.call env).Insensitive (foreignReply (req.client? env)) ProviderOutcome.blur := by
  rcases req.call_cases env with ⟨e, hcall⟩ | ⟨clientID, id, htarget, hserves⟩
  · rw [hcall]
    trivial
  · have hclient : req.client? env = some clientID := congrArg (Option.map Prod.fst) htarget
    rw [hclient]
    exact hserves.insensitive

end Blind

/-! ### A provider of another client, and none -/

section Absent

variable {env : AdminEnv} {clientID id : UUID} {α : Type} {w w' : World} {o : OauthProvider}

/-- In one world the provider belongs to another client, and in the other world there is none. -/
structure Unavailable (clientID id : UUID) (w w' : World) : Prop where
  foreign : ∃ o ∈ w.db.oauthProviders.rows, o.id = id ∧ o.clientID ≠ clientID
  absent : ∀ o ∈ w'.db.oauthProviders.rows, o.id ≠ id

/-- The answers to the look-up: a row of another client and none, or the same error. -/
theorem Unavailable.answers (h : Unavailable clientID id w w') (d : Draw) :
    (∃ o, o.clientID ≠ clientID ∧ (respond (.sql (.getOAuthProvider id)) d w).1 = .ok o ∧
      (respond (.sql (.getOAuthProvider id)) d w').1 = .error .noRows) ∨
    ∃ e, (respond (.sql (.getOAuthProvider id)) d w).1 = .error e ∧
      (respond (.sql (.getOAuthProvider id)) d w').1 = .error e := by
  cases hf : d.fault with
  | true =>
    rw [respond_sql_fault _ hf, respond_sql_fault _ hf]
    exact Or.inr ⟨_, rfl, rfl⟩
  | false =>
    left
    obtain ⟨o, ho, rfl, hclient⟩ := h.foreign
    have hsel : w.db.oauthProviders.select (fun p => p.id == o.id) = some o :=
      Table.select_eq_some ho (beq_self_eq_true _) fun a ha => by
        simp [Keyed.clash, Keyed.key, beq_iff_eq.mp ha]
    have hnone : w'.db.oauthProviders.select (fun p => p.id == o.id) = none :=
      Table.select_eq_none.mpr fun a ha => by simpa using h.absent a ha
    refine ⟨o, hclient, ?_, ?_⟩
    · rw [respond_sql _ hf]
      exact selectOne_eq_ok hsel
    · rw [respond_sql _ hf]
      simp only [Query.exec, selectOne, hnone]

/-- A call of the service returns at once, or it looks the provider up and returns if this fails. -/
theorem Serves.looksUp {call : Call ProviderOutcome} (h : Serves env clientID id call) :
    (∃ r, call = .ret r) ∨
      ∃ k, call = .call (S := effects) (.sql (.getOAuthProvider id)) k ∧ ∀ e, ∃ r, k (.error e) = .ret r := by
  cases h with
  | get => exact Or.inr ⟨_, rfl, fun e => by cases e <;> exact ⟨_, rfl⟩⟩
  | update dto =>
    unfold updateProvider
    split
    · exact Or.inl ⟨_, rfl⟩
    · exact Or.inr ⟨_, rfl, fun e => by cases e <;> exact ⟨_, rfl⟩⟩
  | delete => exact Or.inr ⟨_, rfl, fun e => by cases e <;> exact ⟨_, rfl⟩⟩
  | enable => exact Or.inr ⟨_, rfl, fun e => by cases e <;> exact ⟨_, rfl⟩⟩
  | disable => exact Or.inr ⟨_, rfl, fun e => by cases e <;> exact ⟨_, rfl⟩⟩

/-- **The same outcome**, as far as it can be seen. -/
theorem Serves.blur_run {call : Call ProviderOutcome} (h : Serves env clientID id call)
    (hw : Unavailable clientID id w w') (ds : ℕ → Draw) :
    (call.run backend ds w).1.blur = (call.run backend ds w').1.blur := by
  have hblind := h.insensitive
  rcases h.looksUp with ⟨r, rfl⟩ | ⟨k, rfl, herr⟩
  · rfl
  · rw [Prog.run_call, Prog.run_call]
    rcases hw.answers (ds 0) with ⟨o, hclient, hr, hr'⟩ | ⟨e, hr, hr'⟩
    · have hsame := hblind.1 (.ok o) (.error .noRows) fun heq => hclient (Option.some.inj heq)
      obtain ⟨r, hret⟩ := herr .noRows
      rw [hret] at hsame
      -- what follows the row is a result that cannot be told from this one
      cases hk : k (.ok o) with
      | ret r' =>
        rw [hk] at hsame
        simp only [backend, hr, hr', hk, hret]
        exact Prog.ret.inj hsame
      | call q k' =>
        rw [hk] at hsame
        cases hsame
    · obtain ⟨r, hret⟩ := herr e
      simp only [backend, hr, hr', hret, Prog.run_ret]

end Absent

/-- The request is one to a handler. -/
def ProviderRequest.IsHandled : ProviderRequest → Prop
  | .get _ _ | .update _ _ _ | .delete _ _ => True
  | .enable _ _ | .disable _ _ => False

/-- Of a response everything can be seen. -/
theorem ProviderRequest.IsHandled.blur_run {env : AdminEnv} {req : ProviderRequest} (h : req.IsHandled)
    (ds : ℕ → Draw) (w : World) :
    ((req.call env).run backend ds w).1.blur = ((req.call env).run backend ds w).1 := by
  have hresponse : ∀ p : Call ProviderReply, ((p.map ProviderOutcome.response).run backend ds w).1.blur =
        ((p.map ProviderOutcome.response).run backend ds w).1 := by
    intro p
    rw [Prog.map, Prog.run_bind_ret (fun _ => rfl)]
    rfl
  cases req with
  | get clientParam idParam => exact hresponse _
  | update clientParam idParam body => exact hresponse _
  | delete clientParam idParam => exact hresponse _
  | enable id clientID => exact h.elim
  | disable id clientID => exact h.elim

/-! ### Confinement -/

section Confinement

variable {ι : Type} [DecidableEq ι]

/-- Whatever provider of another client the call may be answered with, it goes on as if there were none. -/
def HidesForeign (env : AdminEnv) (reqs : ι → ProviderRequest) (c : Pool backend ι ProviderOutcome) (i : ι) :
    Prop :=
  ∀ id k, (c.threads i).prog = .call (.sql (.getOAuthProvider id)) k →
    ∀ o : OauthProvider, some o.clientID ≠ (reqs i).client? env →
      (k (.ok o)).map ProviderOutcome.blur = (k (.error .noRows)).map ProviderOutcome.blur

/-- A provider in a response is one of the client, as a statement of the call returned it. -/
def ShowsOwn (env : AdminEnv) (reqs : ι → ProviderRequest) (c : Pool backend ι ProviderOutcome) (i : ι) : Prop :=
  ∀ status p, c.result? i = some (.response (.provider status p)) →
    ∃ id o, ReturnedIn (c.threads i).log id o ∧ some o.clientID = (reqs i).client? env ∧
      p = toProviderResponse env.auth (toOAuthProvider o)

/-- What holds of the calls at every point of a schedule. -/
structure Confined (env : AdminEnv) (reqs : ι → ProviderRequest) (w₀ : World)
    (c : Pool backend ι ProviderOutcome) : Prop where
  obeys : c.Obeys fun i => confinedProtocol env ((reqs i).target env)
  owners : Owners w₀ c
  blind : ∀ i, (c.threads i).prog.Insensitive (foreignReply ((reqs i).client? env)) ProviderOutcome.blur

variable {env : AdminEnv} {reqs : ι → ProviderRequest} {w₀ : World} {c : Pool backend ι ProviderOutcome}

omit [DecidableEq ι] in
theorem Confined.start (env : AdminEnv) (reqs : ι → ProviderRequest) (w : World) :
    Confined env reqs w (providerRequests env reqs w) where
  obeys := fun i => request_obeys env (reqs i)
  owners := ⟨fun o ho => ⟨o, ho, rfl, rfl⟩, fun i id o h => by
    rcases h with h | ⟨_, _, h⟩ <;> exact absurd h List.not_mem_nil⟩
  blind := fun i => request_insensitive env (reqs i)

theorem Confined.step (h : Confined env reqs w₀ c) (i : ι) (d : Draw) : Confined env reqs w₀ (c.step i d) where
  obeys := h.obeys.step i d
  owners := h.owners.step h.obeys i d
  blind := Pool.forall_prog_step (P := fun i (p : Call ProviderOutcome) =>
    p.Insensitive (S := effects) (foreignReply ((reqs i).client? env)) ProviderOutcome.blur)
    (fun _ _ _ hp r => hp.2 r) h.blind

theorem Confined.run (h : Confined env reqs w₀ c) (ls : List (ι × Draw)) : Confined env reqs w₀ (c.run ls) := by
  induction ls generalizing c with
  | nil => exact h
  | cons l ls ih => exact ih (h.step l.1 l.2)

omit [DecidableEq ι] in
theorem Confined.hidesForeign (h : Confined env reqs w₀ c) (i : ι) : HidesForeign env reqs c i := by
  intro id k hk o hforeign
  have hblind := h.blind i
  rw [hk] at hblind
  exact hblind.1 _ _ hforeign

omit [DecidableEq ι] in
theorem Confined.showsOwn (h : Confined env reqs w₀ c) (i : ι) : ShowsOwn env reqs c i := by
  intro status p hresult
  obtain ⟨clientID, id, o, o', htarget, ⟨hread, hclient⟩, hreturned, hp⟩ := h.obeys.result hresult status p rfl
  obtain ⟨hid, hknown⟩ := h.owners.returned i id o (Or.inl hread)
  obtain ⟨hid', hknown'⟩ := h.owners.returned i id o' hreturned
  refine ⟨id, o', hreturned, ?_, hp⟩
  have howner : o'.clientID = clientID := (hknown'.clientID_eq hknown (hid'.trans hid.symm)).trans hclient
  rw [howner]
  exact (congrArg (Option.map Prod.fst) htarget).symm

end Confinement

/-- **Providers are confined to their clients.** In every interleaving of requests about providers, each step of
a request leaves the providers of other clients as they are, and whatever provider of another client it is
answered with, the request goes on as if there were none. A provider in a response is one of the client. And the
response of a handler is the same for a provider of another client and for none. -/
theorem provider_requests_confined {ι : Type} [DecidableEq ι] (env : AdminEnv) (reqs : ι → ProviderRequest)
    (w : World) (ls : List (ι × Draw)) :
    Pool.Along (fun c i d => LeavesForeign env reqs c i d ∧ HidesForeign env reqs c i)
        (providerRequests env reqs w) ls ∧
      (∀ i, ShowsOwn env reqs ((providerRequests env reqs w).run ls) i) ∧
      ∀ req : ProviderRequest, req.IsHandled → ∀ clientID id, req.target env = some (clientID, id) →
        ∀ w w', Unavailable clientID id w w' → ∀ ds,
          ((req.call env).run backend ds w).1 = ((req.call env).run backend ds w').1 := by
  have hstart := Confined.start env reqs w
  refine ⟨?_, fun i => (hstart.run ls).showsOwn i, ?_⟩
  · generalize providerRequests env reqs w = c at hstart
    induction ls generalizing c with
    | nil => trivial
    | cons l ls ih =>
      exact ⟨⟨leavesForeign hstart.owners hstart.obeys l.1 l.2, hstart.hidesForeign l.1⟩, ih _ (hstart.step l.1 l.2)⟩
  · intro req hhandled clientID id htarget w w' hw ds
    rcases req.call_cases env with ⟨e, hcall⟩ | ⟨clientID', id', htarget', hserves⟩
    · rw [hcall]
      rfl
    · rw [htarget] at htarget'
      obtain ⟨rfl, rfl⟩ := Prod.mk.inj (Option.some.inj htarget')
      have hblur := hserves.blur_run hw ds
      rwa [hhandled.blur_run, hhandled.blur_run] at hblur

section Examples

open Deployment

/-- A provider of the client 1. -/
def appProvider : OauthProvider where
  id := 2
  clientID := 1
  name := "example"
  displayName := "Example"
  providerClientID := "client"
  providerClientSecret := "secret"
  authUrl := "https://idp.example/auth"
  tokenUrl := "https://idp.example/token"
  userInfoUrl := "https://idp.example/userinfo"
  scopes := ["openid"]
  isEnabled := some true
  createdAt := 0
  updatedAt := 0

def appProviderStore : Store := { store with oauthProviders := ⟨[appProvider], List.pairwise_singleton _ _⟩ }

/-- The provider 2 is asked for in the name of the client 1 and of the client 2, and it is to be deleted in the
name of the client 2. -/
def threeRequests : Fin 3 → ProviderRequest
  | 0 => .get (env.lib.uuidString 1) (env.lib.uuidString 2)
  | 1 => .get (env.lib.uuidString 2) (env.lib.uuidString 2)
  | 2 => .delete (env.lib.uuidString 2) (env.lib.uuidString 2)

/-- The provider is shown to its client, and not to the other one, which cannot delete it either. -/
theorem provider_requests_confined_example :
    let c := (providerRequests admin threeRequests ⟨0, appProviderStore⟩).run
      [(2, draw 7 40), (1, draw 7 41), (0, draw 7 42)]
    ShowsOwn admin threeRequests c 0 ∧
      c.result? 0 = some (.response (.provider 200 (toProviderResponse env (toOAuthProvider appProvider)))) ∧
      c.result? 1 = some (.response (.failed ⟨404, "provider not found", none⟩)) ∧
      c.result? 2 = some (.response (.failed ⟨404, "provider not found", none⟩)) := by
  refine ⟨(provider_requests_confined admin threeRequests ⟨0, appProviderStore⟩
    [(2, draw 7 40), (1, draw 7 41), (0, draw 7 42)]).2.1 0, ?_, ?_, ?_⟩ <;> decide +kernel

end Examples

end GoauthServer
