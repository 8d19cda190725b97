import GoauthServer.Spec.Providers

/-!
# What an edit of a provider may do

The calls on a provider that exists, with other calls between their statements. `editProtocol` says what they
may ask for and what must be behind it: each of them reads the provider, finds it to be one of the client that
is addressed, and then writes it by its identifier alone. What is written is from the request, but for an
update without a secret and for `EnableProvider`, which write what was read.
-/

namespace GoauthServer

open Interact Relational

variable {log : Log effects} {o : OauthProvider}

/-- A call on a provider that exists, addressed to a client. -/
inductive ProviderEdit where
  | update (clientID : UUID) (dto : UpdateProviderDTO)
  | enable (clientID : UUID)
  | disable (clientID : UUID)
  | delete (clientID : UUID)

/-- The client it is addressed to. -/
def ProviderEdit.clientID : ProviderEdit → UUID
  | .update clientID _ | .enable clientID | .disable clientID | .delete clientID => clientID

/-- The edit of the provider `id`. -/
def ProviderEdit.on (id : UUID) : ProviderEdit → ProviderOperation
  | .update clientID dto => .update id clientID dto
  | .enable clientID => .enable id clientID
  | .disable clientID => .disable id clientID
  | .delete clientID => .delete id clientID

/-! ### The protocol -/

/-- The call has read the provider `id` and found it to be one of the client. -/
def OwnedIn (log : Log effects) (id clientID : UUID) (o : OauthProvider) : Prop :=
  ⟨.sql (.getOAuthProvider id), .ok o⟩ ∈ log ∧ o.clientID = clientID

theorem OwnedIn.cons {id clientID : UUID}
    (h : OwnedIn log id clientID o) (e : Event effects) : OwnedIn (e :: log) id clientID o :=
  ⟨List.mem_cons_of_mem e h.1, h.2⟩

/-- The encrypted secret of an update: a new one under a nonce that was drawn, or the one that was read. -/
def AdminEnv.UpdatedIn (env : AdminEnv) (log : Log effects) (secret stored encrypted : String) : Prop :=
  if secret = "" then encrypted = stored
  else ∃ nonce, ⟨.randBytes 12, some nonce⟩ ∈ log ∧ encrypted = env.encryptSecret secret nonce

/-- The parameters with which `EnableProvider` writes a row back. -/
def OauthProvider.enabledParams (o : OauthProvider) (id : UUID) : UpdateOAuthProviderParams where
  id := id
  displayName := o.displayName
  providerClientID := o.providerClientID
  providerClientSecret := o.providerClientSecret
  authUrl := o.authUrl
  tokenUrl := o.tokenUrl
  userInfoUrl := o.userInfoUrl
  scopes := o.scopes
  isEnabled := some true

/-- What the edit writes, after it has read `o`. -/
def ProviderEdit.Writes (env : AdminEnv) (id : UUID) (log : Log effects) (o : OauthProvider)
    (p : UpdateOAuthProviderParams) : ProviderEdit → Prop
  | .update _ dto =>
    ∃ secret, env.UpdatedIn log dto.providerClientSecret o.providerClientSecret secret ∧ p = dto.params id secret
  | .enable _ => p = o.enabledParams id
  | _ => False

/-- An edit writes the provider it is an edit of. -/
theorem ProviderEdit.Writes.id_eq {env : AdminEnv} {id : UUID}
    {p : UpdateOAuthProviderParams} {e : ProviderEdit} (h : e.Writes env id log o p) : p.id = id := by
  cases e with
  | update clientID dto =>
    obtain ⟨_, _, rfl⟩ := h
    rfl
  | enable clientID =>
    obtain rfl := h
    rfl
  | disable clientID => exact h.elim
  | delete clientID => exact h.elim

/-- The requests of an edit. -/
def editRequest (env : AdminEnv) (id : UUID) (e : ProviderEdit) : Request → Log effects → Prop
  | .sql (.getOAuthProvider id'), _ => id' = id
  | .randBytes n, _ => n = 12
  | .sql (.updateOAuthProvider p), log => ∃ o, OwnedIn log id e.clientID o ∧ e.Writes env id log o p
  | .sql (.disableOAuthProvider id'), log | .sql (.deleteOAuthProvider id'), log =>
    id' = id ∧ ∃ o, OwnedIn log id e.clientID o
  | _, _ => False

/-- The results of an edit: the provider it returns is the row that its update returned. -/
def editResult (id clientID : UUID) (r : Except AdminError (Option ProviderModel)) (log : Log effects) : Prop :=
  ∀ m, r = .ok (some m) → (∃ o, OwnedIn log id clientID o) ∧ ∃ p row, p.id = id ∧ m = toOAuthProvider row ∧
    ⟨.sql (.updateOAuthProvider p), .ok row⟩ ∈ log

def editProtocol (env : AdminEnv) (id : UUID) (e : ProviderEdit) :
    Protocol effects (Except AdminError (Option ProviderModel)) :=
  ⟨editRequest env id e, editResult id e.clientID⟩

section Stages

variable {env : AdminEnv} {id clientID : UUID} {e : ProviderEdit} {log : Log effects}

theorem editResult_error {err : AdminError} : editResult id clientID (.error err) log := by
  intro m h
  cases h

theorem editResult_none : editResult id clientID (.ok none) log := by
  intro m h
  cases h

/-- The look-up hands over a row of the client. -/
theorem getOwnProvider_obeys {α : Type} {P : Protocol effects α}
    {f : Except AdminError OauthProvider → Call α} (hread : P.request (.sql (.getOAuthProvider id)) log)
    (hok : ∀ o log', OwnedIn log' id clientID o → (f (.ok o)).Obeys P log')
    (herr : ∀ err log', (f (.error err)).Obeys P log') :
    ((getOwnProvider id clientID).bind f).Obeys P log := by
  refine Prog.Obeys.bind ⟨hread, ?_⟩
  rintro (err | o)
  · cases err <;> exact herr _ _
  · dsimp only
    split
    · exact herr _ _
    · next hclient => exact hok o _ ⟨List.mem_cons_self, not_not.mp hclient⟩

theorem writeProvider_obeys {dto : UpdateProviderDTO} {o : OauthProvider} {secret : String}
    (howned : OwnedIn log id clientID o)
    (hsecret : env.UpdatedIn log dto.providerClientSecret o.providerClientSecret secret) :
    (writeProvider id dto secret).Obeys
      ⟨editRequest env id (.update clientID dto), fun r log => editResult id clientID (r.map some) log⟩ log := by
  refine ⟨⟨o, howned, secret, hsecret, rfl⟩, ?_⟩
  rintro (err | row)
  · exact editResult_error
  · intro m hm
    obtain rfl := Option.some.inj (Except.ok.inj hm)
    exact ⟨⟨o, howned.cons _⟩, _, row, rfl, rfl, List.mem_cons_self⟩

theorem updateProvider_obeys (clientID : UUID) (dto : UpdateProviderDTO) :
    (updateProvider env id clientID dto).Obeys
      ⟨editRequest env id (.update clientID dto), fun r log => editResult id clientID (r.map some) log⟩ log := by
  unfold updateProvider
  split
  · exact editResult_error
  refine getOwnProvider_obeys rfl (fun o log' howned => Prog.Obeys.bind ?_) fun err log' => editResult_error
  unfold updatedSecret
  split
  · next hne =>
    refine Prog.Obeys.bind ⟨rfl, ?_⟩
    rintro (_ | nonce)
    · exact editResult_error
    · refine writeProvider_obeys (howned.cons _) ?_
      unfold AdminEnv.UpdatedIn
      rw [if_neg hne]
      exact ⟨nonce, List.mem_cons_self, rfl⟩
  · next hempty =>
    refine writeProvider_obeys howned ?_
    unfold AdminEnv.UpdatedIn
    rw [if_pos (not_not.mp hempty)]

theorem enableProvider_obeys (clientID : UUID) :
    (enableProvider id clientID).Obeys ⟨editRequest env id (.enable clientID), fun _ _ => True⟩ log := by
  refine getOwnProvider_obeys rfl (fun o log' howned => ⟨⟨o, howned, rfl⟩, ?_⟩) fun err log' => trivial
  rintro (err | row) <;> trivial

/-- `DisableProvider` and `DeleteProvider`. -/
theorem onOwnProvider_obeys {q : Query} (hread : editRequest env id e (.sql (.getOAuthProvider id)) log)
    (hq : ∀ o log', OwnedIn log' id clientID o → editRequest env id e (.sql q) log') :
    (onOwnProvider id clientID q).Obeys ⟨editRequest env id e, fun _ _ => True⟩ log := by
  refine Prog.Obeys.bind (getOwnProvider_obeys hread (fun o log' howned => ⟨hq o log' howned, ?_⟩) fun _ _ => trivial)
  rintro (err | r) <;> trivial

/-- **Every edit keeps to its protocol.** -/
theorem edit_obeys (env : AdminEnv) (id : UUID) (e : ProviderEdit) :
    ((e.on id).serve env).Obeys (editProtocol env id e) [] := by
  cases e with
  | update clientID dto =>
    exact (updateProvider_obeys clientID dto).map (fun _ _ h => h) fun _ _ h => h
  | enable clientID =>
    refine (enableProvider_obeys clientID).map (fun _ _ h => h) fun r _ _ => ?_
    cases r
    · exact editResult_error
    · exact editResult_none
  | disable clientID =>
    have hcall : (disableProvider id clientID).Obeys ⟨editRequest env id (.disable clientID), fun _ _ => True⟩ [] :=
      onOwnProvider_obeys rfl fun o _ howned => ⟨rfl, o, howned⟩
    refine hcall.map (fun _ _ h => h) fun r _ _ => ?_
    cases r
    · exact editResult_error
    · exact editResult_none
  | delete clientID =>
    have hcall : (deleteProvider id clientID).Obeys ⟨editRequest env id (.delete clientID), fun _ _ => True⟩ [] :=
      onOwnProvider_obeys rfl fun o _ howned => ⟨rfl, o, howned⟩
    refine hcall.map (fun _ _ h => h) fun r _ _ => ?_
    cases r
    · exact editResult_error
    · exact editResult_none

end Stages

end GoauthServer
