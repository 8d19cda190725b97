import GoauthServer.Framework.Hoare
import GoauthServer.Repository.Evolution
import GoauthServer.Transport.Server

/-!
# What becomes of providers

First the statements on `oauth_providers`: one of them inserts a row, and each other one rewrites or removes
the rows with one identifier (`Query.exec_providers`). The identifier, the client and the name of a row never
change.

Then the operations on a provider, run alone. `ProviderChange` lists what each of them does to the table,
together with what it returns; a call that fails does nothing (`serve_change`).
-/

namespace GoauthServer

open Interact Relational

variable {q : Query} {o o' : OauthProvider}

/-! ### Statements -/

/-- What `UpdateOAuthProvider` makes of the row it addresses. -/
def UpdateOAuthProviderParams.write (p : UpdateOAuthProviderParams) (now : Time) (o : OauthProvider) :
    OauthProvider :=
  { o with
    displayName := p.displayName, providerClientID := p.providerClientID
    providerClientSecret := p.providerClientSecret, authUrl := p.authUrl
    tokenUrl := p.tokenUrl, userInfoUrl := p.userInfoUrl, scopes := p.scopes
    isEnabled := p.isEnabled, updatedAt := now }

/-- What a statement makes of a provider, but for `CreateOAuthProvider`, which makes a new one. -/
def Query.providerRow (now : Time) : Query → OauthProvider → Option OauthProvider
  | .updateOAuthProvider p, o => some (if o.id == p.id then p.write now o else o)
  | .disableOAuthProvider id, o =>
    some (if o.id == id then { o with isEnabled := some false, updatedAt := now } else o)
  | .deleteOAuthProvider id, o => if o.id == id then none else some o
  | _, o => some o

/-- The columns of a provider that no statement writes. -/
theorem Query.providerRow_fixed {now : Time} (h : q.providerRow now o = some o') :
    o'.id = o.id ∧ o'.clientID = o.clientID ∧ o'.name = o.name ∧ o'.createdAt = o.createdAt := by
  cases q with
  | updateOAuthProvider p =>
    obtain rfl := Option.some.inj h
    split <;> exact ⟨rfl, rfl, rfl, rfl⟩
  | disableOAuthProvider id =>
    obtain rfl := Option.some.inj h
    split <;> exact ⟨rfl, rfl, rfl, rfl⟩
  | deleteOAuthProvider id =>
    simp only [Query.providerRow] at h
    split at h
    · cases h
    · obtain rfl := Option.some.inj h
      exact ⟨rfl, rfl, rfl, rfl⟩
  | _ =>
    obtain rfl := Option.some.inj h
    exact ⟨rfl, rfl, rfl, rfl⟩

/-- **What a statement does to the providers.** It inserts one, or it rewrites or removes each row. -/
theorem Query.exec_providers (q : Query) (now : Time) (fresh : UUID) (s : Store) :
    (∃ p, q = .createOAuthProvider p ∧
      ((Query.createOAuthProvider p).exec now fresh s).1 = .ok (p.row now fresh) ∧
      s.oauthProviders.insert (p.row now fresh) = some (q.exec now fresh s).2.oauthProviders) ∨
    (q.exec now fresh s).2.oauthProviders.rows = s.oauthProviders.rows.filterMap (q.providerRow now) := by
  have hid : s.oauthProviders.rows = s.oauthProviders.rows.filterMap fun o => some o :=
    List.filterMap_some.symm
  cases q with
  | createOAuthProvider p =>
    simp only [Query.exec]
    rcases insertOne_cases s.oauthProviders (Refers s.clients fun c => c.id == p.clientID) (p.row now fresh) with
      ⟨e, h⟩ | ⟨t, hins, h⟩
    · rw [h]
      exact Or.inr hid
    · refine Or.inl ⟨p, rfl, ?_, ?_⟩
      · rw [h]
      · rw [h]
        exact hins
  | updateOAuthProvider p => exact Or.inr (congrFun List.filterMap_eq_map' s.oauthProviders.rows).symm
  | disableOAuthProvider id => exact Or.inr (congrFun List.filterMap_eq_map' s.oauthProviders.rows).symm
  | deleteOAuthProvider id =>
    right
    show s.oauthProviders.rows.filter _ = _
    rw [← List.filterMap_eq_filter]
    refine List.filterMap_congr fun o _ => ?_
    by_cases hid : o.id = id <;> simp [Query.providerRow, Option.guard, hid]
  | _ => exact Or.inr hid

/-- **What a step does to the providers.** -/
theorem respond_providers (q : Request) (d : Draw) (w : World) :
    (respond q d w).2.db.oauthProviders = w.db.oauthProviders ∨
    (∃ q', q = .sql q' ∧ d.fault = false ∧ ((∃ p, q' = .createOAuthProvider p ∧
          (respond (.sql (.createOAuthProvider p)) d w).1 = .ok (p.row (w.wait d.wait).now d.uuid) ∧
          w.db.oauthProviders.insert (p.row (w.wait d.wait).now d.uuid) =
            some (respond q d w).2.db.oauthProviders) ∨
        (respond q d w).2.db.oauthProviders.rows =
          w.db.oauthProviders.rows.filterMap (q'.providerRow (w.wait d.wait).now))) := by
  rcases respond_db q d w with ⟨_, hdb⟩ | ⟨q', rfl, hf, hdb⟩
  · left
    rw [hdb]
  · right
    refine ⟨q', rfl, hf, ?_⟩
    rw [hdb]
    rcases Query.exec_providers q' (w.wait d.wait).now d.uuid w.db with ⟨p, rfl, hok, hins⟩ | hrows
    · refine Or.inl ⟨p, rfl, ?_, hins⟩
      rw [respond_sql _ hf]
      exact hok
    · exact Or.inr hrows

/-- A statement that fails leaves the providers alone. -/
theorem respond_providers_error {d : Draw} {w : World} {e : DBError} (h : (respond (.sql q) d w).1 = .error e) :
    (respond (.sql q) d w).2.db.oauthProviders = w.db.oauthProviders := by
  cases hf : d.fault with
  | true =>
    rw [respond_sql_fault q hf]
    rfl
  | false =>
    rw [respond_sql q hf] at h ⊢
    cases q with
    | createOAuthProvider p =>
      rcases Query.exec_providers (.createOAuthProvider p) (w.wait d.wait).now d.uuid w.db with
        ⟨p', hq, hok, _⟩ | hrows
      · obtain rfl := Query.createOAuthProvider.inj hq
        rw [hok] at h
        cases h
      · exact Table.ext (hrows.trans List.filterMap_some)
    | updateOAuthProvider p => exact updateOne_error (by intro o; rfl) h
    | disableOAuthProvider id => cases h
    | deleteOAuthProvider id => cases h
    | _ => rfl

section Answers

variable {d : Draw} {w : World}

theorem respond_getOAuthProvider {id : UUID} {o : OauthProvider}
    (h : (respond (.sql (.getOAuthProvider id)) d w).1 = .ok o) :
    o ∈ w.db.oauthProviders.rows ∧ o.id = id := by
  obtain ⟨ho, hp⟩ := selectOne_ok (respond_sql_ok h).2.1
  exact ⟨ho, by simpa using hp⟩

/-- An update that succeeds found its row, and rewrote it. -/
theorem respond_updateOAuthProvider {p : UpdateOAuthProviderParams} {row : OauthProvider}
    (h : (respond (.sql (.updateOAuthProvider p)) d w).1 = .ok row) :
    (∃ o ∈ w.db.oauthProviders.rows, o.id = p.id ∧ row = p.write (w.wait d.wait).now o) ∧
      (respond (.sql (.updateOAuthProvider p)) d w).2.db.oauthProviders.rows =
        w.db.oauthProviders.rows.map fun o => if o.id == p.id then p.write (w.wait d.wait).now o else o := by
  obtain ⟨_, hexec, hdb⟩ := respond_sql_ok h
  have hupd : (updateOne w.db.oauthProviders (fun o => o.id == p.id) (p.write (w.wait d.wait).now)
    fun _ => rfl).1 = .ok row := hexec
  obtain ⟨o, ho, hid, hrow⟩ := updateOne_ok hupd
  refine ⟨⟨o, ho, beq_iff_eq.mp hid, hrow.symm⟩, ?_⟩
  rw [hdb]
  rfl

theorem respond_createOAuthProvider {p : CreateOAuthProviderParams} {row : OauthProvider}
    (h : (respond (.sql (.createOAuthProvider p)) d w).1 = .ok row) :
    row = p.row (w.wait d.wait).now d.uuid ∧
      w.db.oauthProviders.insert row = some (respond (.sql (.createOAuthProvider p)) d w).2.db.oauthProviders := by
  obtain ⟨_, hexec, hdb⟩ := respond_sql_ok h
  rw [hdb]
  simp only [Query.exec] at hexec ⊢
  rcases insertOne_cases w.db.oauthProviders (Refers w.db.clients fun c => c.id == p.clientID)
    (p.row (w.wait d.wait).now d.uuid) with ⟨e, hres⟩ | ⟨t, hins, hres⟩
  · rw [hres] at hexec
    cases hexec
  · rw [hres] at hexec ⊢
    obtain rfl := Except.ok.inj hexec
    exact ⟨rfl, hins⟩

end Answers

/-! ### Operations -/

/-- The parameters with which `CreateProvider` inserts. -/
def CreateProviderDTO.params (dto : CreateProviderDTO) (clientID : UUID) (secret : String) :
    CreateOAuthProviderParams :=
  { clientID := clientID, name := dto.name, displayName := dto.displayName
    providerClientID := dto.providerClientID, providerClientSecret := secret
    authUrl := dto.authURL, tokenUrl := dto.tokenURL, userInfoUrl := dto.userInfoURL
    scopes := dto.scopes, isEnabled := some dto.isEnabled }

/-- The parameters with which `UpdateProvider` updates. -/
def UpdateProviderDTO.params (dto : UpdateProviderDTO) (id : UUID) (secret : String) :
    UpdateOAuthProviderParams :=
  { id := id, displayName := dto.displayName, providerClientID := dto.providerClientID
    providerClientSecret := secret, authUrl := dto.authURL, tokenUrl := dto.tokenURL
    userInfoUrl := dto.userInfoURL, scopes := dto.scopes, isEnabled := some dto.isEnabled }

/-- A secret that was encrypted under a nonce of the service. -/
def AdminEnv.Sealed (env : AdminEnv) (secret encrypted : String) : Prop :=
  ∃ nonce : Base64.Bytes, nonce.length = Cipher.nonceSize ∧ encrypted = env.encryptSecret secret nonce

/-- The secret that an update writes: a new one, or the one that is stored. -/
def AdminEnv.Updated (env : AdminEnv) (secret stored encrypted : String) : Prop :=
  if secret = "" then encrypted = stored else env.Sealed secret encrypted

/-- **What an operation does to the providers**, and what it returns. -/
inductive ProviderChange (env : AdminEnv) (t : Table OauthProvider) :
    ProviderOperation → Except AdminError (Option ProviderModel) → Table OauthProvider → Prop
  | failed (op : ProviderOperation) (e : AdminError) : ProviderChange env t op (.error e) t
  | created {clientID : UUID} {dto : CreateProviderDTO} {secret : String} {now : Time} {fresh : UUID}
      {t' : Table OauthProvider} (valid : validateCreateProvider env dto = none)
      (hsecret : env.Sealed dto.providerClientSecret secret)
      (inserted : t.insert ((dto.params clientID secret).row now fresh) = some t') :
      ProviderChange env t (.create clientID dto)
        (.ok (some (toOAuthProvider ((dto.params clientID secret).row now fresh)))) t'
  | updated {id clientID : UUID} {dto : UpdateProviderDTO} {o : OauthProvider} {secret : String} {now : Time}
      {t' : Table OauthProvider} (valid : validateUpdateProvider env dto = none) (found : o ∈ t.rows)
      (addressed : o.id = id) (owned : o.clientID = clientID)
      (hsecret : env.Updated dto.providerClientSecret o.providerClientSecret secret)
      (rows : t'.rows = t.rows.map fun o => if o.id == id then (dto.params id secret).write now o else o) :
      ProviderChange env t (.update id clientID dto)
        (.ok (some (toOAuthProvider ((dto.params id secret).write now o)))) t'
  | enabled {id clientID : UUID} {o : OauthProvider} {now : Time} {t' : Table OauthProvider}
      (found : o ∈ t.rows) (addressed : o.id = id) (owned : o.clientID = clientID)
      (rows : t'.rows = t.rows.map fun o =>
        if o.id == id then { o with isEnabled := some true, updatedAt := now } else o) :
      ProviderChange env t (.enable id clientID) (.ok none) t'
  | disabled {id clientID : UUID} {o : OauthProvider} {now : Time} {t' : Table OauthProvider}
      (found : o ∈ t.rows) (addressed : o.id = id) (owned : o.clientID = clientID)
      (rows : t'.rows = t.rows.map fun o =>
        if o.id == id then { o with isEnabled := some false, updatedAt := now } else o) :
      ProviderChange env t (.disable id clientID) (.ok none) t'
  | deleted {id clientID : UUID} {o : OauthProvider} {t' : Table OauthProvider} (found : o ∈ t.rows)
      (addressed : o.id = id) (owned : o.clientID = clientID)
      (rows : t'.rows = t.rows.filter fun o => !(o.id == id)) :
      ProviderChange env t (.delete id clientID) (.ok none) t'

/-- The rows with one identifier are one row. -/
theorem provider_eq {t : Table OauthProvider} (h : o ∈ t.rows) (h' : o' ∈ t.rows)
    (hid : o.id = o'.id) : o = o' :=
  Table.eq_of_clash h h' (by simp [Keyed.clash, Keyed.key, hid])

section Operations

variable {env : AdminEnv} {α : Type} {Q : α → World → Prop} {w : World} {id clientID : UUID}

/-- The look-up of a provider that must belong to the client. -/
theorem getOwnProvider_ensures {Q : Except AdminError OauthProvider → World → Prop}
    (hok : ∀ o w', o ∈ w.db.oauthProviders.rows → o.id = id → o.clientID = clientID → w'.db = w.db → Q (.ok o) w')
    (herr : ∀ e w', w'.db = w.db → Q (.error e) w') :
    (getOwnProvider id clientID).Ensures backend anyRequest Q w := by
  have hread : ∀ d, (respond (.sql (.getOAuthProvider id)) d w).2.db = w.db :=
    fun d => respond_of_reads (q := .sql (.getOAuthProvider id)) rfl d w
  refine ensures_statement (fun d o ho => ?_) fun d e _ => ?_
  · obtain ⟨hmem, hid⟩ := respond_getOAuthProvider ho
    dsimp only
    split
    · exact .ret (herr _ _ (hread d))
    · next hclient => exact .ret (hok o _ hmem hid (not_not.mp hclient) (hread d))
  · cases e <;> exact .ret (herr _ _ (hread d))

/-- The encryption of a secret. -/
theorem encrypt_ensures {plaintext : String} {Q : Except AdminError String → World → Prop}
    (hok : ∀ encrypted w', env.Sealed plaintext encrypted → w'.db = w.db → Q (.ok encrypted) w')
    (herr : ∀ e w', w'.db = w.db → Q (.error e) w') :
    (encrypt env plaintext).Ensures backend anyRequest Q w := by
  refine ensures_random (fun d => ?_) fun n => .ret (herr _ _ rfl)
  refine .ret (hok _ _ ⟨_, ?_, rfl⟩ rfl)
  rw [List.length_map, List.length_range]
  rfl

theorem createProvider_ensures (clientID : UUID) (dto : CreateProviderDTO) (w : World) :
    (createProvider env clientID dto).Ensures backend anyRequest (fun r w' =>
      ProviderChange env w.db.oauthProviders (.create clientID dto) (r.map some) w'.db.oauthProviders) w := by
  unfold createProvider
  split
  · exact .ret (.failed _ _)
  next hvalid =>
  refine .bind (encrypt_ensures (fun secret w' hsecret hdb => ?_) fun e w' hdb => ?_)
  · refine ensures_statement (fun d row hrow => ?_) fun d e he => ?_
    · obtain ⟨rfl, hins⟩ := respond_createOAuthProvider hrow
      rw [hdb] at hins
      exact .ret (.created hvalid hsecret hins)
    · have hsame := respond_providers_error he
      cases e <;> exact .ret (by rw [hsame, hdb]; exact .failed _ _)
  · exact .ret (by rw [hdb]; exact .failed _ _)

/-- The last statement of `UpdateProvider`. -/
def writeProvider (id : UUID) (dto : UpdateProviderDTO) (secret : String) :
    Call (Except AdminError ProviderModel) :=
  Call.sql (.updateOAuthProvider (dto.params id secret)) fun
  | .error e => .ret (.error (.ofDB "updating provider" e))
  | .ok row => .ret (.ok (toOAuthProvider row))

theorem writeProvider_ensures {dto : UpdateProviderDTO} {o : OauthProvider}
    {secret : String} {t : Table OauthProvider} (hvalid : validateUpdateProvider env dto = none)
    (hmem : o ∈ t.rows) (hid : o.id = id) (hclient : o.clientID = clientID)
    (hsecret : env.Updated dto.providerClientSecret o.providerClientSecret secret)
    (ht : w.db.oauthProviders = t) :
    (writeProvider id dto secret).Ensures backend anyRequest (fun r w' =>
      ProviderChange env t (.update id clientID dto) (r.map some) w'.db.oauthProviders) w := by
  refine ensures_statement (fun d row hrow => ?_) fun d e he => ?_
  · obtain ⟨⟨o', ho', hid', rfl⟩, htable⟩ := respond_updateOAuthProvider hrow
    rw [ht] at ho' htable
    -- the row that is rewritten is the one that was read
    obtain rfl := provider_eq ho' hmem (hid'.trans hid.symm)
    exact .ret (.updated hvalid hmem hid hclient hsecret htable)
  · have hsame := respond_providers_error he
    exact .ret (by rw [hsame, ht]; exact .failed _ _)

theorem updateProvider_ensures (id clientID : UUID) (dto : UpdateProviderDTO) (w : World) :
    (updateProvider env id clientID dto).Ensures backend anyRequest (fun r w' =>
      ProviderChange env w.db.oauthProviders (.update id clientID dto) (r.map some) w'.db.oauthProviders) w := by
  unfold updateProvider
  split
  · exact .ret (.failed _ _)
  next hvalid =>
  refine .bind (getOwnProvider_ensures (fun o w' hmem hid hclient hdb => .bind ?_) fun e w' hdb => ?_)
  · unfold updatedSecret
    split
    · next hne =>
      refine .map (encrypt_ensures (fun secret w'' hsecret hdb' => ?_) fun e w'' hdb' => ?_)
      · refine writeProvider_ensures hvalid hmem hid hclient ?_ (by rw [hdb', hdb])
        unfold AdminEnv.Updated
        rw [if_neg hne]
        exact hsecret
      · exact .ret (by rw [hdb', hdb]; exact .failed _ _)
    · next hempty =>
      refine .ret (writeProvider_ensures hvalid hmem hid hclient ?_ (by rw [hdb]))
      unfold AdminEnv.Updated
      rw [if_pos (not_not.mp hempty)]
  · exact .ret (by rw [hdb]; exact .failed _ _)

theorem enableProvider_ensures (id clientID : UUID) (w : World) :
    (enableProvider id clientID).Ensures backend anyRequest (fun r w' =>
      ProviderChange env w.db.oauthProviders (.enable id clientID) (r.map fun _ => none)
        w'.db.oauthProviders) w := by
  refine .bind (getOwnProvider_ensures (fun o w' hmem hid hclient hdb => ?_) fun e w' hdb => ?_)
  · refine ensures_statement (fun d row hrow => ?_) fun d e he => ?_
    · obtain ⟨_, htable⟩ := respond_updateOAuthProvider hrow
      rw [hdb] at htable
      -- alone, what is written back is what the row holds
      have hrows := htable.trans (List.map_congr_left (g := fun o' => if o'.id == id then
          { o' with isEnabled := some true, updatedAt := (w'.wait d.wait).now } else o') fun o' ho' => by
        dsimp only
        split
        · next hid' =>
          obtain rfl := provider_eq ho' hmem ((beq_iff_eq.mp hid').trans hid.symm)
          rfl
        · rfl)
      exact .ret (.enabled hmem hid hclient hrows)
    · have hsame := respond_providers_error he
      exact .ret (by rw [hsame, hdb]; exact .failed _ _)
  · exact .ret (by rw [hdb]; exact .failed _ _)

/-- A statement on a provider of the client. -/
theorem onOwnProvider_ensures {q : Query} {Q : Except AdminError Unit → World → Prop}
    (hok : ∀ o w' d r, o ∈ w.db.oauthProviders.rows → o.id = id → o.clientID = clientID → w'.db = w.db →
      (respond (.sql q) d w').1 = .ok r → Q (.ok ()) (respond (.sql q) d w').2)
    (herr : ∀ e w', w'.db.oauthProviders = w.db.oauthProviders → Q (.error e) w') :
    (onOwnProvider id clientID q).Ensures backend anyRequest Q w := by
  refine .bind (.map (getOwnProvider_ensures (fun o w' hmem hid hclient hdb => ?_) fun e w' hdb => ?_))
  · refine ensures_statement (fun d r hr => ?_) fun d e he => ?_
    · exact .ret (hok o w' d r hmem hid hclient hdb hr)
    · exact .ret (herr _ _ ((respond_providers_error he).trans (by rw [hdb])))
  · exact .ret (herr e w' (by rw [hdb]))

theorem disableProvider_ensures (id clientID : UUID) (w : World) :
    (disableProvider id clientID).Ensures backend anyRequest (fun r w' =>
      ProviderChange env w.db.oauthProviders (.disable id clientID) (r.map fun _ => none)
        w'.db.oauthProviders) w := by
  refine onOwnProvider_ensures (fun o w' d r hmem hid hclient hdb hr => ?_) fun e w' hdb => ?_
  · have htable : (respond (.sql (.disableOAuthProvider id)) d w').2.db.oauthProviders.rows =
        w'.db.oauthProviders.rows.map fun o =>
          if o.id == id then { o with isEnabled := some false, updatedAt := (w'.wait d.wait).now } else o := by
      rw [(respond_sql_ok hr).2.2]
      rfl
    rw [hdb] at htable
    exact .disabled hmem hid hclient htable
  · rw [hdb]
    exact .failed _ _

theorem deleteProvider_ensures (id clientID : UUID) (w : World) :
    (deleteProvider id clientID).Ensures backend anyRequest (fun r w' =>
      ProviderChange env w.db.oauthProviders (.delete id clientID) (r.map fun _ => none)
        w'.db.oauthProviders) w := by
  refine onOwnProvider_ensures (fun o w' d r hmem hid hclient hdb hr => ?_) fun e w' hdb => ?_
  · have htable : (respond (.sql (.deleteOAuthProvider id)) d w').2.db.oauthProviders.rows =
        w'.db.oauthProviders.rows.filter fun o => !(o.id == id) := by
      rw [(respond_sql_ok hr).2.2]
      rfl
    rw [hdb] at htable
    exact .deleted hmem hid hclient htable
  · rw [hdb]
    exact .failed _ _

/-- **What an operation on a provider does**, run alone. -/
theorem serve_change (env : AdminEnv) (op : ProviderOperation) (ds : ℕ → Draw) (w : World) :
    ProviderChange env w.db.oauthProviders op ((op.serve env).run backend ds w).1
      ((op.serve env).run backend ds w).2.db.oauthProviders := by
  have hserve : (op.serve env).Ensures backend anyRequest
      (fun r w' => ProviderChange env w.db.oauthProviders op r w'.db.oauthProviders) w := by
    cases op with
    | create clientID dto => exact .map (createProvider_ensures clientID dto w)
    | update id clientID dto => exact .map (updateProvider_ensures id clientID dto w)
    | enable id clientID => exact .map (enableProvider_ensures id clientID w)
    | disable id clientID => exact .map (disableProvider_ensures id clientID w)
    | delete id clientID => exact .map (deleteProvider_ensures id clientID w)
  exact hserve.run ds

end Operations

/-! ### Sequential runs -/

/-- One operation, completed. -/
def ProviderOperation.run (env : AdminEnv) (op : ProviderOperation) (ds : ℕ → Draw) (w : World) :
    Except AdminError (Option ProviderModel) × World :=
  (op.serve env).run backend ds w

/-- Operations on providers, one after the other. -/
def runProviders (env : AdminEnv) : List (ProviderOperation × (ℕ → Draw)) → World → World
  | [], w => w
  | (op, ds) :: ops, w => runProviders env ops (op.run env ds w).2

/-- Every operation of the run meets `P`, in the world before it. -/
def AlongProviders (env : AdminEnv) (P : ProviderOperation → (ℕ → Draw) → World → Prop) :
    List (ProviderOperation × (ℕ → Draw)) → World → Prop
  | [], _ => True
  | (op, ds) :: ops, w => P op ds w ∧ AlongProviders env P ops (op.run env ds w).2

end GoauthServer
