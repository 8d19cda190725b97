import GoauthServer.Safety.ProviderSecrets
import GoauthServer.Spec.ProviderCalls

/-!
# Concurrent edits of a provider

`UpdateProvider` and `EnableProvider` read a provider and then write all of its columns, and nothing tells them
that the row has changed in between. An update with a secret writes only what is in its request. The two others
copy: an update without a secret the ciphertext, and `EnableProvider` everything but the state.

A copy does no harm exactly if it is still current when it is written (`CopiesCurrent`). Otherwise it brings
back what another call has replaced.
-/

namespace GoauthServer

open Interact Relational

variable {ι : Type}

/-- Edits of the provider `id` that are about to start, to be interleaved. -/
def providerEdits (env : AdminEnv) (id : UUID) (es : ι → ProviderEdit) (w : World) :
    Pool backend ι (Except AdminError (Option ProviderModel)) :=
  Pool.start (fun i => ((es i).on id).serve env) w

/-- The parameters of the update that call `i` is about to make, if it will succeed. -/
def nextWrite? (c : Pool backend ι (Except AdminError (Option ProviderModel))) (i : ι) (d : Draw) :
    Option UpdateOAuthProviderParams :=
  match c.next? i with
  | some (.sql (.updateOAuthProvider p)) =>
    if (respond (.sql (.updateOAuthProvider p)) d c.world).1.isOk then some p else none
  | _ => none

/-- The secret that was supplied last: what the last update with a secret has written. -/
def suppliedSecret (es : ι → ProviderEdit) (c : Pool backend ι (Except AdminError (Option ProviderModel)))
    (i : ι) (d : Draw) (s : String) : String :=
  match es i, nextWrite? c i d with
  | .update _ dto, some _ => if dto.providerClientSecret = "" then s else dto.providerClientSecret
  | _, _ => s

/-- The secret of the provider `id`, if there is one, decrypts to `s`. -/
def Store.HasSecret (env : AdminEnv) (id : UUID) (s : String) (db : Store) : Prop :=
  ∀ o ∈ db.oauthProviders.rows, o.id = id → env.auth.lib.decryptSecret o.providerClientSecret = some s

/-- What the edit copies into `p` is what `o` holds. -/
def ProviderEdit.CopiesFrom (env : AdminEnv) (id : UUID) (p : UpdateOAuthProviderParams) (o : OauthProvider) :
    ProviderEdit → Prop
  | .update _ dto =>
    dto.providerClientSecret = "" →
      env.auth.lib.decryptSecret p.providerClientSecret = env.auth.lib.decryptSecret o.providerClientSecret
  | .enable _ => p = o.enabledParams id
  | _ => True

instance {env : AdminEnv} {id : UUID} {p : UpdateOAuthProviderParams} {o : OauthProvider} :
    (e : ProviderEdit) → Decidable (e.CopiesFrom env id p o)
  | .update _ dto =>
    inferInstanceAs (Decidable (dto.providerClientSecret = "" →
      env.auth.lib.decryptSecret p.providerClientSecret = env.auth.lib.decryptSecret o.providerClientSecret))
  | .enable _ => inferInstanceAs (Decidable (p = o.enabledParams id))
  | .disable _ | .delete _ => .isTrue trivial

/-- What was copied is what the provider holds when it is written. -/
def CopiesCurrent (env : AdminEnv) (id : UUID) (es : ι → ProviderEdit)
    (c : Pool backend ι (Except AdminError (Option ProviderModel))) (i : ι) (d : Draw) : Prop :=
  ∀ p ∈ nextWrite? c i d, ∀ o ∈ c.world.db.oauthProviders.rows, o.id = id → (es i).CopiesFrom env id p o

variable [DecidableEq ι]

/-- A step of `EnableProvider` changes only whether the provider is enabled, and the time of the change. -/
def EnablesOnly (id : UUID) (es : ι → ProviderEdit)
    (c : Pool backend ι (Except AdminError (Option ProviderModel))) (i : ι) (d : Draw) : Prop :=
  ∀ clientID, es i = .enable clientID →
    ∀ o ∈ c.world.db.oauthProviders.rows, ∀ o' ∈ (c.step i d).world.db.oauthProviders.rows,
      o.id = id → o'.id = id → o' = { o with isEnabled := o'.isEnabled, updatedAt := o'.updatedAt }

/-! ### Steps -/

section Steps

variable {env : AdminEnv} {g : Cipher.Gcm} {key : Base64.Bytes} {id : UUID} {es : ι → ProviderEdit} {s : String}
  {c : Pool backend ι (Except AdminError (Option ProviderModel))} {i : ι} {d : Draw}
  {p : UpdateOAuthProviderParams}

/-- The nonces that were drawn have the length of a nonce. -/
def NoncesSized (log : Log effects) : Prop :=
  ∀ nonce : Base64.Bytes, ⟨.randBytes 12, some nonce⟩ ∈ log → nonce.length = Cipher.nonceSize

theorem NoncesSized.respond {log : Log effects} (h : NoncesSized log) (q : Request) (d : Draw) (w : World) :
    NoncesSized (⟨q, (respond q d w).1⟩ :: log) := by
  intro nonce hmem
  rcases List.mem_cons.mp hmem with heq | hmem
  · cases q with
    | randBytes n =>
      injection heq with hq hr
      obtain rfl := Request.randBytes.inj hq
      have hdraw : (GoauthServer.respond (.randBytes 12) d w).1 = some nonce := hr.symm
      simp only [GoauthServer.respond] at hdraw
      split at hdraw
      · cases hdraw
      · obtain rfl := Option.some.inj hdraw
        rw [List.length_map, List.length_range]
        rfl
    | _ => cases heq
  · exact h nonce hmem

/-- What the calls rely on: they keep to their protocols, and what they drew are nonces. -/
structure EditsWell (env : AdminEnv) (id : UUID) (es : ι → ProviderEdit)
    (c : Pool backend ι (Except AdminError (Option ProviderModel))) : Prop where
  obeys : c.Obeys fun i => editProtocol env id (es i)
  nonces : ∀ i, NoncesSized (c.threads i).log

theorem EditsWell.step (h : EditsWell env id es c) (i : ι) (d : Draw) : EditsWell env id es (c.step i d) := by
  refine ⟨h.obeys.step i d, ?_⟩
  cases hi : (c.threads i).prog with
  | ret a =>
    rw [Pool.step_of_ret hi]
    exact h.nonces
  | call q k =>
    exact Pool.forall_log_step (J := fun _ log _ => NoncesSized log) hi (fun hself => hself.respond q d c.world)
      (fun _ _ hother => hother) h.nonces

/-- A step that leaves the secret and the columns of the provider alone does no harm, and copies nothing. -/
theorem harmless_step (hsecret : c.world.db.HasSecret env id s) (hwrite : nextWrite? c i d = none)
    (hrows : ∀ o' ∈ (c.step i d).world.db.oauthProviders.rows, o'.id = id →
      ∃ o ∈ c.world.db.oauthProviders.rows, o' = { o with isEnabled := o'.isEnabled, updatedAt := o'.updatedAt }) :
    ((c.step i d).world.db.HasSecret env id (suppliedSecret es c i d s) ∧ EnablesOnly id es c i d) ↔
      CopiesCurrent env id es c i d := by
  have hs : suppliedSecret es c i d s = s := by
    unfold suppliedSecret
    rw [hwrite]
    split <;> simp_all
  refine iff_of_true ⟨?_, ?_⟩ ?_
  · rw [hs]
    intro o' ho' hid'
    obtain ⟨o, ho, heq⟩ := hrows o' ho' hid'
    rw [heq]
    exact hsecret o ho (by rw [← hid', heq])
  · intro _ _ o ho o' ho' hid hid'
    obtain ⟨o₀, ho₀, heq⟩ := hrows o' ho' hid'
    obtain rfl := provider_eq ho ho₀ (hid.trans (hid'.symm.trans (by rw [heq])))
    exact heq
  · intro p hp
    rw [hwrite] at hp
    cases hp

/-- A successful update of the provider, by call `i`. -/
theorem write_step {row : OauthProvider} (hid : p.id = id)
    (hnext : c.next? i = some (.sql (.updateOAuthProvider p)))
    (hok : (respond (.sql (.updateOAuthProvider p)) d c.world).1 = .ok row) :
    nextWrite? c i d = some p ∧ ∃ now, ∃ o ∈ c.world.db.oauthProviders.rows, o.id = id ∧
      ∀ o', (o' ∈ (c.step i d).world.db.oauthProviders.rows ∧ o'.id = id) ↔ o' = p.write now o := by
  subst hid
  obtain ⟨k, hi⟩ := Pool.call_of_next? hnext
  obtain ⟨⟨o, ho, hid, _⟩, hrows⟩ := respond_updateOAuthProvider hok
  refine ⟨?_, (c.world.wait d.wait).now, o, ho, hid, fun o' => ?_⟩
  · unfold nextWrite?
    rw [hnext]
    dsimp only
    rw [hok]
    rfl
  · rw [step_world hi, hrows, List.mem_map]
    constructor
    · rintro ⟨⟨o₀, ho₀, rfl⟩, hid'⟩
      by_cases h : o₀.id = p.id
      · obtain rfl := provider_eq ho₀ ho (h.trans hid.symm)
        exact if_pos (beq_iff_eq.mpr h)
      · rw [if_neg fun heq => h (beq_iff_eq.mp heq)] at hid'
        exact absurd hid' h
    · rintro rfl
      refine ⟨⟨o, ho, if_pos (beq_iff_eq.mpr hid)⟩, hid⟩

/-- A statement that neither creates nor updates a provider leaves its secret and its columns alone. -/
theorem respond_switches {q : Query} (hcreate : ∀ p, q ≠ .createOAuthProvider p)
    (hupdate : ∀ p, q ≠ .updateOAuthProvider p) {w : World} {o' : OauthProvider}
    (ho' : o' ∈ (respond (.sql q) d w).2.db.oauthProviders.rows) :
    ∃ o ∈ w.db.oauthProviders.rows, o' = { o with isEnabled := o'.isEnabled, updatedAt := o'.updatedAt } := by
  rcases respond_providers (.sql q) d w with hsame | ⟨q', hq, _, ⟨p, hq', _⟩ | hrows⟩
  · rw [hsame] at ho'
    exact ⟨o', ho', rfl⟩
  · obtain rfl := Request.sql.inj hq
    exact absurd hq' (hcreate p)
  · obtain rfl := Request.sql.inj hq
    rw [hrows] at ho'
    obtain ⟨o, ho, hrow⟩ := List.mem_filterMap.mp ho'
    refine ⟨o, ho, ?_⟩
    cases q with
    | updateOAuthProvider p => exact absurd rfl (hupdate p)
    | disableOAuthProvider id' =>
      obtain rfl := Option.some.inj hrow
      split <;> rfl
    | deleteOAuthProvider id' =>
      simp only [Query.providerRow] at hrow
      split at hrow
      · cases hrow
      · obtain rfl := Option.some.inj hrow
        rfl
    | _ =>
      obtain rfl := Option.some.inj hrow
      rfl

/-- Parameters that write back what the row holds, but for its state. -/
theorem eq_enabledParams_iff {o o₀ : OauthProvider} {now : Time} : o₀.enabledParams id = o.enabledParams id ↔
      (o₀.enabledParams id).write now o =
        { o with isEnabled := ((o₀.enabledParams id).write now o).isEnabled
                 updatedAt := ((o₀.enabledParams id).write now o).updatedAt } := by
  simp only [OauthProvider.enabledParams, UpdateOAuthProviderParams.write, UpdateOAuthProviderParams.mk.injEq,
    OauthProvider.mk.injEq]
  tauto

/-- **A successful update** by one of the calls. -/
theorem update_step_iff {row o₀ : OauthProvider} (hkey : key.length = Cipher.keySize)
    (hnonces : NoncesSized (c.threads i).log) (hsecret : c.world.db.HasSecret (env.withKey g key) id s)
    (hnext : c.next? i = some (.sql (.updateOAuthProvider p)))
    (hok : (respond (.sql (.updateOAuthProvider p)) d c.world).1 = .ok row)
    (hwrites : (es i).Writes (env.withKey g key) id (c.threads i).log o₀ p) :
    ((c.step i d).world.db.HasSecret (env.withKey g key) id (suppliedSecret es c i d s) ∧
      EnablesOnly id es c i d) ↔ CopiesCurrent (env.withKey g key) id es c i d := by
  obtain ⟨hwrite, now, o, ho, hid, hrows⟩ := write_step hwrites.id_eq hnext hok
  have hold := hsecret o ho hid
  -- after the step there is one row with this identifier
  have hafter : ∀ s', (c.step i d).world.db.HasSecret (env.withKey g key) id s' ↔
      (env.withKey g key).auth.lib.decryptSecret p.providerClientSecret = some s' := by
    intro s'
    constructor
    · intro h
      obtain ⟨hmem, hid'⟩ := (hrows (p.write now o)).mpr rfl
      have hnew := h (p.write now o) hmem hid'
      exact hnew
    · intro h o' ho' hid'
      rw [(hrows o').mp ⟨ho', hid'⟩]
      exact h
  rw [hafter]
  unfold suppliedSecret EnablesOnly CopiesCurrent
  rw [hwrite]
  cases he : es i with
  | update clientID dto =>
    rw [he] at hwrites
    obtain ⟨encrypted, hupdated, rfl⟩ := hwrites
    unfold AdminEnv.UpdatedIn at hupdated
    have hnone : ∀ clientID', ProviderEdit.update clientID dto ≠ .enable clientID' := fun _ h => by cases h
    by_cases hempty : dto.providerClientSecret = ""
    · dsimp only
      rw [if_pos hempty]
      constructor
      · rintro ⟨h, _⟩ p' hp o' ho' hid' _
        obtain rfl := Option.some.inj hp
        rw [h, provider_eq ho' ho (hid'.trans hid.symm), hold]
      · intro h
        refine ⟨?_, fun clientID' hc => absurd hc (hnone clientID')⟩
        rw [h _ rfl o ho hid hempty, hold]
    · dsimp only
      rw [if_neg hempty]
      rw [if_neg hempty] at hupdated
      obtain ⟨nonce, hnonce, rfl⟩ := hupdated
      refine iff_of_true ⟨?_, fun clientID' hc => absurd hc (hnone clientID')⟩
        fun p' _ o' _ _ h => absurd h hempty
      exact decryptSecret_of_sealed hkey ⟨nonce, hnonces nonce hnonce, rfl⟩
  | enable clientID =>
    rw [he] at hwrites
    obtain rfl := hwrites
    dsimp only
    constructor
    · rintro ⟨_, h⟩ p' hp o' ho' hid'
      obtain rfl := Option.some.inj hp
      obtain rfl := provider_eq ho' ho (hid'.trans hid.symm)
      obtain ⟨hmem, hid''⟩ := (hrows _).mpr rfl
      exact eq_enabledParams_iff.mpr (h clientID rfl o' ho _ hmem hid hid'')
    · intro h
      have hcopy := h _ rfl o ho hid
      refine ⟨?_, fun clientID' _ o' ho' o'' ho'' hid' hid'' => ?_⟩
      · rw [hcopy]
        exact hold
      · obtain rfl := provider_eq ho' ho (hid'.trans hid.symm)
        rw [(hrows o'').mp ⟨ho'', hid''⟩]
        exact eq_enabledParams_iff.mp hcopy
  | disable clientID =>
    rw [he] at hwrites
    exact hwrites.elim
  | delete clientID =>
    rw [he] at hwrites
    exact hwrites.elim

/-- **One step.** It leaves the secret that was supplied last, and an `EnableProvider` changes nothing else,
exactly if it writes no stale copy. -/
theorem edit_step_iff (hkey : key.length = Cipher.keySize) (hwell : EditsWell (env.withKey g key) id es c)
    (hsecret : c.world.db.HasSecret (env.withKey g key) id s) (i : ι) (d : Draw) :
    ((c.step i d).world.db.HasSecret (env.withKey g key) id (suppliedSecret es c i d s) ∧
      EnablesOnly id es c i d) ↔ CopiesCurrent (env.withKey g key) id es c i d := by
  cases hi : (c.threads i).prog with
  | ret a =>
    have hnext : c.next? i = none := by
      unfold Pool.next?
      rw [hi]
    refine harmless_step hsecret (by unfold nextWrite?; rw [hnext]) fun o' ho' _ => ?_
    rw [Pool.step_of_ret hi] at ho'
    exact ⟨o', ho', rfl⟩
  | call q k =>
  have hq := hwell.obeys.request hi
  have hnext := Pool.next?_of_call hi
  have hworld := step_world (d := d) hi
  -- a request that does not update the provider
  have hother : (∀ p, q ≠ .sql (.updateOAuthProvider p)) →
      (∀ o' ∈ (respond q d c.world).2.db.oauthProviders.rows, o'.id = id →
        ∃ o ∈ c.world.db.oauthProviders.rows,
          o' = { o with isEnabled := o'.isEnabled, updatedAt := o'.updatedAt }) →
      (((c.step i d).world.db.HasSecret (env.withKey g key) id (suppliedSecret es c i d s) ∧
        EnablesOnly id es c i d) ↔ CopiesCurrent (env.withKey g key) id es c i d) := by
    intro hne hrows
    refine harmless_step hsecret ?_ (by rw [hworld]; exact hrows)
    unfold nextWrite?
    rw [hnext]
    split
    · next p heq => exact absurd (Option.some.inj heq) (hne p)
    · rfl
  cases q with
  | now => exact hq.elim
  | newUUID => exact hq.elim
  | exchangeCode => exact hq.elim
  | getUserInfo => exact hq.elim
  | randBytes n => exact hother (fun _ h => by cases h) fun o' ho' _ => ⟨o', ho', rfl⟩
  | sql q =>
    cases q with
    | getOAuthProvider id' =>
      exact hother (fun _ h => by cases h) fun o' ho' _ =>
        respond_switches (fun _ h => by cases h) (fun _ h => by cases h) ho'
    | disableOAuthProvider id' =>
      exact hother (fun _ h => by cases h) fun o' ho' _ =>
        respond_switches (fun _ h => by cases h) (fun _ h => by cases h) ho'
    | deleteOAuthProvider id' =>
      exact hother (fun _ h => by cases h) fun o' ho' _ =>
        respond_switches (fun _ h => by cases h) (fun _ h => by cases h) ho'
    | updateOAuthProvider p =>
      obtain ⟨o, _, hwrites⟩ := hq
      cases hr : (respond (.sql (.updateOAuthProvider p)) d c.world).1 with
      | ok row => exact update_step_iff hkey (hwell.nonces i) hsecret hnext hr hwrites
      | error e =>
        refine harmless_step hsecret ?_ fun o' ho' _ => ?_
        · unfold nextWrite?
          rw [hnext]
          dsimp only
          rw [hr]
          rfl
        · rw [hworld, respond_providers_error hr] at ho'
          exact ⟨o', ho', rfl⟩
    | _ => exact hq.elim


end Steps

omit [DecidableEq ι] in
/-- The calls are well before they start. -/
theorem editsWell_start (env : AdminEnv) (id : UUID) (es : ι → ProviderEdit) (w : World) :
    EditsWell env id es (providerEdits env id es w) :=
  ⟨fun i => edit_obeys env id (es i), fun _ _ h => absurd h List.not_mem_nil⟩

/-- **When concurrent edits lose nothing.** In every interleaving of edits of a provider, at each point the
secret is the one that was supplied last and no `EnableProvider` has changed another column, exactly if each
update without a secret writes a copy of the secret that is current, and each `EnableProvider` writes a copy of
the row that is current. -/
theorem provider_edits_iff (env : AdminEnv) (g : Cipher.Gcm) (key : Base64.Bytes)
    (hkey : key.length = Cipher.keySize) (id : UUID) (es : ι → ProviderEdit) (w : World) (s : String)
    (h : w.db.HasSecret (env.withKey g key) id s) (ls : List (ι × Draw)) :
    (Pool.Tracks (suppliedSecret es)
        (fun s (c : Pool backend ι (Except AdminError (Option ProviderModel))) =>
          c.world.db.HasSecret (env.withKey g key) id s)
        s (providerEdits (env.withKey g key) id es w) ls ∧
      Pool.Along (EnablesOnly id es) (providerEdits (env.withKey g key) id es w) ls) ↔
    Pool.Along (CopiesCurrent (env.withKey g key) id es) (providerEdits (env.withKey g key) id es w) ls := by
  have hwell := editsWell_start (env.withKey g key) id es w
  generalize hc : providerEdits (env.withKey g key) id es w = c at hwell
  have hsecret : c.world.db.HasSecret (env.withKey g key) id s := by
    rw [← hc]
    exact h
  clear hc h
  induction ls generalizing c s with
  | nil =>
    rw [Pool.tracks_nil]
    exact iff_of_true ⟨hsecret, trivial⟩ trivial
  | cons l ls ih =>
    have hstep := edit_step_iff hkey hwell hsecret l.1 l.2
    rw [Pool.tracks_cons]
    constructor
    · rintro ⟨⟨_, htail⟩, honly, hrest⟩
      exact ⟨hstep.mp ⟨htail.start, honly⟩, (ih _ _ (hwell.step _ _) htail.start).mp ⟨htail, hrest⟩⟩
    · rintro ⟨hcopies, hrest⟩
      obtain ⟨hnew, honly⟩ := hstep.mpr hcopies
      obtain ⟨htail, hrest'⟩ := (ih _ _ (hwell.step _ _) hnew).mpr hrest
      exact ⟨⟨hsecret, htail⟩, honly, hrest'⟩

section Examples

open Deployment

/-- A provider with the secret `first`. -/
def secretStart : World :=
  ((ProviderOperation.create 1 (exampleProvider "first")).run keyedAdmin (fun _ => draw 7 30) ⟨0, store⟩).2

/-- An update to the secret `second`, and another edit. -/
def twoEdits (e : ProviderEdit) : Bool → ProviderEdit
  | true => .update 1 (exampleUpdate "second")
  | false => e

theorem hasSecret_start : secretStart.db.HasSecret keyedAdmin 30 "first" := by
  unfold Store.HasSecret
  decide +kernel

/-- One after the other: the update, then `EnableProvider`. -/
theorem provider_edits_example :
    Pool.Along (CopiesCurrent keyedAdmin 30 (twoEdits (.enable 1)))
        (providerEdits keyedAdmin 30 (twoEdits (.enable 1)) secretStart) (turns 3 true ++ turns 2 false) ∧
      Pool.Along (EnablesOnly 30 (twoEdits (.enable 1)))
        (providerEdits keyedAdmin 30 (twoEdits (.enable 1)) secretStart) (turns 3 true ++ turns 2 false) := by
  have hcopies : Pool.Along (CopiesCurrent keyedAdmin 30 (twoEdits (.enable 1)))
      (providerEdits keyedAdmin 30 (twoEdits (.enable 1)) secretStart) (turns 3 true ++ turns 2 false) := by
    unfold CopiesCurrent
    decide +kernel
  exact ⟨hcopies, ((provider_edits_iff admin clearGcm zeroKey rfl 30 (twoEdits (.enable 1)) secretStart "first"
    hasSecret_start (turns 3 true ++ turns 2 false)).mpr hcopies).2⟩

/-- The other edit reads the provider, the update runs, and the other edit goes on. -/
def overtaken (e : ProviderEdit) : Pool backend Bool (Except AdminError (Option ProviderModel)) :=
  (providerEdits keyedAdmin 30 (twoEdits e) secretStart).run (turns 1 false ++ turns 3 true ++ turns 1 false)

/-- The secret that was supplied last in that run. -/
def overtakenSecret (e : ProviderEdit) : String :=
  Pool.ghost (suppliedSecret (twoEdits e)) "first" (providerEdits keyedAdmin 30 (twoEdits e) secretStart)
    (turns 1 false ++ turns 3 true ++ turns 1 false)

/-- `EnableProvider`, and an update without a secret, bring back the secret that an update has replaced meanwhile.
`EnableProvider` brings back the old name as well. All calls succeed. -/
theorem stale_copy_restores_secret :
    (overtaken (.enable 1)).Succeeded true ∧ (overtaken (.enable 1)).Succeeded false ∧
      overtakenSecret (.enable 1) = "second" ∧
      (∃ o ∈ (overtaken (.enable 1)).world.db.oauthProviders.rows, o.id = 30 ∧ o.displayName = "Example" ∧
        keyedAdmin.auth.lib.decryptSecret o.providerClientSecret = some "first") ∧
      (overtaken (.update 1 (exampleUpdate ""))).Succeeded true ∧
      (overtaken (.update 1 (exampleUpdate ""))).Succeeded false ∧
      overtakenSecret (.update 1 (exampleUpdate "")) = "second" ∧
      ∃ o ∈ (overtaken (.update 1 (exampleUpdate ""))).world.db.oauthProviders.rows, o.id = 30 ∧
        keyedAdmin.auth.lib.decryptSecret o.providerClientSecret = some "first" := by
  decide +kernel

end Examples

end GoauthServer
