import GoauthServer.Service.Authorization
import GoauthServer.Service.Deployment
import GoauthServer.Spec.Providers

/-!
# The secret of a provider

The secret of a provider is encrypted when it is supplied, and from then on its ciphertext is copied: by
updates without a secret, and by `EnableProvider`, which writes the whole row back. What the two look-ups
decrypt is compared with a `SecretLedger`, which is written from the requests and knows nothing of
ciphertexts. Every operation, whether it succeeds or fails, keeps the ledger and the table in agreement
(`SecretsKept.step`), under every key, for every secret and every choice of nonces.
-/

namespace GoauthServer

open Interact Relational

/-- For each provider, the last secret that was accepted and not empty. -/
abbrev SecretLedger : Type := UUID → Option String

/-- Record an operation that has completed. -/
def SecretLedger.record (L : SecretLedger) :
    ProviderOperation → Except AdminError (Option ProviderModel) → SecretLedger
  | .create _ dto, .ok (some p) => Function.update L p.id (some dto.providerClientSecret)
  | .update id _ dto, .ok _ =>
    if dto.providerClientSecret = "" then L else Function.update L id (some dto.providerClientSecret)
  | .delete id _, .ok _ => Function.update L id none
  | _, _ => L

/-- Execute operations and record them. -/
def runLedger (env : AdminEnv) : List (ProviderOperation × (ℕ → Draw)) → World × SecretLedger →
    World × SecretLedger
  | [], s => s
  | (op, ds) :: ops, s =>
    runLedger env ops ((op.run env ds s.1).2, s.2.record op (op.run env ds s.1).1)

/-- Each secret of the ledger is stored, under some nonce. -/
def SecretsKept (env : AdminEnv) (L : SecretLedger) (rows : List OauthProvider) : Prop :=
  ∀ id secret, L id = some secret → ∃ o ∈ rows, o.id = id ∧ env.Sealed secret o.providerClientSecret

section Ledger

variable {env : AdminEnv} {L : SecretLedger} {t t' : Table OauthProvider}

/-- Rows that are rewritten without a change of their secrets. -/
theorem SecretsKept.map {rows : List OauthProvider} (h : SecretsKept env L rows)
    {f : OauthProvider → OauthProvider} (hid : ∀ o, (f o).id = o.id)
    (hsecret : ∀ o ∈ rows, (f o).providerClientSecret = o.providerClientSecret) :
    SecretsKept env L (rows.map f) := by
  intro id secret hL
  obtain ⟨o, ho, hoid, hsealed⟩ := h id secret hL
  exact ⟨f o, List.mem_map_of_mem ho, (hid o).trans hoid, by rw [hsecret o ho]; exact hsealed⟩

theorem SecretsKept.created {row : OauthProvider} {secret : String} (h : SecretsKept env L t.rows)
    (hins : t.insert row = some t') (hsealed : env.Sealed secret row.providerClientSecret) :
    SecretsKept env (Function.update L row.id (some secret)) t'.rows := by
  intro id secret' hL
  by_cases hid : id = row.id
  · subst hid
    rw [Function.update_self] at hL
    obtain rfl := Option.some.inj hL
    exact ⟨row, (Table.mem_of_insert hins).mpr (Or.inr rfl), rfl, hsealed⟩
  · rw [Function.update_of_ne hid] at hL
    obtain ⟨o, ho, hoid, hsealed'⟩ := h id secret' hL
    exact ⟨o, (Table.mem_of_insert hins).mpr (Or.inl ho), hoid, hsealed'⟩

/-- An update writes its own secret, or the one that the row has. -/
theorem SecretsKept.updated {id : UUID} {dto : UpdateProviderDTO} {o : OauthProvider} {secret : String}
    {now : Time} (h : SecretsKept env L t.rows) (ho : o ∈ t.rows) (hid : o.id = id)
    (hsecret : env.Updated dto.providerClientSecret o.providerClientSecret secret)
    (hrows : t'.rows = t.rows.map fun o => if o.id == id then (dto.params id secret).write now o else o) :
    SecretsKept env (if dto.providerClientSecret = "" then L
      else Function.update L id (some dto.providerClientSecret)) t'.rows := by
  unfold AdminEnv.Updated at hsecret
  split
  · next hempty =>
    rw [if_pos hempty] at hsecret
    rw [hrows]
    refine h.map (fun o' => ?_) fun o' ho' => ?_
    · split <;> rfl
    · split
      · next hid' =>
        obtain rfl := provider_eq ho' ho ((beq_iff_eq.mp hid').trans hid.symm)
        exact hsecret
      · rfl
  · next hne =>
    rw [if_neg hne] at hsecret
    intro id' secret' hL
    rw [hrows]
    by_cases hid' : id' = id
    · subst hid'
      rw [Function.update_self] at hL
      obtain rfl := Option.some.inj hL
      refine ⟨_, List.mem_map_of_mem ho, ?_⟩
      rw [if_pos (beq_iff_eq.mpr hid)]
      exact ⟨hid, hsecret⟩
    · rw [Function.update_of_ne hid'] at hL
      obtain ⟨o', ho', hoid, hsealed⟩ := h id' secret' hL
      refine ⟨_, List.mem_map_of_mem ho', ?_⟩
      rw [if_neg fun heq => hid' (hoid.symm.trans (beq_iff_eq.mp heq))]
      exact ⟨hoid, hsealed⟩

/-- **One operation** keeps the ledger and the table in agreement. -/
theorem SecretsKept.step {op : ProviderOperation} {r : Except AdminError (Option ProviderModel)}
    (hchange : ProviderChange env t op r t') (h : SecretsKept env L t.rows) :
    SecretsKept env (L.record op r) t'.rows := by
  cases hchange with
  | failed e =>
    cases op <;> exact h
  | created _ hsecret hins => exact h.created hins hsecret
  | updated _ found addressed _ hsecret rows => exact h.updated found addressed hsecret rows
  | enabled _ _ _ rows =>
    rw [rows]
    exact h.map (fun o => by split <;> rfl) fun o _ => by split <;> rfl
  | disabled _ _ _ rows =>
    rw [rows]
    exact h.map (fun o => by split <;> rfl) fun o _ => by split <;> rfl
  | deleted found addressed owned rows =>
    next id clientID o =>
    intro id' secret hL
    have hne : id' ≠ id := by
      rintro rfl
      rw [SecretLedger.record, Function.update_self] at hL
      cases hL
    rw [SecretLedger.record, Function.update_of_ne hne] at hL
    obtain ⟨o', ho', hoid, hsealed⟩ := h id' secret hL
    refine ⟨o', ?_, hoid, hsealed⟩
    rw [rows, List.mem_filter]
    refine ⟨ho', ?_⟩
    simp [hoid, hne]

/-- A whole run keeps them in agreement. -/
theorem SecretsKept.run (ops : List (ProviderOperation × (ℕ → Draw))) {s : World × SecretLedger}
    (h : SecretsKept env s.2 s.1.db.oauthProviders.rows) :
    SecretsKept env (runLedger env ops s).2 (runLedger env ops s).1.db.oauthProviders.rows := by
  induction ops generalizing s with
  | nil => exact h
  | cons op ops ih => exact ih (h.step (serve_change env op.1 op.2 s.1))

end Ledger

/-! ### The look-ups -/

section Lookups

variable {env : AdminEnv} {g : Cipher.Gcm} {key : Base64.Bytes} {o : OauthProvider} {secret : String}
  {ds : ℕ → Draw} {w : World}

/-- What is stored is decrypted to what was encrypted. -/
theorem decryptSecret_of_sealed (hkey : key.length = Cipher.keySize) {encrypted : String}
    (h : (env.withKey g key).Sealed secret encrypted) :
    (env.withKey g key).auth.lib.decryptSecret encrypted = some secret := by
  obtain ⟨nonce, hnonce, rfl⟩ := h
  show (Cipher.decrypt g key (Cipher.encrypt g key secret nonce)).toOption = some secret
  rw [Cipher.decrypt_encrypt hkey hnonce]
  rfl

theorem getProviderWithSecret_run {env : Env} (ho : o ∈ w.db.oauthProviders.rows)
    (hsecret : env.lib.decryptSecret o.providerClientSecret = some secret) (hf : (ds 0).fault = false) :
    ∃ p, ((getProviderWithSecret env o.id).run backend ds w).1 = .ok p ∧ p.id = o.id ∧
      p.providerClientSecret = secret := by
  have hsel : w.db.oauthProviders.select (fun p => p.id == o.id) = some o :=
    Table.select_eq_some ho (beq_self_eq_true _) fun a ha => by
      simp [Keyed.clash, Keyed.key, beq_iff_eq.mp ha]
  unfold getProviderWithSecret
  rw [run_sql _ _ hf]
  simp only [Query.exec, selectOne_eq_ok hsel, hsecret]
  exact ⟨_, rfl, rfl, rfl⟩

theorem getProviderWithSecretByClientAndName_run {env : Env} (ho : o ∈ w.db.oauthProviders.rows)
    (hsecret : env.lib.decryptSecret o.providerClientSecret = some secret) (hf : (ds 0).fault = false) :
    ∃ p, ((getProviderWithSecretByClientAndName env o.clientID o.name).run backend ds w).1 = .ok p ∧
      p.id = o.id ∧ p.providerClientSecret = secret := by
  have hsel : w.db.oauthProviders.select (fun p => p.clientID == o.clientID && p.name == o.name) = some o :=
    Table.select_eq_some ho (by simp) fun a ha => by
      obtain ⟨hclient, hname⟩ := Bool.and_eq_true_iff.mp ha
      simp [Keyed.clash, Keyed.key, beq_iff_eq.mp hclient, beq_iff_eq.mp hname]
  unfold getProviderWithSecretByClientAndName
  rw [run_sql _ _ hf]
  simp only [Query.exec, selectOne_eq_ok hsel, hsecret]
  exact ⟨_, rfl, rfl, rfl⟩

end Lookups

/-- **The secret of a provider survives.** After every sequence of operations on providers, from any store and
under any key, both look-ups return for each provider the last secret that was accepted for it and not empty.
And no text makes decryption slice out of range. -/
theorem provider_secret_survives (env : AdminEnv) (g : Cipher.Gcm) (key : Base64.Bytes)
    (hkey : key.length = Cipher.keySize) (ops : List (ProviderOperation × (ℕ → Draw))) (w : World) :
    (∀ id secret, (runLedger (env.withKey g key) ops (w, fun _ => none)).2 id = some secret →
      ∃ o ∈ (runLedger (env.withKey g key) ops (w, fun _ => none)).1.db.oauthProviders.rows, o.id = id ∧
        ∀ ds : ℕ → Draw, (ds 0).fault = false →
          (∃ p, ((getProviderWithSecret (env.withKey g key).auth id).run backend ds
              (runLedger (env.withKey g key) ops (w, fun _ => none)).1).1 = .ok p ∧
            p.id = id ∧ p.providerClientSecret = secret) ∧
          ∃ p, ((getProviderWithSecretByClientAndName (env.withKey g key).auth o.clientID o.name).run backend ds
              (runLedger (env.withKey g key) ops (w, fun _ => none)).1).1 = .ok p ∧
            p.id = id ∧ p.providerClientSecret = secret) ∧
    ∀ text, Cipher.decrypt g key text ≠ .error .outOfRange := by
  refine ⟨?_, Cipher.decrypt_ne_outOfRange g key⟩
  intro id secret hL
  have hstart : SecretsKept (env.withKey g key) (fun _ => none) w.db.oauthProviders.rows :=
    fun _ _ h => by cases h
  have hkept := SecretsKept.run ops (s := (w, fun _ => none)) hstart
  obtain ⟨o, ho, rfl, hsealed⟩ := hkept id secret hL
  have hsecret := decryptSecret_of_sealed hkey hsealed
  exact ⟨o, ho, rfl, fun ds hf =>
    ⟨getProviderWithSecret_run ho hsecret hf, getProviderWithSecretByClientAndName_run ho hsecret hf⟩⟩

section Examples

open Deployment

/-- A cipher that does not encipher. -/
def clearGcm : Cipher.Gcm where
  sealText _ _ plaintext := plaintext.toByteArray.data.toList
  openText _ _ bs :=
    if h : (ByteArray.mk bs.toArray).IsValidUTF8 then some (String.ofByteArray _ h) else none
  open_seal _ _ plaintext _ _ := by
    have heq : ByteArray.mk plaintext.toByteArray.data.toList.toArray = plaintext.toByteArray := by simp
    simp only [heq]
    rw [dif_pos plaintext.isValidUTF8]

def zeroKey : Base64.Bytes := List.replicate 32 0

/-- The administration under this key. -/
abbrev keyedAdmin : AdminEnv := admin.withKey clearGcm zeroKey

def exampleProvider (secret : String) : CreateProviderDTO where
  name := "example"
  displayName := "Example"
  providerClientID := "client"
  providerClientSecret := secret
  authURL := "https://idp.example/auth"
  tokenURL := "https://idp.example/token"
  userInfoURL := "https://idp.example/userinfo"
  scopes := ["openid"]
  isEnabled := true

def exampleUpdate (secret : String) : UpdateProviderDTO where
  displayName := "Renamed"
  providerClientID := "client"
  providerClientSecret := secret
  authURL := "https://idp.example/auth"
  tokenURL := "https://idp.example/token"
  userInfoURL := "https://idp.example/userinfo"
  scopes := ["openid"]
  isEnabled := false

/-- A provider is created, given a new secret, updated without one, and enabled. -/
def secretLife : List (ProviderOperation × (ℕ → Draw)) :=
  [(.create 1 (exampleProvider "first"), fun _ => draw 7 30),
    (.update 30 1 (exampleUpdate "second"), fun _ => draw 9 31),
    (.update 30 1 (exampleUpdate ""), fun _ => draw 7 32), (.enable 30 1, fun _ => draw 7 33)]

theorem provider_secret_survives_example :
    ∃ p, ((getProviderWithSecret keyedAdmin.auth 30).run backend (fun _ => draw 7 40)
        (runLedger keyedAdmin secretLife (⟨0, store⟩, fun _ => none)).1).1 = .ok p ∧
      p.id = 30 ∧ p.providerClientSecret = "second" := by
  obtain ⟨o, _, _, hread⟩ := (provider_secret_survives admin clearGcm zeroKey rfl secretLife ⟨0, store⟩).1 30
    "second" (by decide +kernel)
  exact (hread (fun _ => draw 7 40) rfl).1

end Examples

end GoauthServer
