import GoauthServer.Safety.ProviderSecrets

/-!
# Validity of stored providers

Creation and update have a validator each. They ask for the same things, but that creation asks in addition for
a name, which no update writes, and for a secret (`validateCreateProvider_eq_none`). The validator of updates
does not look at the secret: an empty one stands for the one that is stored, and any other one is encrypted and
stored, among them those of blanks only.

So a stored row stays one that could have been created, exactly until an update that is accepted carries a
secret of blanks.
-/

namespace GoauthServer

open Interact Relational

/-- The request that would create the row with this secret. -/
def OauthProvider.request (o : OauthProvider) (secret : String) : CreateProviderDTO where
  name := o.name
  displayName := o.displayName
  providerClientID := o.providerClientID
  providerClientSecret := secret
  authURL := o.authUrl
  tokenURL := o.tokenUrl
  userInfoURL := o.userInfoUrl
  scopes := o.scopes
  isEnabled := o.isEnabled = some true

/-- The row, with its secret decrypted, passes `validateCreateDTO`. -/
def OauthProvider.Valid (env : AdminEnv) (o : OauthProvider) : Prop :=
  ∃ secret, env.auth.lib.decryptSecret o.providerClientSecret = some secret ∧
    validateCreateProvider env (o.request secret) = none

/-- Every stored provider is valid. -/
def Store.ProvidersValid (env : AdminEnv) (s : Store) : Prop :=
  ∀ o ∈ s.oauthProviders.rows, o.Valid env

/-- `UpdateProvider` accepts the request: its fields are valid, the provider is one of the client, and the
look-up, the nonce and the statement do not fail. -/
def AcceptsUpdate (env : AdminEnv) (id clientID : UUID) (dto : UpdateProviderDTO) (ds : ℕ → Draw)
    (w : World) : Prop :=
  validateUpdateProvider env dto = none ∧
    (∃ o ∈ w.db.oauthProviders.rows, o.id = id ∧ o.clientID = clientID) ∧
    ∀ n < 3, (ds n).fault = false

/-- The operation is an update that is accepted, with a secret that is not empty and only blanks. -/
def ProviderOperation.Blanks (env : AdminEnv) (ds : ℕ → Draw) (w : World) : ProviderOperation → Prop
  | .update id clientID dto =>
    dto.providerClientSecret ≠ "" ∧ Text.trimSpace dto.providerClientSecret = "" ∧
      AcceptsUpdate env id clientID dto ds w
  | _ => False

/-! ### The validators -/

section Validators

variable {env : AdminEnv}

theorem validateRequired_eq_none {field value : String} :
    validateRequired field value = none ↔ Text.trimSpace value ≠ "" := by
  unfold validateRequired
  split <;> simp_all

/-- The fields of a request for a provider that an update writes as well. -/
def CreateProviderDTO.edit (dto : CreateProviderDTO) : UpdateProviderDTO where
  displayName := dto.displayName
  providerClientID := dto.providerClientID
  providerClientSecret := dto.providerClientSecret
  authURL := dto.authURL
  tokenURL := dto.tokenURL
  userInfoURL := dto.userInfoURL
  scopes := dto.scopes
  isEnabled := dto.isEnabled

/-- **The two validators.** Creation asks for what an update asks for, a name and a secret. -/
theorem validateCreateProvider_eq_none {dto : CreateProviderDTO} : validateCreateProvider env dto = none ↔
      Text.trimSpace dto.name ≠ "" ∧ Text.trimSpace dto.providerClientSecret ≠ "" ∧
        validateUpdateProvider env dto.edit = none := by
  unfold validateCreateProvider validateUpdateProvider
  simp only [Option.orElse_eq_none, validateRequired_eq_none, CreateProviderDTO.edit]
  constructor
  · rintro ⟨hname, hdisplay, hclient, hsecret, hrest⟩
    exact ⟨hname, hsecret, hdisplay, hclient, hrest⟩
  · rintro ⟨hname, hsecret, hdisplay, hclient, hrest⟩
    exact ⟨hname, hdisplay, hclient, hsecret, hrest⟩

/-- The validator of updates does not look at the secret, nor at the state of the provider. -/
theorem validateUpdateProvider_congr {dto dto' : UpdateProviderDTO}
    (h : { dto with providerClientSecret := "", isEnabled := true } =
      { dto' with providerClientSecret := "", isEnabled := true }) :
    validateUpdateProvider env dto = validateUpdateProvider env dto' := by
  obtain ⟨h₁, h₂, _, h₃, h₄, h₅, h₆, _⟩ := (UpdateProviderDTO.mk.injEq ..).mp h
  unfold validateUpdateProvider
  rw [h₁, h₂, h₃, h₄, h₅, h₆]

end Validators

/-! ### Rows -/

section Rows

variable {env : AdminEnv} {o : OauthProvider}

/-- A row that is created for a valid request is valid. -/
theorem OauthProvider.Valid.created {dto : CreateProviderDTO} {clientID fresh : UUID} {encrypted : String}
    {now : Time} (hvalid : validateCreateProvider env dto = none)
    (hsecret : env.auth.lib.decryptSecret encrypted = some dto.providerClientSecret) :
    ((dto.params clientID encrypted).row now fresh).Valid env := by
  refine ⟨_, hsecret, ?_⟩
  have hrequest : ((dto.params clientID encrypted).row now fresh).request dto.providerClientSecret = dto := by
    cases dto
    simp [OauthProvider.request, CreateProviderDTO.params, CreateOAuthProviderParams.row]
  rw [hrequest]
  exact hvalid

/-- A valid row remains so when it is enabled or disabled. -/
theorem OauthProvider.Valid.switched (h : o.Valid env) (enabled : Option Bool) (now : Time) :
    { o with isEnabled := enabled, updatedAt := now }.Valid env := by
  obtain ⟨secret, hsecret, hvalid⟩ := h
  obtain ⟨hname, hblank, hedit⟩ := validateCreateProvider_eq_none.mp hvalid
  refine ⟨secret, hsecret, validateCreateProvider_eq_none.mpr ⟨hname, hblank, ?_⟩⟩
  rw [← hedit]
  exact validateUpdateProvider_congr rfl

/-- **An update of a valid row.** What it writes is valid exactly when its secret is not blank. -/
theorem OauthProvider.Valid.write_iff {dto : UpdateProviderDTO} {id : UUID} {encrypted secret : String}
    {now : Time} (h : o.Valid env) (hvalid : validateUpdateProvider env dto = none)
    (hsecret : env.auth.lib.decryptSecret encrypted = some secret) :
    ((dto.params id encrypted).write now o).Valid env ↔ Text.trimSpace secret ≠ "" := by
  obtain ⟨_, _, hold⟩ := h
  have hname := (validateCreateProvider_eq_none.mp hold).1
  have hedit : validateUpdateProvider env (((dto.params id encrypted).write now o).request secret).edit = none := by
    rw [← hvalid]
    exact validateUpdateProvider_congr rfl
  constructor
  · rintro ⟨secret', hsecret', hnew⟩
    obtain rfl : secret = secret' := Option.some.inj (hsecret.symm.trans hsecret')
    exact (validateCreateProvider_eq_none.mp hnew).2.1
  · intro hblank
    exact ⟨secret, hsecret, validateCreateProvider_eq_none.mpr ⟨hname, hblank, hedit⟩⟩

end Rows

/-! ### Accepted updates -/

section Accepted

variable {α : Type} {env : AdminEnv} {o : OauthProvider} {ds : ℕ → Draw} {w : World}
  {secret : String} {f : Except AdminError String → Call α} {dto : UpdateProviderDTO}

/-- The look-up of a provider of the client. -/
theorem run_getOwnProvider {f : Except AdminError OauthProvider → Call α}
    (ho : o ∈ w.db.oauthProviders.rows) (hf : (ds 0).fault = false) :
    ((getOwnProvider o.id o.clientID).bind f).run backend ds w =
      (f (.ok o)).run backend (fun n => ds (n + 1)) (w.wait (ds 0).wait) := by
  have hsel : w.db.oauthProviders.select (fun p => p.id == o.id) = some o :=
    Table.select_eq_some ho (beq_self_eq_true _) fun a ha => by
      simp [Keyed.clash, Keyed.key, beq_iff_eq.mp ha]
  refine (run_sql _ _ hf).trans ?_
  simp only [Query.exec, selectOne_eq_ok hsel]
  rw [if_neg (not_not.mpr rfl)]
  rfl

/-- A new secret, under the nonce that is drawn. -/
theorem run_updatedSecret (hne : secret ≠ "") (hf : (ds 0).fault = false) :
    ((updatedSecret env o secret).bind f).run backend ds w =
      (f (.ok (env.encryptSecret secret ((List.range 12).map (ds 0).bytes)))).run backend
        (fun n => ds (n + 1)) (w.wait (ds 0).wait) := by
  have hr : (respond (.randBytes 12) (ds 0) w).1 = some ((List.range 12).map (ds 0).bytes) :=
    if_neg (ne_true_of_eq_false hf)
  unfold updatedSecret
  rw [if_pos hne]
  refine (Prog.run_call _ _ _ _).trans ?_
  rw [hr]
  rfl

theorem run_updatedSecret_fault (hne : secret ≠ "") (hf : (ds 0).fault = true) :
    ((updatedSecret env o secret).bind f).run backend ds w =
      (f (.error (.wrap "encrypting updated provider secret" (.wrap "generating nonce" .rand)))).run backend
        (fun n => ds (n + 1)) (w.wait (ds 0).wait) := by
  have hr : (respond (.randBytes 12) (ds 0) w).1 = none := if_pos hf
  unfold updatedSecret
  rw [if_pos hne]
  refine (Prog.run_call _ _ _ _).trans ?_
  rw [hr]
  rfl

/-- The statement finds the row that was looked up. -/
theorem run_writeProvider (ho : o ∈ w.db.oauthProviders.rows) (hf : (ds 0).fault = false) :
    ∃ m, ((writeProvider o.id dto secret).run backend ds w).1 = .ok m := by
  unfold writeProvider
  rw [Prog.run_call]
  cases hr : (respond (.sql (.updateOAuthProvider (dto.params o.id secret))) (ds 0) w).1 with
  | ok row => exact ⟨_, rfl⟩
  | error e =>
    rw [respond_sql _ hf] at hr
    have hnone := select_of_updateOne_error (t := w.db.oauthProviders) (p := fun p => p.id == o.id)
      (f := (dto.params o.id secret).write (w.wait (ds 0).wait).now) (fun _ => rfl) hr
    exact absurd (beq_self_eq_true o.id) (Table.select_eq_none.mp hnone o ho)

/-- **An update with a secret succeeds** exactly when it is accepted. -/
theorem updateProvider_ok_iff {id clientID : UUID} (hne : dto.providerClientSecret ≠ "") :
    (∃ m, ((updateProvider env id clientID dto).run backend ds w).1 = .ok m) ↔
      AcceptsUpdate env id clientID dto ds w := by
  have hensures : (updateProvider env id clientID dto).Ensures backend anyRequest (fun r w' =>
      ProviderChange env w.db.oauthProviders (.update id clientID dto) (r.map some) w'.db.oauthProviders) w :=
    updateProvider_ensures id clientID dto w
  have hchange := hensures.run ds
  constructor
  · rintro ⟨m, hm⟩
    rw [hm] at hchange
    cases hchange with
    | updated valid found addressed owned _ _ =>
      subst addressed owned
      refine ⟨valid, ⟨_, found, rfl, rfl⟩, ?_⟩
      -- each of the three requests is followed by an error when it fails
      unfold updateProvider at hm
      rw [valid] at hm
      dsimp only at hm
      have h₀ : (ds 0).fault = false := by
        by_contra hf
        have herr := hm.symm.trans (congrArg Prod.fst (run_sql_fault _ _ (Bool.of_not_eq_false hf)))
        cases herr
      rw [run_getOwnProvider found h₀] at hm
      have h₁ : (ds 1).fault = false := by
        by_contra hf
        rw [run_updatedSecret_fault hne (Bool.of_not_eq_false hf)] at hm
        cases hm
      rw [run_updatedSecret hne h₁] at hm
      have h₂ : (ds 2).fault = false := by
        by_contra hf
        have herr := hm.symm.trans (congrArg Prod.fst (run_sql_fault _ _ (Bool.of_not_eq_false hf)))
        cases herr
      intro n hn
      interval_cases n
      · exact h₀
      · exact h₁
      · exact h₂
  · rintro ⟨hvalid, ⟨o, ho, rfl, rfl⟩, hf⟩
    unfold updateProvider
    rw [hvalid]
    dsimp only
    rw [run_getOwnProvider ho (hf 0 (by omega)), run_updatedSecret hne (hf 1 (by omega))]
    exact run_writeProvider (w := (w.wait _).wait _) ho (hf 2 (by omega))

end Accepted

/-! ### Runs -/

section Runs

variable {env : AdminEnv} {g : Cipher.Gcm} {key : Base64.Bytes} {t t' : Table OauthProvider}

/-- The operation was an update that succeeded, with a secret of blanks. -/
def ProviderOperation.Blanked : ProviderOperation → Except AdminError (Option ProviderModel) → Prop
  | .update _ _ dto, .ok _ => dto.providerClientSecret ≠ "" ∧ Text.trimSpace dto.providerClientSecret = ""
  | _, _ => False

/-- A property of all rows, after one of them is rewritten. -/
theorem forall_rewritten_iff {P : OauthProvider → Prop} {o : OauthProvider} {f : OauthProvider → OauthProvider}
    (ho : o ∈ t.rows) (h : ∀ o' ∈ t.rows, P o') :
    (∀ o' ∈ t.rows.map fun o' => if o'.id == o.id then f o' else o', P o') ↔ P (f o) := by
  rw [List.forall_mem_map]
  constructor
  · intro hall
    have hrow := hall o ho
    rwa [if_pos (beq_self_eq_true o.id)] at hrow
  · intro hrow o' ho'
    split
    · next hid =>
      obtain rfl := provider_eq ho' ho (beq_iff_eq.mp hid)
      exact hrow
    · exact h o' ho'

/-- **One operation** on valid rows leaves valid rows, but if it stores blanks. -/
theorem ProviderChange.valid_iff (hkey : key.length = Cipher.keySize) {op : ProviderOperation}
    {r : Except AdminError (Option ProviderModel)} (hchange : ProviderChange (env.withKey g key) t op r t')
    (h : ∀ o ∈ t.rows, o.Valid (env.withKey g key)) :
    (∀ o ∈ t'.rows, o.Valid (env.withKey g key)) ↔ ¬ op.Blanked r := by
  cases hchange with
  | failed e =>
    refine iff_of_true h ?_
    cases op <;> exact not_false
  | created valid hsecret inserted =>
    refine iff_of_true (fun o ho => ?_) not_false
    rcases (Table.mem_of_insert inserted).mp ho with ho | rfl
    · exact h o ho
    · exact .created valid (decryptSecret_of_sealed hkey hsecret)
  | updated valid found addressed _ hsecret rows =>
    subst addressed
    rw [rows, forall_rewritten_iff found h]
    unfold AdminEnv.Updated at hsecret
    split at hsecret
    · next hempty =>
      -- the stored secret is kept, and it was valid before
      refine iff_of_true ?_ fun hblank => hblank.1 hempty
      obtain ⟨secret, hdecrypt, hrow⟩ := h _ found
      subst hsecret
      exact (OauthProvider.Valid.write_iff ⟨secret, hdecrypt, hrow⟩ valid hdecrypt).mpr
        (validateCreateProvider_eq_none.mp hrow).2.1
    · next hne =>
      rw [(h _ found).write_iff valid (decryptSecret_of_sealed hkey hsecret)]
      exact ⟨fun hblank hop => hblank hop.2, fun hop hblank => hop ⟨hne, hblank⟩⟩
  | enabled found addressed _ rows =>
    subst addressed
    refine iff_of_true ?_ not_false
    rw [rows, forall_rewritten_iff found h]
    exact (h _ found).switched _ _
  | disabled found addressed _ rows =>
    subst addressed
    refine iff_of_true ?_ not_false
    rw [rows, forall_rewritten_iff found h]
    exact (h _ found).switched _ _
  | deleted found addressed _ rows =>
    refine iff_of_true (fun o ho => ?_) not_false
    rw [rows] at ho
    exact h o (List.mem_of_mem_filter ho)

/-- Whether an update stores blanks is seen before it runs. -/
theorem blanked_run_iff (op : ProviderOperation) (ds : ℕ → Draw) (w : World) :
    op.Blanked (op.run env ds w).1 ↔ op.Blanks env ds w := by
  cases op with
  | update id clientID dto =>
    have hrun : ((ProviderOperation.update id clientID dto).run env ds w).1 =
        ((updateProvider env id clientID dto).run backend ds w).1.map some :=
      congrArg Prod.fst (Prog.run_bind_ret (B := backend) (p := updateProvider env id clientID dto)
        (g := Except.map some) (fun _ => rfl) ds w)
    unfold ProviderOperation.Blanks
    rw [hrun]
    constructor
    · intro hop
      cases hr : ((updateProvider env id clientID dto).run backend ds w).1 with
      | error e =>
        rw [hr] at hop
        exact hop.elim
      | ok m =>
        rw [hr] at hop
        exact ⟨hop.1, hop.2, (updateProvider_ok_iff hop.1).mp ⟨m, hr⟩⟩
    · rintro ⟨hne, hblank, haccepts⟩
      obtain ⟨m, hm⟩ := (updateProvider_ok_iff hne).mpr haccepts
      rw [hm]
      exact ⟨hne, hblank⟩
  | _ => exact iff_of_false (by cases (ProviderOperation.run env _ ds w).1 <;> exact not_false) not_false

end Runs

/-- **When stored providers stay valid.** In a run of operations on valid providers, all rows are valid after
each operation exactly if no operation is an accepted update with a secret that is not empty and only blanks. -/
theorem providers_stay_valid_iff (env : AdminEnv) (g : Cipher.Gcm) (key : Base64.Bytes)
    (hkey : key.length = Cipher.keySize) (ops : List (ProviderOperation × (ℕ → Draw))) (w : World)
    (h : w.db.ProvidersValid (env.withKey g key)) :
    AlongProviders (env.withKey g key) (fun op ds w =>
        (op.run (env.withKey g key) ds w).2.db.ProvidersValid (env.withKey g key)) ops w ↔
      AlongProviders (env.withKey g key) (fun op ds w => ¬ op.Blanks (env.withKey g key) ds w) ops w := by
  induction ops generalizing w with
  | nil => exact Iff.rfl
  | cons op ops ih =>
    obtain ⟨op, ds⟩ := op
    have hstep := (serve_change (env.withKey g key) op ds w).valid_iff hkey h
    rw [show (op.serve (env.withKey g key)).run backend ds w = op.run (env.withKey g key) ds w from rfl,
      blanked_run_iff] at hstep
    refine (and_congr_left fun _ => hstep).trans (and_congr_right fun hop => ?_)
    exact ih _ (hstep.mpr hop)

section Examples

open Deployment

theorem providers_stay_valid_example :
    AlongProviders keyedAdmin (fun op ds w => (op.run keyedAdmin ds w).2.db.ProvidersValid keyedAdmin)
      secretLife ⟨0, store⟩ := by
  refine (providers_stay_valid_iff admin clearGcm zeroKey rfl secretLife ⟨0, store⟩
    fun o ho => absurd ho List.not_mem_nil).mpr ⟨not_false, ?_, ?_, not_false, trivial⟩
  · exact fun hblank => absurd hblank.2.1 (by decide +kernel)
  · exact fun hblank => hblank.1 rfl

/-- A provider is created. -/
def blankStart : Except AdminError (Option ProviderModel) × World :=
  (ProviderOperation.create 1 (exampleProvider "first")).run keyedAdmin (fun _ => draw 7 30) ⟨0, store⟩

/-- It is updated, with a blank for its secret. -/
def blankEnd : Except AdminError (Option ProviderModel) × World :=
  (ProviderOperation.update 30 1 (exampleUpdate " ")).run keyedAdmin (fun _ => draw 9 31) blankStart.2

/-- Both calls succeed. The created row is valid, and the one that is left has a secret that creation refuses. -/
theorem blank_secret_stored :
    blankStart.1.isOk = true ∧ blankStart.2.db.ProvidersValid keyedAdmin ∧ blankEnd.1.isOk = true ∧
      ∃ o ∈ blankEnd.2.db.oauthProviders.rows,
        keyedAdmin.auth.lib.decryptSecret o.providerClientSecret = some " " ∧
        validateCreateProvider keyedAdmin (o.request " ") =
          some (.validation "provider_client_secret" "required") ∧
        ¬ o.Valid keyedAdmin := by
  have hstart : ∀ o ∈ blankStart.2.db.oauthProviders.rows,
      keyedAdmin.auth.lib.decryptSecret o.providerClientSecret = some "first" ∧
        validateCreateProvider keyedAdmin (o.request "first") = none := by decide +kernel
  have hend : ∃ o ∈ blankEnd.2.db.oauthProviders.rows,
      keyedAdmin.auth.lib.decryptSecret o.providerClientSecret = some " " ∧
        validateCreateProvider keyedAdmin (o.request " ") =
          some (.validation "provider_client_secret" "required") := by decide +kernel
  refine ⟨by decide +kernel, fun o ho => ⟨"first", hstart o ho⟩, by decide +kernel, ?_⟩
  obtain ⟨o, ho, hsecret, hrefused⟩ := hend
  refine ⟨o, ho, hsecret, hrefused, ?_⟩
  rintro ⟨secret, hsecret', hvalid⟩
  obtain rfl : " " = secret := Option.some.inj (hsecret.symm.trans hsecret')
  rw [hrefused] at hvalid
  cases hvalid

end Examples

end GoauthServer
