import GoauthServer.Repository.Evolution
import GoauthServer.Service.Bootstrap
import GoauthServer.Service.Deployment

/-!
# The bootstrap after a failed attempt

`BootstrapDefaultAdmin` creates the administrator in four statements: `CreateUser`, `UpdatePasswordHash`,
`SetForcePasswordChange` and `PromoteUserToAdmin`. It asks first whether there is an administrator, which
only the last of the four makes true. An attempt that fails between the first and the last leaves a user
with the address of the configuration who is no administrator. The next start of the server finds no
administrator, tries to create the user again and fails, since addresses are unique; and so does every
start after it (`attempt_blocks_retry`).

`admin_retry_iff` says that the retry works if the attempt has failed before the row was inserted, and
only then.
-/

namespace GoauthServer

open Interact Relational

/-! ### What the statements do to the users -/

/-- There is no administrator. -/
def Store.NoAdmin (s : Store) : Prop := ∀ u ∈ s.users.rows, u.isAdmin ≠ some true

/-- The address is taken. -/
def Store.Taken (s : Store) (email : String) : Prop := ∃ u ∈ s.users.rows, u.email = email

section Rows

variable {s : Store} {rows : List User} {u : User}

theorem Store.NoAdmin.count (h : s.NoAdmin) : (s.users.rows.countP fun u => u.isAdmin == some true) = 0 := by
  rw [List.countP_eq_zero]
  intro u hu
  rw [beq_iff_eq]
  exact h u hu

/-- An update of the row at the end of the table. -/
theorem updateUser_last {t : Table User} (now : Time) (hrows : t.rows = rows ++ [u]) (hnew : ∀ a ∈ rows, a.id ≠ u.id)
    (f : User → User) (hf : ∀ u, Keyed.key (f u) = Keyed.key u) :
    (updateUser t now u.id f hf).1 = .ok { f u with updatedAt := now } ∧
      (updateUser t now u.id f hf).2.rows = rows ++ [{ f u with updatedAt := now }] := by
  have hother : ∀ a ∈ rows, (a.id == u.id) = false := fun a ha => beq_eq_false_iff_ne.mpr (hnew a ha)
  constructor
  · have hsel : t.select (fun a => a.id == u.id) = some u := by
      unfold Table.select
      rw [hrows, List.find?_append, List.find?_eq_none.mpr (fun a ha => by rw [hother a ha]; simp)]
      simp
    unfold updateUser updateOne Table.returning
    rw [hsel]
    rfl
  · show t.rows.map _ = _
    rw [hrows, List.map_append]
    congr 1
    · refine (List.map_congr_left fun a ha => ?_).trans (List.map_id rows)
      exact if_neg (ne_true_of_eq_false (hother a ha))
    · simp

end Rows

/-! ### The attempt -/

/-- A configuration with which the bootstrap creates an administrator. -/
structure BootstrapConfig.Valid (env : Env) (serverCfg : ServerConfig) (cfg : BootstrapConfig) : Prop where
  allowed : (serverCfg.env = "production" && !cfg.allowDefaultAdmin) = false
  configured : (cfg.defaultAdminEmail = "" || cfg.defaultAdminPassword = "") = false
  mail : env.lib.isMailAddress cfg.defaultAdminEmail = true
  policy : validatePassword env.lib cfg.defaultAdminPassword cfg.defaultAdminEmail = .ok ()

/-- The attempt fails at `CountAdminUsers`, at the salt, or at `CreateUser`: the requests 0, 1 and 3. The
last of them also fails where the id that is drawn is in use. -/
def FailsBeforeInsert (s : Store) (ds : ℕ → Draw) : Prop :=
  (ds 0).fault = true ∨ (ds 1).fault = true ∨ (ds 3).fault = true ∨ ∃ u ∈ s.users.rows, u.id = (ds 3).uuid

section Attempt

variable {env : Env} {cfg : BootstrapConfig} {serverCfg : ServerConfig} {w : World} {ds : ℕ → Draw}
  {s : Store} {fresh : UUID} {u : User} {id : UUID} {e : AuthError} {rows : List User}

theorem bootstrapDefaultAdmin_of_valid (h : cfg.Valid env serverCfg) :
    bootstrapDefaultAdmin env cfg serverCfg = Call.sql .countAdminUsers fun
      | .error e => .ret (.error (.ofDB "bootstrap: counting admin users" e))
      | .ok count => if count > 0 then .ret (.ok ()) else createDefaultAdmin env cfg := by
  unfold bootstrapDefaultAdmin
  rw [h.allowed, h.configured, h.mail, h.policy]
  rfl

/-- Where there is an administrator, nothing is done. -/
theorem bootstrap_again (h : cfg.Valid env serverCfg) (hadmin : ¬ w.db.NoAdmin) :
    ((bootstrapDefaultAdmin env cfg serverCfg).run backend ds w).2.db = w.db ∧ ((ds 0).fault = false →
        ((bootstrapDefaultAdmin env cfg serverCfg).run backend ds w).1 = .ok ()) := by
  rw [bootstrapDefaultAdmin_of_valid h, Prog.run_call]
  cases hf : (ds 0).fault with
  | true =>
    rw [show backend.respond (.sql .countAdminUsers) (ds 0) w = _ from respond_sql_fault _ hf]
    exact ⟨rfl, fun h => by cases h⟩
  | false =>
    rw [show backend.respond (.sql .countAdminUsers) (ds 0) w = _ from respond_sql _ hf]
    have hcount : 0 < w.db.users.rows.countP fun u => u.isAdmin == some true := by
      rw [List.countP_pos_iff]
      by_contra hno
      refine hadmin fun u hu hu' => hno ⟨u, hu, beq_iff_eq.mpr hu'⟩
    simp only [Query.exec, if_pos hcount]
    exact ⟨rfl, fun _ => rfl⟩

/-- Where there is none, and the count does not fail, one is to be created. -/
theorem bootstrap_create (h : cfg.Valid env serverCfg) (hadmin : w.db.NoAdmin) (hf : (ds 0).fault = false) :
    (bootstrapDefaultAdmin env cfg serverCfg).run backend ds w =
      (createDefaultAdmin env cfg).run backend (fun n => ds (n + 1)) (w.wait (ds 0).wait) := by
  rw [bootstrapDefaultAdmin_of_valid h, Prog.run_call,
    show backend.respond (.sql .countAdminUsers) (ds 0) w = _ from respond_sql _ hf]
  simp only [Query.exec]
  have hcount : ¬ w.db.users.rows.countP (fun u => u.isAdmin == some true) > 0 := by
    rw [hadmin.count]
    exact lt_irrefl 0
  rw [if_neg hcount]
  rfl

/-- The parameters of `CreateUser` for the administrator. -/
def BootstrapConfig.newUserParams (cfg : BootstrapConfig) (lastLoginAt : Time) : CreateUserParams :=
  { email := cfg.defaultAdminEmail, emailVerified := true, firstName := none, lastName := none
    provider := none, providerID := none, locale := "en-US", lastLoginAt := lastLoginAt }

/-- The row that is inserted. -/
def BootstrapConfig.newUser (cfg : BootstrapConfig) (lastLoginAt now : Time) (fresh : UUID) : User :=
  (cfg.newUserParams lastLoginAt).row now fresh

/-- The new row clashes with a row that has its id or its address, and with no other. -/
theorem clash_newUser (a : User) (lastLoginAt now : Time) (fresh : UUID) :
    Keyed.clash (Keyed.key a) (Keyed.key (cfg.newUser lastLoginAt now fresh)) = true ↔
      a.id = fresh ∨ a.email = cfg.defaultAdminEmail := by
  have hidentity : sameNonNull a.identity (cfg.newUser lastLoginAt now fresh).identity = false := by
    cases a.identity <;> rfl
  show (decide (a.id = fresh) || decide (a.email = cfg.defaultAdminEmail) ||
    sameNonNull a.identity (cfg.newUser lastLoginAt now fresh).identity) = true ↔ _
  rw [hidentity, Bool.or_false, Bool.or_eq_true, decide_eq_true_iff, decide_eq_true_iff]

theorem exec_createUser {lastLoginAt now : Time} :
    Query.exec (.createUser (cfg.newUserParams lastLoginAt)) now fresh s =
      s.withUsers (insertOne s.users true (cfg.newUser lastLoginAt now fresh)) := by
  have hlocale : ¬ (cfg.newUserParams lastLoginAt).locale.length > 10 := by
    show ¬ "en-US".length > 10
    decide
  simp only [Query.exec, if_neg hlocale]
  rfl

theorem exec_createUser_taken {lastLoginAt now : Time}
    (h : ∃ u ∈ s.users.rows, u.id = fresh ∨ u.email = cfg.defaultAdminEmail) :
    Query.exec (.createUser (cfg.newUserParams lastLoginAt)) now fresh s = (.error .uniqueViolation, s) := by
  obtain ⟨u, hu, hsame⟩ := h
  have hnone : s.users.insert (cfg.newUser lastLoginAt now fresh) = none :=
    Table.insert_eq_none hu ((clash_newUser u lastLoginAt now fresh).mpr hsame)
  rw [exec_createUser]
  unfold insertOne
  rw [hnone]
  rfl

theorem exec_createUser_free (lastLoginAt now : Time)
    (h : ∀ u ∈ s.users.rows, u.id ≠ fresh ∧ u.email ≠ cfg.defaultAdminEmail) :
    ∃ t, t.rows = s.users.rows ++ [cfg.newUser lastLoginAt now fresh] ∧
      Query.exec (.createUser (cfg.newUserParams lastLoginAt)) now fresh s =
        (.ok (cfg.newUser lastLoginAt now fresh), { s with users := t }) := by
  have hfree : ∀ a ∈ s.users.rows,
      Keyed.clash (Keyed.key a) (Keyed.key (cfg.newUser lastLoginAt now fresh)) = false := by
    intro a ha
    rw [← Bool.not_eq_true, clash_newUser]
    rintro (hid | hmail)
    · exact (h a ha).1 hid
    · exact (h a ha).2 hmail
  obtain ⟨t, ht⟩ := Table.exists_insert hfree
  refine ⟨t, (Table.insert_eq_some ht).1, ?_⟩
  rw [exec_createUser]
  unfold insertOne
  rw [ht]
  rfl

/-- The salt is drawn and the clock is read: the rest starts with `CreateUser`. -/
theorem createDefaultAdmin_run (env : Env) (cfg : BootstrapConfig) (w : World) (hsalt : (ds 0).fault = false) :
    ∃ salt, (createDefaultAdmin env cfg).run backend ds w =
      Prog.run backend (Call.sql (.createUser (cfg.newUserParams ((w.wait (ds 0).wait).wait (ds 1).wait).now)) fun
        | .error e => .ret (.error (.ofDB "bootstrap: creating default admin user" e))
        | .ok newUser => setUpAdmin cfg (hashPasswordArgon2id env cfg.defaultAdminPassword salt) newUser)
        (fun n => ds (n + 2)) ((w.wait (ds 0).wait).wait (ds 1).wait) := by
  have hsome : (backend.respond (.randBytes 16) (ds 0) w).1 = some ((List.range 16).map (ds 0).bytes) :=
    if_neg (ne_true_of_eq_false hsalt)
  refine ⟨(List.range 16).map (ds 0).bytes, ?_⟩
  unfold createDefaultAdmin
  rw [Prog.run_call, hsome, Prog.run_call]
  refine congrArg (fun k => Prog.run backend (Call.sql (.createUser (cfg.newUserParams _)) k) _ _)
    (funext fun x => ?_)
  cases x <;> rfl

/-- Without the new row the attempt fails and changes nothing. -/
theorem createDefaultAdmin_fails (h : (ds 0).fault = true ∨ (ds 2).fault = true ∨
      ∃ u ∈ w.db.users.rows, u.id = (ds 2).uuid ∨ u.email = cfg.defaultAdminEmail) :
    (∃ e, ((createDefaultAdmin env cfg).run backend ds w).1 = .error e) ∧
      ((createDefaultAdmin env cfg).run backend ds w).2.db = w.db := by
  cases hsalt : (ds 0).fault with
  | true =>
    have hnone : (backend.respond (.randBytes 16) (ds 0) w).1 = none := if_pos hsalt
    unfold createDefaultAdmin
    rw [Prog.run_call, hnone]
    exact ⟨⟨_, rfl⟩, rfl⟩
  | false =>
    obtain ⟨salt, hrun⟩ := createDefaultAdmin_run env cfg w hsalt
    rw [hrun, Prog.run_call]
    cases hf : (ds 2).fault with
    | true =>
      rw [show backend.respond (.sql (.createUser _)) (ds 2) _ = _ from respond_sql_fault _ hf]
      exact ⟨⟨_, rfl⟩, rfl⟩
    | false =>
      rw [hsalt, hf] at h
      rcases h with h | h | htaken
      · cases h
      · cases h
      · rw [show backend.respond (.sql (.createUser _)) (ds 2) _ = _ from respond_sql _ hf,
          exec_createUser_taken (s := (w.wait (ds 0).wait).wait (ds 1).wait |>.db) htaken]
        exact ⟨⟨_, rfl⟩, rfl⟩

/-- With the new row, the rest is to set it up. -/
theorem createDefaultAdmin_inserts (env : Env) (ds : ℕ → Draw) (w : World) (hsalt : (ds 0).fault = false)
    (hf : (ds 2).fault = false)
    (hfree : ∀ u ∈ w.db.users.rows, u.id ≠ (ds 2).uuid ∧ u.email ≠ cfg.defaultAdminEmail) :
    ∃ salt u w', (createDefaultAdmin env cfg).run backend ds w =
        (setUpAdmin cfg (hashPasswordArgon2id env cfg.defaultAdminPassword salt) u).run backend
          (fun n => ds (n + 3)) w' ∧
      w'.db.users.rows = w.db.users.rows ++ [u] ∧ u.id = (ds 2).uuid ∧ u.email = cfg.defaultAdminEmail ∧
      u.isAdmin = some false := by
  obtain ⟨salt, hrun⟩ := createDefaultAdmin_run env cfg w hsalt
  obtain ⟨t, ht, hexec⟩ := exec_createUser_free ((w.wait (ds 0).wait).wait (ds 1).wait).now
    (((w.wait (ds 0).wait).wait (ds 1).wait).wait (ds 2).wait).now hfree
  refine ⟨salt, _, ⟨(((w.wait (ds 0).wait).wait (ds 1).wait).wait (ds 2).wait).now,
    { w.db with users := t }⟩, ?_, ht, rfl, rfl, rfl⟩
  rw [hrun, Prog.run_call, show backend.respond (.sql (.createUser _)) (ds 2) _ = _ from respond_sql _ hf]
  rw [show ((w.wait (ds 0).wait).wait (ds 1).wait).db = w.db from rfl, hexec]

/-! ### Setting up the new row -/

theorem noAdmin_updateUser (h : s.NoAdmin) {now : Time} (f : User → User)
    (hf : ∀ u, Keyed.key (f u) = Keyed.key u) (hadmin : ∀ u, (f u).isAdmin = u.isAdmin) :
    (s.withUsers (updateUser s.users now id f hf)).2.NoAdmin := by
  intro u' hu'
  obtain ⟨u, hu, rfl⟩ := Table.exists_of_mem_update hu'
  split
  · show (f u).isAdmin ≠ _
    rw [hadmin u]
    exact h u hu
  · exact h u hu

/-- A statement on one user, but for the promotion, makes no administrator. -/
theorem noAdmin_respond {d : Draw} (h : w.db.NoAdmin) :
    (∀ hash, (respond (.sql (.updatePasswordHash id hash)) d w).2.db.NoAdmin) ∧
      ∀ flag, (respond (.sql (.setForcePasswordChange id flag)) d w).2.db.NoAdmin := by
  constructor
  · intro hash
    rcases respond_db (.sql (.updatePasswordHash id hash)) d w with ⟨_, hdb⟩ | ⟨q', hq', _, hdb⟩
    · rw [hdb]
      exact h
    · cases hq'
      rw [hdb]
      exact noAdmin_updateUser h (fun u => { u with passwordHash := hash }) (fun _ => rfl) fun _ => rfl
  · intro flag
    rcases respond_db (.sql (.setForcePasswordChange id flag)) d w with ⟨_, hdb⟩ | ⟨q', hq', _, hdb⟩
    · rw [hdb]
      exact h
    · cases hq'
      rw [hdb]
      exact noAdmin_updateUser h (fun u => { u with forcePasswordChange := flag }) (fun _ => rfl) fun _ => rfl

/-- Neither does a promotion that fails. -/
theorem noAdmin_promote {d : Draw} (id : UUID) {e : DBError} (h : w.db.NoAdmin)
    (herr : (respond (.sql (.promoteUserToAdmin id)) d w).1 = .error e) :
    (respond (.sql (.promoteUserToAdmin id)) d w).2.db.NoAdmin := by
  rcases respond_db (.sql (.promoteUserToAdmin id)) d w with ⟨_, hdb⟩ | ⟨q', hq', hf, hdb⟩
  · rw [hdb]
    exact h
  · cases hq'
    rw [respond_sql _ hf] at herr
    have husers : (Query.exec (.promoteUserToAdmin id) (w.wait d.wait).now d.uuid w.db).2.users = w.db.users :=
      updateOne_error (by intro u; rfl) herr
    rw [hdb]
    unfold Store.NoAdmin
    rw [husers]
    exact h

/-- If the set-up fails, there is still no administrator. -/
theorem setUpAdmin_error {passwordHash : String} (h : w.db.NoAdmin)
    (herr : ((setUpAdmin cfg passwordHash u).run backend ds w).1 = .error e) :
    ((setUpAdmin cfg passwordHash u).run backend ds w).2.db.NoAdmin := by
  unfold setUpAdmin at herr ⊢
  have h₁ : (backend.respond (.sql (.updatePasswordHash u.id (some passwordHash))) (ds 0) w).2.db.NoAdmin :=
    (noAdmin_respond h).1 _
  rw [Prog.run_call] at herr ⊢
  revert herr h₁
  cases (backend.respond (.sql (.updatePasswordHash u.id (some passwordHash))) (ds 0) w).1 with
  | error e => exact fun _ h₁ => h₁
  | ok _ =>
  generalize (backend.respond (.sql (.updatePasswordHash u.id (some passwordHash))) (ds 0) w).2 = w₁
  intro herr h₁
  have h₂ : (backend.respond (.sql (.setForcePasswordChange u.id true)) (ds 1) w₁).2.db.NoAdmin :=
    (noAdmin_respond h₁).2 _
  dsimp only at herr ⊢
  rw [Prog.run_call] at herr ⊢
  revert herr h₂
  cases (backend.respond (.sql (.setForcePasswordChange u.id true)) (ds 1) w₁).1 with
  | error e => exact fun _ h₂ => h₂
  | ok _ =>
  generalize (backend.respond (.sql (.setForcePasswordChange u.id true)) (ds 1) w₁).2 = w₂
  intro herr h₂
  dsimp only at herr ⊢
  rw [Prog.run_call] at herr ⊢
  have h₃ := fun e => noAdmin_promote (e := e) (d := ds 2) u.id h₂
  revert herr h₃
  cases (backend.respond (.sql (.promoteUserToAdmin u.id)) (ds 2) w₂).1 with
  | error e => exact fun _ h₃ => h₃ e rfl
  | ok _ =>
    -- the promotion is the last thing that can fail
    intro herr
    cases herr

/-- A statement on the last row that does not fail, and what comes after it. -/
theorem run_last {α : Type} (ds : ℕ → Draw) (q : Query) {k : Except DBError q.Row → Call α}
    (hf : (ds 0).fault = false) {r : q.Row} (hok : (q.exec (w.wait (ds 0).wait).now (ds 0).uuid w.db).1 = .ok r)
    (hrows : (q.exec (w.wait (ds 0).wait).now (ds 0).uuid w.db).2.users.rows = rows ++ [u]) :
    ∃ w' : World, (Call.sql q k).run backend ds w = (k (.ok r)).run backend (fun n => ds (n + 1)) w' ∧
      w'.db.users.rows = rows ++ [u] := by
  rw [run_sql q k hf, hok]
  exact ⟨_, rfl, hrows⟩

/-- **Without a fault** the new row becomes that of the administrator. -/
theorem setUpAdmin_ok (cfg : BootstrapConfig) (passwordHash : String)
    (hf : Sound ds) (hrows : w.db.users.rows = rows ++ [u]) (hnew : ∀ a ∈ rows, a.id ≠ u.id) :
    ((setUpAdmin cfg passwordHash u).run backend ds w).1 = .ok () ∧
      ∃ u', ((setUpAdmin cfg passwordHash u).run backend ds w).2.db.users.rows = rows ++ [u'] ∧
        u'.email = u.email ∧ u'.passwordHash = some passwordHash ∧ u'.forcePasswordChange = true ∧
        u'.isAdmin = some true := by
  unfold setUpAdmin
  -- the password
  obtain ⟨hok₁, hrows₁⟩ := updateUser_last (w.wait (ds 0).wait).now hrows hnew
    (fun u => { u with passwordHash := some passwordHash }) fun _ => rfl
  obtain ⟨w₁, hrun₁, hrows₁⟩ := run_last ds (.updatePasswordHash u.id (some passwordHash)) (hf 0) hok₁ hrows₁
  rw [hrun₁]
  -- the flag
  obtain ⟨hok₂, hrows₂⟩ := updateUser_last (w₁.wait (ds 1).wait).now hrows₁ hnew
    (fun u => { u with forcePasswordChange := true }) fun _ => rfl
  obtain ⟨w₂, hrun₂, hrows₂⟩ := run_last (fun n => ds (n + 1)) (.setForcePasswordChange u.id true) (hf 1)
    hok₂ hrows₂
  dsimp only
  rw [hrun₂]
  -- the promotion
  obtain ⟨hok₃, hrows₃⟩ := updateUser_last (w₂.wait (ds 2).wait).now hrows₂ hnew
    (fun u => { u with isAdmin := some true }) fun _ => rfl
  obtain ⟨w₃, hrun₃, hrows₃⟩ := run_last (fun n => ds (n + 2)) (.promoteUserToAdmin u.id) (hf 2) hok₃ hrows₃
  dsimp only
  rw [hrun₃]
  -- the entry in the audit log
  dsimp only
  rw [run_sql _ _ (hf 3)]
  exact ⟨rfl, _, hrows₃, rfl, rfl, rfl, rfl⟩

/-! ### The retry -/

/-- The attempt fails before the row is inserted: nothing has changed. -/
theorem attempt_unchanged (h : cfg.Valid env serverCfg) (hadmin : w.db.NoAdmin)
    (hfails : FailsBeforeInsert w.db ds) :
    ((bootstrapDefaultAdmin env cfg serverCfg).run backend ds w).2.db = w.db := by
  cases hf : (ds 0).fault with
  | true =>
    rw [bootstrapDefaultAdmin_of_valid h, run_sql_fault _ _ hf]
    rfl
  | false =>
    rw [bootstrap_create h hadmin hf]
    refine (createDefaultAdmin_fails ?_).2
    rcases hfails with h0 | hsalt | hcreate | ⟨u, hu, hid⟩
    · rw [hf] at h0
      cases h0
    · exact Or.inl hsalt
    · exact Or.inr (Or.inl hcreate)
    · exact Or.inr (Or.inr ⟨u, hu, Or.inl hid⟩)

/-- The attempt gets past the insert and fails: the address is taken, and there is no administrator. -/
theorem attempt_stuck (h : cfg.Valid env serverCfg) (hadmin : w.db.NoAdmin)
    (hfree : ¬ w.db.Taken cfg.defaultAdminEmail) (hpast : ¬ FailsBeforeInsert w.db ds)
    (herr : ((bootstrapDefaultAdmin env cfg serverCfg).run backend ds w).1 = .error e) :
    ((bootstrapDefaultAdmin env cfg serverCfg).run backend ds w).2.db.NoAdmin ∧
      ((bootstrapDefaultAdmin env cfg serverCfg).run backend ds w).2.db.Taken cfg.defaultAdminEmail := by
  unfold FailsBeforeInsert at hpast
  push Not at hpast
  obtain ⟨hcount, hsalt, hcreate, hid⟩ := hpast
  rw [← Bool.eq_false_iff] at hcount hsalt hcreate
  rw [bootstrap_create h hadmin hcount] at herr ⊢
  obtain ⟨salt, u, w', hrun, hrows, _, hmail, hno⟩ := createDefaultAdmin_inserts env (fun n => ds (n + 1))
    (w.wait (ds 0).wait) hsalt hcreate fun a ha => ⟨hid a ha, fun heq => hfree ⟨a, ha, heq⟩⟩
  rw [hrun] at herr ⊢
  have hadmin' : w'.db.NoAdmin := by
    intro a ha
    rw [hrows, List.mem_append, List.mem_singleton] at ha
    rcases ha with ha | rfl
    · exact hadmin a ha
    · rw [hno]
      simp
  refine ⟨setUpAdmin_error hadmin' herr, ?_⟩
  have hu : u ∈ w'.db.users.rows := by
    rw [hrows]
    exact List.mem_append_right _ List.mem_cons_self
  obtain ⟨u', hu', hlater⟩ := run_users _ _ w' u hu
  exact ⟨u', hu', hlater.email.trans hmail⟩

/-- Where the address is taken, and there is no administrator, every attempt fails. -/
theorem attempt_blocked (ds : ℕ → Draw) (h : cfg.Valid env serverCfg) (hadmin : w.db.NoAdmin)
    (htaken : w.db.Taken cfg.defaultAdminEmail) :
    ∃ e, ((bootstrapDefaultAdmin env cfg serverCfg).run backend ds w).1 = .error e := by
  cases hf : (ds 0).fault with
  | true =>
    rw [bootstrapDefaultAdmin_of_valid h, run_sql_fault _ _ hf]
    exact ⟨_, rfl⟩
  | false =>
    rw [bootstrap_create h hadmin hf]
    have htaken' : ∃ u ∈ (w.wait (ds 0).wait).db.users.rows,
        u.id = (ds 3).uuid ∨ u.email = cfg.defaultAdminEmail := by
      obtain ⟨u, hu, hmail⟩ := htaken
      exact ⟨u, hu, Or.inr hmail⟩
    exact (createDefaultAdmin_fails (Or.inr (Or.inr htaken'))).1

/-- What a successful bootstrap leaves: one administrator, with the address and the password of the
configuration, who has to change the password. -/
def OneAdmin (env : Env) (cfg : BootstrapConfig) (s : Store) : Prop :=
  ∃ u salt, (s.users.rows.filter fun u => u.isAdmin == some true) = [u] ∧
    u.email = cfg.defaultAdminEmail ∧ u.forcePasswordChange = true ∧
    u.passwordHash = some (hashPasswordArgon2id env cfg.defaultAdminPassword salt)

theorem OneAdmin.not_noAdmin (h : OneAdmin env cfg s) : ¬ s.NoAdmin := by
  obtain ⟨u, _, hone, _⟩ := h
  intro hno
  have hu : u ∈ s.users.rows.filter fun u => u.isAdmin == some true := by
    rw [hone]
    exact List.mem_cons_self
  rw [List.mem_filter, beq_iff_eq] at hu
  exact hno u hu.1 hu.2

/-- **Without a fault** the bootstrap succeeds, on a database that has no administrator and does not know
the address. -/
theorem bootstrap_succeeds (h : cfg.Valid env serverCfg) (hadmin : w.db.NoAdmin)
    (hfree : ¬ w.db.Taken cfg.defaultAdminEmail) (hf : Sound ds)
    (hfresh : ∀ u ∈ w.db.users.rows, u.id ≠ (ds 3).uuid) :
    ((bootstrapDefaultAdmin env cfg serverCfg).run backend ds w).1 = .ok () ∧
      OneAdmin env cfg ((bootstrapDefaultAdmin env cfg serverCfg).run backend ds w).2.db := by
  rw [bootstrap_create h hadmin (hf 0)]
  obtain ⟨salt, u, w', hrun, hrows, hid, hmail, _⟩ := createDefaultAdmin_inserts env (fun n => ds (n + 1))
    (w.wait (ds 0).wait) (hf 1) (hf 3) fun a ha => ⟨hfresh a ha, fun heq => hfree ⟨a, ha, heq⟩⟩
  rw [hrun]
  have hnew : ∀ a ∈ (w.wait (ds 0).wait).db.users.rows, a.id ≠ u.id := by
    intro a ha
    rw [hid]
    exact hfresh a ha
  obtain ⟨hok, u', hrows', hmail', hhash, hflag, hadmin'⟩ := setUpAdmin_ok cfg
    (hashPasswordArgon2id env cfg.defaultAdminPassword salt) (fun n => hf (n + 4)) hrows hnew
  refine ⟨hok, u', salt, ?_, hmail'.trans hmail, hflag, hhash⟩
  -- the rows that were there are no administrators
  rw [hrows', List.filter_append, List.filter_eq_nil_iff.mpr fun a ha => ?_]
  · simp [hadmin']
  · rw [beq_iff_eq]
    exact hadmin a ha

/-- **The bootstrap can be retried** after an attempt that has failed before the row was inserted, and only
then. With the retry, where nothing fails, the server has one administrator, and further runs change
nothing. -/
theorem admin_retry_iff (env : Env) (serverCfg : ServerConfig) (cfg : BootstrapConfig)
    (hcfg : cfg.Valid env serverCfg) (w : World) (hadmin : w.db.NoAdmin)
    (hfree : ¬ w.db.Taken cfg.defaultAdminEmail) (ds ds' : ℕ → Draw) (e : AuthError)
    (herr : ((bootstrapDefaultAdmin env cfg serverCfg).run backend ds w).1 = .error e) (hf : Sound ds')
    (hfresh : ∀ u ∈ w.db.users.rows, u.id ≠ (ds' 3).uuid) :
    (((bootstrapDefaultAdmin env cfg serverCfg).run backend ds'
          ((bootstrapDefaultAdmin env cfg serverCfg).run backend ds w).2).1 = .ok () ∧
      OneAdmin env cfg ((bootstrapDefaultAdmin env cfg serverCfg).run backend ds'
          ((bootstrapDefaultAdmin env cfg serverCfg).run backend ds w).2).2.db ∧
      ∀ ds'', ((bootstrapDefaultAdmin env cfg serverCfg).run backend ds''
          ((bootstrapDefaultAdmin env cfg serverCfg).run backend ds'
            ((bootstrapDefaultAdmin env cfg serverCfg).run backend ds w).2).2).2.db =
        ((bootstrapDefaultAdmin env cfg serverCfg).run backend ds'
          ((bootstrapDefaultAdmin env cfg serverCfg).run backend ds w).2).2.db) ↔
    FailsBeforeInsert w.db ds := by
  constructor
  · rintro ⟨hok, _, _⟩
    by_contra hpast
    obtain ⟨hadmin', htaken⟩ := attempt_stuck hcfg hadmin hfree hpast herr
    obtain ⟨e', herr'⟩ := attempt_blocked ds' hcfg hadmin' htaken
    rw [hok] at herr'
    cases herr'
  · intro hfails
    have hsame := attempt_unchanged hcfg hadmin hfails
    generalize ((bootstrapDefaultAdmin env cfg serverCfg).run backend ds w).2 = w' at hsame ⊢
    rw [← hsame] at hadmin hfree hfresh
    obtain ⟨hok, hone⟩ := bootstrap_succeeds hcfg hadmin hfree hf hfresh
    exact ⟨hok, hone, fun ds'' => (bootstrap_again hcfg hone.not_noAdmin).1⟩

end Attempt

section Examples

open Deployment

/-- The administrator of a deployment without users. -/
def rootConfig : BootstrapConfig where
  allowDefaultAdmin := true
  defaultAdminEmail := "ann@example.com"
  defaultAdminPassword := "Tr0ub4dor&3-horse"

/-- The draws of a run, with a fault at the request `n`. -/
def faultAt (n : ℕ) (uuid : UUID) (k : ℕ) : Draw := { draw 7 uuid with fault := k == n }

/-- The attempt fails at `CreateUser`. -/
theorem admin_retry_iff_root :
    OneAdmin env rootConfig ((bootstrapDefaultAdmin env rootConfig ⟨"production"⟩).run backend
      (fun _ => draw 7 21) ((bootstrapDefaultAdmin env rootConfig ⟨"production"⟩).run backend
        (faultAt 3 20) ⟨0, Store.empty⟩).2).2.db := by
  have hvalid : rootConfig.Valid env ⟨"production"⟩ := ⟨by decide, by decide, by decide, by decide +kernel⟩
  refine ((admin_retry_iff env ⟨"production"⟩ rootConfig hvalid ⟨0, Store.empty⟩ ?_ ?_ (faultAt 3 20)
    (fun _ => draw 7 21) (.ofDB "bootstrap: creating default admin user" .fault) ?_ (fun _ => rfl) ?_).mpr ?_).2.1
  · rintro u hu
    cases hu
  · rintro ⟨u, hu, _⟩
    cases hu
  · decide +kernel
  · rintro u hu
    cases hu
  · exact Or.inr (Or.inr (Or.inl rfl))

/-- **The flaw.** The attempt fails at `UpdatePasswordHash`. The retry, where nothing fails, can not create
the user again. -/
theorem attempt_blocks_retry :
    ((bootstrapDefaultAdmin env rootConfig ⟨"production"⟩).run backend (faultAt 4 20) ⟨0, Store.empty⟩).1 =
        .error (.ofDB "bootstrap: setting admin password hash" .fault) ∧
      ((bootstrapDefaultAdmin env rootConfig ⟨"production"⟩).run backend (fun _ => draw 7 21)
        ((bootstrapDefaultAdmin env rootConfig ⟨"production"⟩).run backend (faultAt 4 20)
          ⟨0, Store.empty⟩).2).1 =
        .error (.ofDB "bootstrap: creating default admin user" .uniqueViolation) := by
  decide +kernel

end Examples

end GoauthServer
