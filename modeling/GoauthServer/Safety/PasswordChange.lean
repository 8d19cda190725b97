import GoauthServer.Safety.PasswordRace

/-!
# A change of password that fails

`ChangePassword` writes the hash and the flag `force_password_change` in two statements. A call that fails before
the first of them has changed nothing. A call that fails at the second has replaced the password and reports an
error: the old password is gone, and the flag is still set (`failed_change_replaces_password`).

`failed_change_keeps_password_iff` says that this is the only way a failed call leaves a trace in the row.
-/

namespace GoauthServer

open Interact Relational

/-- The password and the flag of the user are as in the row `u`. -/
def Store.KeepsPassword (s : Store) (u : User) : Prop :=
  ∃ u' ∈ s.users.rows, u'.id = u.id ∧ u'.passwordHash = u.passwordHash ∧
    u'.forcePasswordChange = u.forcePasswordChange

/-- The statement that writes the flag. -/
def Request.writesFlag : Request → Bool
  | .sql (.setForcePasswordChange _ _) => true
  | _ => false

/-- The statement that writes the flag does not fail, if the call comes to it. -/
def FlagSound (q : Request) (d : Draw) (_ : World) : Prop := q.writesFlag = true → d.fault = false

instance (q : Request) (d : Draw) (w : World) : Decidable (FlagSound q d w) :=
  inferInstanceAs (Decidable (_ → _))

theorem flagSound_of {q : Request} (h : q.writesFlag = false) (d : Draw) (w : World) : FlagSound q d w := by
  intro h'
  rw [h] at h'
  cases h'

/-- The salt that a call draws with its second request. -/
def drawnSalt (ds : ℕ → Draw) : Base64.Bytes := (List.range 16).map (ds 1).bytes

section Runs

variable {env : Env} {w : World} {ds : ℕ → Draw} {u : User} {newPassword hash : String} {s : Store}

theorem Store.keepsPassword_refl (hu : u ∈ s.users.rows) : s.KeepsPassword u := ⟨u, hu, rfl, rfl, rfl⟩

theorem selectOne_user (hu : u ∈ s.users.rows) : selectOne s.users (fun a => a.id == u.id) = .ok u :=
  selectOne_eq_ok (Table.select_eq_some hu (by simp) fun a ha => by
    have hid : a.id = u.id := by simpa using ha
    simp [Keyed.clash, Keyed.key, hid])

/-- An update of a row that is there. -/
theorem updateUser_found {t : Table User} (hu : u ∈ t.rows) (now : Time) (f : User → User)
    (hf : ∀ u, Keyed.key (f u) = Keyed.key u) :
    (updateUser t now u.id f hf).1 = .ok { f u with updatedAt := now } := by
  have hsel : t.select (fun a => a.id == u.id) = some u :=
    Table.select_eq_some hu (by simp) fun a ha => by
      have hid : a.id = u.id := by simpa using ha
      simp [Keyed.clash, Keyed.key, hid]
  unfold updateUser updateOne Table.returning
  rw [hsel]
  rfl

theorem updatePasswordHash_exec (hu : u ∈ s.users.rows) (hash : Option String) (now : Time) (fresh : UUID) :
    ((Query.updatePasswordHash u.id hash).exec now fresh s).1 =
        .ok { u with passwordHash := hash, updatedAt := now } ∧
      ({ u with passwordHash := hash, updatedAt := now } : User) ∈
        ((Query.updatePasswordHash u.id hash).exec now fresh s).2.users.rows := by
  have hok := updateUser_found hu now (fun u => { u with passwordHash := hash }) fun _ => rfl
  exact ⟨hok, mem_updateUser _ hok⟩

theorem setForcePasswordChange_exec (hu : u ∈ s.users.rows) (flag : Bool) (now : Time) (fresh : UUID) :
    ((Query.setForcePasswordChange u.id flag).exec now fresh s).1 =
      .ok { u with forcePasswordChange := flag, updatedAt := now } :=
  updateUser_found hu now (fun u => { u with forcePasswordChange := flag }) fun _ => rfl

theorem Store.keepsPassword_iff {u' : User} (hu' : u' ∈ s.users.rows) (hid : u'.id = u.id)
    (hflag : u'.forcePasswordChange = u.forcePasswordChange) :
    s.KeepsPassword u ↔ u'.passwordHash = u.passwordHash := by
  constructor
  · rintro ⟨v, hv, hvid, hhash, _⟩
    rwa [← Store.user_eq hv hu' (hvid.trans hid.symm)]
  · exact fun hhash => ⟨u', hu', hid, hhash, hflag⟩

/-- What follows the two writes: it cannot fail, and it does not write the flag. -/
theorem afterPassword_run {α : Type} (env : Env) (userID : UUID) (r : Except AuthError α) (ds : ℕ → Draw) (w : World) :
    ((Call.sql (.revokeRefreshTokensByUser userID (some "password_change")) fun _ =>
        env.logEvent { eventType := .userPasswordChanged, userID := some userID } <|
        env.logEvent { eventType := .forcePasswordChangeSatisfied, userID := some userID } <|
        .ret r).run backend ds w).1 = r ∧
      (Call.sql (.revokeRefreshTokensByUser userID (some "password_change")) fun _ =>
        env.logEvent { eventType := .userPasswordChanged, userID := some userID } <|
        env.logEvent { eventType := .forcePasswordChangeSatisfied, userID := some userID } <|
        .ret r).Along backend FlagSound ds w := by
  have haudit : ∀ p d w, FlagSound (.sql (.createAuditLogEntry p)) d w := fun _ => flagSound_of rfl
  rw [Prog.run_call, Prog.along_call]
  obtain ⟨ds₁, w₁, hrun₁, _, _, halong₁⟩ := logEvent_run env
    { eventType := .userPasswordChanged, userID := some userID }
    (env.logEvent { eventType := .forcePasswordChangeSatisfied, userID := some userID } (.ret r))
    (fun n => ds (n + 1))
    (respond (.sql (.revokeRefreshTokensByUser userID (some "password_change"))) (ds 0) w).2
  obtain ⟨ds₂, w₂, hrun₂, _, _, halong₂⟩ := logEvent_run env
    { eventType := .forcePasswordChangeSatisfied, userID := some userID }
    (.ret r : Call (Except AuthError α)) ds₁ w₁
  rw [hrun₁, hrun₂, halong₁ _ haudit, halong₂ _ haudit]
  exact ⟨rfl, flagSound_of rfl _ _, trivial⟩

/-- **The writes.** -/
theorem storeNewPassword_keeps_iff (env : Env) (hu : u ∈ w.db.users.rows) (hash : String) (ds : ℕ → Draw) :
    ((∃ e, ((storeNewPassword env u.id u hash).run backend ds w).1 = .error e) →
        ((storeNewPassword env u.id u hash).run backend ds w).2.db.KeepsPassword u) ↔
      (storeNewPassword env u.id u hash).Along backend FlagSound ds w ∨ u.passwordHash = some hash := by
  unfold storeNewPassword
  cases hf : (ds 0).fault with
  | true =>
    refine iff_of_true (fun _ => ?_) (Or.inl ⟨flagSound_of rfl _ _, ?_⟩)
    · rw [run_sql_fault _ _ hf]
      exact Store.keepsPassword_refl hu
    · rw [show backend.respond _ (ds 0) w = _ from respond_sql_fault _ hf]
      trivial
  | false =>
    -- the row with the new hash
    obtain ⟨hok, hu₁⟩ := updatePasswordHash_exec hu (some hash) (w.wait (ds 0).wait).now (ds 0).uuid
    rw [run_sql _ _ hf, along_sql _ _ hf, and_iff_right (flagSound_of rfl _ _), hok]
    generalize ((Query.updatePasswordHash u.id (some hash)).exec (w.wait (ds 0).wait).now (ds 0).uuid w.db).2 = s₁
      at hu₁
    dsimp only
    cases hf' : (ds 1).fault with
    | true =>
      rw [run_sql_fault _ _ hf']
      have hnot : ¬ FlagSound (.sql (.setForcePasswordChange u.id false)) (ds 1)
          ⟨(w.wait (ds 0).wait).now, s₁⟩ := by
        intro h
        have hsound := h rfl
        rw [hf'] at hsound
        cases hsound
      refine (forall_prop_of_true ⟨_, rfl⟩).trans ?_
      refine (Store.keepsPassword_iff (u := u) (s := s₁) hu₁ rfl rfl).trans ?_
      exact ⟨fun h => Or.inr h.symm, fun h => (h.resolve_left fun h => hnot h.1).symm⟩
    | false =>
      -- the row is found again, and nothing that follows can fail
      have hok' := setForcePasswordChange_exec hu₁ false
        ((⟨(w.wait (ds 0).wait).now, s₁⟩ : World).wait (ds 1).wait).now (ds 1).uuid
      rw [run_sql _ _ hf', along_sql _ _ hf', show _ = _ from hok']
      obtain ⟨hrun, halong⟩ := afterPassword_run env u.id
        (.ok { userID := env.lib.uuidString u.id, email := u.email } : Except AuthError ChangePasswordResult)
        (fun n => ds (n + 1 + 1)) ⟨((⟨(w.wait (ds 0).wait).now, s₁⟩ : World).wait (ds 1).wait).now,
          ((Query.setForcePasswordChange u.id false).exec
            ((⟨(w.wait (ds 0).wait).now, s₁⟩ : World).wait (ds 1).wait).now (ds 1).uuid s₁).2⟩
      refine iff_of_true ?_ (Or.inl ⟨fun _ => hf', halong⟩)
      rintro ⟨e, he⟩
      cases hrun.symm.trans he

/-- **A failed change of password.** Where `ChangePassword` reports an error, the password and the flag are as
before, exactly if the statement that writes the flag does not fail, or the new hash is the old one. -/
theorem failed_change_keeps_password_iff (env : Env) (newPassword : String) (ds : ℕ → Draw)
    (hu : u ∈ w.db.users.rows) :
    ((∃ e, ((changePassword env u.id newPassword).run backend ds w).1 = .error e) →
        ((changePassword env u.id newPassword).run backend ds w).2.db.KeepsPassword u) ↔
      (changePassword env u.id newPassword).Along backend FlagSound ds w ∨
        u.passwordHash = some (hashArgon2id env newPassword (drawnSalt ds)) := by
  have hkeeps := Store.keepsPassword_refl hu
  unfold changePassword
  cases hf : (ds 0).fault with
  | true =>
    refine iff_of_true (fun _ => ?_) (Or.inl ⟨flagSound_of rfl _ _, ?_⟩)
    · rw [run_sql_fault _ _ hf]
      exact hkeeps
    · rw [show backend.respond _ (ds 0) w = _ from respond_sql_fault _ hf]
      trivial
  | false =>
    rw [run_sql _ _ hf, along_sql _ _ hf, and_iff_right (flagSound_of rfl _ _)]
    simp only [Query.exec, selectOne_user hu]
    -- the checks: a call that they stop has only read
    split
    · exact iff_of_true (fun _ => hkeeps) (Or.inl trivial)
    split
    · exact iff_of_true (fun _ => hkeeps) (Or.inl trivial)
    rw [Prog.run_call, Prog.along_call, and_iff_right (flagSound_of rfl _ _)]
    have hsalt : (respond (.randBytes 16) (ds 1) ⟨(w.wait (ds 0).wait).now, w.db⟩).1 =
        if (ds 1).fault then none else some (drawnSalt ds) := rfl
    rw [show (backend.respond (.randBytes 16) (ds (0 + 1)) _).1 = _ from hsalt]
    cases hf' : (ds 1).fault with
    | true => exact iff_of_true (fun _ => hkeeps) (Or.inl trivial)
    | false =>
      exact storeNewPassword_keeps_iff
        (w := (⟨(w.wait (ds 0).wait).now, w.db⟩ : World).wait (ds 1).wait) env hu _ _

end Runs

section Examples

open Deployment

/-- `ann`, who has to change the password. -/
def forcedAnn : User := { ann with forcePasswordChange := true }

/-- A change that fails at its first write. -/
theorem failed_change_keeps_password_iff_ann :
    ((changePassword env 2 "Tr0ub4dor&3-horse").run backend (failAt 2) ⟨0, forcedStore⟩).1 =
        .error (.ofDB "updating password hash" .fault) ∧
      ((changePassword env 2 "Tr0ub4dor&3-horse").run backend (failAt 2)
        ⟨0, forcedStore⟩).2.db.KeepsPassword forcedAnn := by
  have herror : ((changePassword env 2 "Tr0ub4dor&3-horse").run backend (failAt 2) ⟨0, forcedStore⟩).1 =
      .error (.ofDB "updating password hash" .fault) := by
    decide +kernel
  have hmem : forcedAnn ∈ (⟨0, forcedStore⟩ : World).db.users.rows := List.mem_singleton.mpr rfl
  exact ⟨herror, (failed_change_keeps_password_iff env "Tr0ub4dor&3-horse" (failAt 2) hmem).mpr
    (Or.inl (by decide +kernel)) ⟨_, herror⟩⟩

/-- **A failed change replaces the password**: the call fails at its second write, and then the old password is
refused. -/
theorem failed_change_replaces_password :
    ((changePassword env 2 "Tr0ub4dor&3-horse").run backend (failAt 3) ⟨0, forcedStore⟩).1 =
        .error (.ofDB "clearing force_password_change" .fault) ∧
      (((changePassword env 2 "Tr0ub4dor&3-horse").run backend (failAt 3)
        ⟨0, forcedStore⟩).2.db.users.rows.map fun u => (u.passwordHash, u.forcePasswordChange)) ≠
          [(forcedAnn.passwordHash, true)] ∧
      ((verifyCredentials env "ann@example.com" "correct horse" "").run backend (fun _ => draw 9 21)
        ⟨0, forcedStore⟩).1 = .success forcedAnn ∧
      ((verifyCredentials env "ann@example.com" "correct horse" "").run backend (fun _ => draw 9 21)
        ((changePassword env 2 "Tr0ub4dor&3-horse").run backend (failAt 3) ⟨0, forcedStore⟩).2).1 =
          .failed .invalidCredentials := by
  decide +kernel

end Examples

end GoauthServer
