import GoauthServer.Safety.Lockout
import GoauthServer.Safety.LockKept
import GoauthServer.Service.Revoke
import GoauthServer.Spec.Success

/-!
# The allowance after an unlock

An administrator unlocks an account, and the next `MaxAttempts - 1` failed calls of
`VerifyCredentials` should not lock it again. But `UnlockUserAccount` clears the end of the lock only:
the counter and the time of the last failure stay. So the failures from before the unlock still count,
and the first wrong password after it may lock the account again (`unlock_leaves_counter`).

`unlock_allowance_iff` says for which rows the allowance is given in every run that follows. The calls
of a run are for any addresses, with any passwords, on one clock; time passes between and during the
calls, and any request may fail. The argument has two halves:

* a call on an account without a lock takes one of five steps (`OpenStep`), so the counter is at most the
  old counter and the failed calls since the unlock, or at most the latter once it was cleared
  (`Standing`);
* where the condition fails, wrong passwords at the instant of the unlock lock the account.
-/

namespace GoauthServer

open Interact Relational GoTime

/-! ### Runs on one clock -/

/-- One call of `VerifyCredentials`. -/
structure Attempt where
  email : String
  password : String
  sourceIP : String
  draws : ℕ → Draw

/-- The answer of the call, and the world after it. -/
def Attempt.on (a : Attempt) (env : Env) (w : World) : Verified × World :=
  (verifyCredentials env a.email a.password a.sourceIP).run backend a.draws w

/-- The call is for `email`, and it fails. -/
def Attempt.fails (a : Attempt) (env : Env) (email : String) (w : World) : Bool :=
  a.email == email && decide ((a.on env w).1.reaction ≠ .accepted)

/-- The world after a run of calls. -/
def attemptAll (env : Env) (w : World) (as : List Attempt) : World :=
  as.foldl (fun w a => (a.on env w).2) w

/-- The number of failed calls for `email` in a run. -/
def failedCalls (env : Env) (email : String) : World → List Attempt → ℕ
  | _, [] => 0
  | w, a :: as =>
    (if a.fails env email w then 1 else 0) + failedCalls env email (a.on env w).2 as

/-- As long as fewer than `MaxAttempts` calls have failed, the account has no lock. -/
def FreshAllowance (env : Env) (email : String) (w : World) : Prop :=
  ∀ as : List Attempt, (failedCalls env email w as : ℤ) < env.cfg.lockout.maxAttempts.toInt →
    (attemptAll env w as).db.lockedUntil? email = none

section Runs

variable {env : Env} {email : String} {w : World}

theorem attemptAll_append (as bs : List Attempt) :
    attemptAll env w (as ++ bs) = attemptAll env (attemptAll env w as) bs := List.foldl_append

theorem failedCalls_append (as bs : List Attempt) : failedCalls env email w (as ++ bs) =
      failedCalls env email w as + failedCalls env email (attemptAll env w as) bs := by
  induction as generalizing w with
  | nil => exact (Nat.zero_add _).symm
  | cons a as ih =>
    show _ + failedCalls env email (a.on env w).2 (as ++ bs) = _
    rw [ih, ← Nat.add_assoc]
    rfl

theorem failedCalls_snoc (as : List Attempt) (a : Attempt) :
    failedCalls env email w (as ++ [a]) = failedCalls env email w as +
      if a.fails env email (attemptAll env w as) then 1 else 0 := by
  rw [failedCalls_append]
  rfl

theorem failedCalls_le_length (env : Env) (email : String) (w : World) (as : List Attempt) :
    failedCalls env email w as ≤ as.length := by
  induction as generalizing w with
  | nil => exact Nat.le_refl 0
  | cons a as ih =>
    have hone : (if a.fails env email w then 1 else 0) ≤ 1 := by split <;> omega
    have hrest : failedCalls env email (a.on env w).2 as ≤ as.length := ih _
    show _ + _ ≤ as.length + 1
    omega

theorem FreshAllowance.replicate (h : FreshAllowance env email w) (j : ℕ) (a : Attempt)
    (hj : (j : ℤ) < env.cfg.lockout.maxAttempts.toInt) :
    (attemptAll env w (List.replicate j a)).db.lockedUntil? email = none := by
  have hle := failedCalls_le_length env email w (List.replicate j a)
  rw [List.length_replicate] at hle
  exact h _ (by omega)

end Runs

/-! ### One call on an account without a lock -/

/-- What a call that lasts from `start` to `stop` may do to an account without a lock. -/
inductive OpenStep (env : Env) (check : PasswordCheck) (l : Lockout) (start stop : Time) :
    Reaction → Lockout → Prop
  | kept : OpenStep env check l start stop .rejected l
  | accepted : OpenStep env check l start stop .accepted .clear
  | cleared : OpenStep env check l start stop .rejected .clear
  | counted (t : Time) (hcheck : check = .wrong) (hstop : t ≤ stop) :
      OpenStep env check l start stop .rejected (l.count t)
  | locked (t now e : Time) (hcheck : check = .wrong) (hstart : start ≤ now)
      (hattempts : l.attempts + 1 ≤ maxInt32)
      (hthreshold : env.cfg.lockout.maxAttempts.toInt ≤ l.attempts + 1)
      (hrecent : l.recent env now = true) :
      OpenStep env check l start stop (.locked e) { l.count t with lockedUntil := some e }

theorem OpenStep.earlier {env : Env} {check : PasswordCheck} {l l' : Lockout} {r : Reaction}
    {start start' stop : Time} (h : OpenStep env check l start' stop r l') (hle : start ≤ start') :
    OpenStep env check l start stop r l' := by
  cases h with
  | kept => exact .kept
  | accepted => exact .accepted
  | cleared => exact .cleared
  | counted t hcheck hstop => exact .counted t hcheck hstop
  | locked t now e hcheck hstart hattempts hthreshold hrecent =>
    exact .locked t now e hcheck (hle.trans hstart) hattempts hthreshold hrecent

/-- The call takes a step on the account and leaves its password alone. -/
def TakesStep (env : Env) (check : PasswordCheck) (email : String) (u : User) (start : Time)
    (r : Verified × World) : Prop :=
  ∃ u', r.2.db.userByEmail email = some u' ∧ u'.passwordHash = u.passwordHash ∧
    OpenStep env check u.lockout start r.2.now r.1.reaction u'.lockout

section OneCall

variable {env : Env} {email password sourceIP : String} {u a : User} {w : World}

/-- The account is locked, or the statement that locks it fails. -/
theorem lockAccount_open (ha : w.db.userByEmail email = some a) (hid : a.id = u.id) :
    (lockAccount env u email sourceIP).Ensures backend anyRequest (fun v w' =>
      (v.reaction = .rejected ∧ w'.db.userByEmail email = some a) ∨ ∃ e now, v = .locked e ∧
        w'.db.userByEmail email = some (a.withLockout { a.lockout with lockedUntil := some e } now)) w := by
  refine ensures_now fun n => ensures_exec (fun _ => .ret (Or.inl ⟨rfl, ha⟩)) fun d => ?_
  have hacc : Account email a w.db ((w.wait n).wait d.wait) := ⟨ha, fun _ _ => rfl⟩
  obtain ⟨db, hexec, hacc'⟩ := exec_lockUserAccount d.uuid hacc (add (w.wait n).now env.lockoutDuration)
  rw [hid] at hexec
  refine ⟨_, db, hexec, ensures_logEvent_ret fun w' ⟨log, hlog⟩ => Or.inr ⟨_, ((w.wait n).wait d.wait).now, rfl, ?_⟩⟩
  rw [hlog]
  exact hacc'.self

/-- **A wrong password.** -/
theorem failedAttempt_open (hu : w.db.userByEmail email = some u) :
    (failedAttempt env u email sourceIP).Ensures backend anyRequest
      (fun v w' => TakesStep env .wrong email u w.now (v, w')) w := by
  refine ensures_exec (fun _ => .ret ⟨u, hu, rfl, .kept⟩) fun d => ?_
  have hacc : Account email u w.db (w.wait d.wait) := ⟨hu, fun _ _ => rfl⟩
  by_cases hmax : maxInt32 ≤ u.failedLoginAttempts
  · exact ⟨_, _, exec_increment_overflow d.uuid hacc hmax, .ret ⟨u, hu, rfl, .kept⟩⟩
  obtain ⟨db, hexec, hacc'⟩ := exec_increment d.uuid hacc hmax
  refine ⟨_, db, hexec, ensures_now fun n => ?_⟩
  have hle : (w.wait d.wait).now ≤ ((w.wait d.wait).wait n).now := World.le_wait _ n
  split
  · -- the row says that the account is to be locked
    next hlock =>
    rw [withinWindow_eq, Bool.and_eq_true] at hlock
    refine ensures_later (lockAccount_open hacc'.self rfl) ?_
    rintro v w' hend (⟨hv, hrow⟩ | ⟨e, now, rfl, hrow⟩)
    · exact ⟨_, hrow, rfl, hv ▸ .counted _ rfl (hle.trans hend)⟩
    · have hbelow : u.lockout.attempts + 1 ≤ maxInt32 := not_le.mp hmax
      exact ⟨_, hrow, rfl, .locked _ _ e rfl ((w.le_wait _).trans hle) hbelow (of_decide_eq_true hlock.1) hlock.2⟩
  · refine ensures_later (Q := fun v w' => v = .failed .invalidCredentials ∧
      w'.db.userByEmail email = some (u.withLockout (u.lockout.count (w.wait d.wait).now) (w.wait d.wait).now)) ?_ ?_
    · refine ensures_logEvent_ret fun w' ⟨log, hlog⟩ => ⟨rfl, ?_⟩
      rw [hlog]
      exact hacc'.self
    · rintro v w' hend ⟨rfl, hrow⟩
      exact ⟨_, hrow, rfl, .counted _ rfl (hle.trans hend)⟩

/-- **A right password.** -/
theorem successfulAttempt_open {check : PasswordCheck} {start : Time} (hu : w.db.userByEmail email = some u) :
    (successfulAttempt u).Ensures backend anyRequest
      (fun v w' => TakesStep env check email u start (v, w')) w := by
  refine ensures_exec (fun _ => .ret ⟨u, hu, rfl, .kept⟩) fun d => ?_
  have hacc : Account email u w.db (w.wait d.wait) := ⟨hu, fun _ _ => rfl⟩
  obtain ⟨db, hreset, hacc'⟩ := exec_resetLoginAttempts d.uuid hacc
  refine ⟨_, db, hreset, ensures_now fun n => ensures_exec (fun _ => .ret ⟨_, hacc'.self, rfl, .cleared⟩) fun d' => ?_⟩
  have hlater : Account email _ w.db ((World.wait ⟨(w.wait d.wait).now, db⟩ n).wait d'.wait) :=
    ⟨hacc'.self, hacc'.others⟩
  obtain ⟨db', hlogin, hacc''⟩ := exec_updateLastLogin d'.uuid hlater _
  exact ⟨_, db', hlogin, .ret ⟨_, hacc''.self, rfl, .accepted⟩⟩

/-- **One call** on an account without a lock. -/
theorem verifyCredentials_open (hu : w.db.userByEmail email = some u) (hopen : u.lockedUntil = none) :
    (verifyCredentials env email password sourceIP).Ensures backend anyRequest
      (fun v w' => TakesStep env (env.passwordCheck password u.passwordHash) email u w.now (v, w')) w := by
  refine ensures_exec (fun _ => .ret ⟨u, hu, rfl, .kept⟩) fun d => ?_
  refine ⟨_, _, exec_getUserByEmailForAuth (w := w.wait d.wait) hu d.uuid, ?_⟩
  simp only [hopen]
  unfold checkPassword Env.passwordCheck
  cases hhash : u.passwordHash with
  | none => exact .ret ⟨u, hu, rfl, .kept⟩
  | some hash =>
    simp only
    cases hv : verifyArgon2id env password hash with
    | error e => cases e <;> exact .ret ⟨u, hu, rfl, .kept⟩
    | ok matched =>
      cases matched with
      | true => exact successfulAttempt_open hu
      | false =>
        -- the clock may have moved while the row was read, and never back
        refine (failedAttempt_open (w := w.wait d.wait) hu).mono ?_
        rintro v w' ⟨u', hrow, hhash', hstep⟩
        exact ⟨u', hrow, hhash', hstep.earlier (w.le_wait d.wait)⟩

theorem Attempt.takesStep (a : Attempt) (env : Env) (hu : w.db.userByEmail a.email = some u)
    (hopen : u.lockedUntil = none) :
    TakesStep env (env.passwordCheck a.password u.passwordHash) a.email u w.now (a.on env w) :=
  (verifyCredentials_open hu hopen).run a.draws

end OneCall

/-! ### Calls for other addresses -/

section Elsewhere

variable {env : Env} {email email' : String} {u : User} {w : World}

/-- An update of another row leaves the account alone. -/
theorem updateUser_elsewhere {s : Store} (hu : s.userByEmail email = some u) (now : Time) {id : UUID}
    (hid : u.id ≠ id) (f : User → User) (hf : ∀ u, Keyed.key (f u) = Keyed.key u) :
    (s.withUsers (updateUser s.users now id f hf)).2.userByEmail email = some u := by
  obtain ⟨hmem, hmail⟩ := Store.userByEmail_mem hu
  refine Store.userByEmail_of_mem ?_ hmail
  have hrow := Table.mem_update (p := fun u : User => u.id == id)
    (f := fun u => { f u with updatedAt := now }) hmem
  rwa [if_neg (by simpa using hid)] at hrow

/-- One request of a call for `email'` leaves the account of `email` alone. -/
theorem attempt_elsewhere {log : Log effects} {q : Request} (d : Draw) (hu : w.db.userByEmail email = some u)
    (hq : attemptRequest env email' q log) (hreads : ∀ r, authUser log = some r → u.id ≠ r.id) :
    (respond q d w).2.db.userByEmail email = some u := by
  cases q with
  | sql q =>
    cases hf : d.fault with
    | true =>
      rw [respond_sql_fault q hf]
      exact hu
    | false =>
      rw [respond_sql q hf]
      cases q with
      | getUserByEmailForAuth e => exact hu
      | createAuditLogEntry e => exact hu
      | resetLoginAttempts id =>
        obtain ⟨r, hr, rfl, _⟩ := hq
        exact updateUser_elsewhere hu _ (hreads r hr) _ _
      | updateLastLogin id t =>
        obtain ⟨r, hr, rfl, _⟩ := hq
        exact updateUser_elsewhere hu _ (hreads r hr) _ _
      | incrementFailedLoginAttempts id =>
        obtain ⟨r, hr, rfl, _⟩ := hq
        simp only [Query.exec]
        split
        · exact hu
        · exact updateUser_elsewhere hu _ (hreads r hr) _ _
      | lockUserAccount id t =>
        obtain ⟨r, _, _, hr, rfl, _⟩ := hq
        exact updateUser_elsewhere hu _ (hreads r hr) _ _
      | _ => exact hq.elim
  | now => exact hu
  | _ => exact hq.elim

/-- **A call for another address.** The row it reads is another row, and it updates that row only. -/
theorem verifyCredentials_elsewhere (hu : w.db.userByEmail email = some u) (hne : email' ≠ email)
    (password sourceIP : String) (ds : ℕ → Draw) :
    ((verifyCredentials env email' password sourceIP).run backend ds w).2.db.userByEmail email = some u := by
  have hobeys := verifyCredentials_attempt env email' password sourceIP
  let J : Log effects → World → Prop := fun log w =>
    w.db.userByEmail email = some u ∧ ∀ r, authUser log = some r → u.id ≠ r.id
  have hstep : ∀ (q : Request) (log : Log effects) (d : Draw) (w : World),
      attemptRequest env email' q log → True → J log w →
      J (⟨q, (respond q d w).1⟩ :: log) (respond q d w).2 := by
    rintro q log d w hq - ⟨hself, hreads⟩
    refine ⟨attempt_elsewhere d hself hq hreads, fun r hr hid => ?_⟩
    rcases authUser_respond hr with hr | ⟨e, rfl, hmem, hmail⟩
    · exact hreads r hr hid
    · -- the row just read has the other address
      obtain rfl := Store.user_eq (Store.userByEmail_mem hself).1 hmem hid
      obtain ⟨rfl, _⟩ := hq
      exact hne (hmail.symm.trans (Store.userByEmail_mem hself).2)
  obtain ⟨_, _, hend⟩ := hobeys.run (B := backend) (C := fun _ _ _ => True) (J := J) hstep
    (Prog.along_of_forall (fun _ _ _ => trivial) _ ds w) ⟨hu, fun r hr => by cases hr⟩
  exact hend.1

end Elsewhere

/-! ### Runs after the unlock -/

/-- **The row after an unlock**, while `failed` calls have failed: its counter stands for failures since
the unlock only, or it is the row as the unlock left it, or some of the failed calls are counted on top
of the old ones. -/
inductive Standing (l₀ : Lockout) (failed : ℕ) (now : Time) : Lockout → Prop
  | fresh (l : Lockout) (hopen : l.lockedUntil = none) (hattempts : l.attempts ≤ failed) :
      Standing l₀ failed now l
  | untouched : Standing l₀ failed now { l₀ with lockedUntil := none }
  | counted (c : ℕ) (t : Time) (hpos : 1 ≤ c) (hle : c ≤ failed) (hnow : t ≤ now) :
      Standing l₀ failed now ⟨l₀.attempts + c, some t, none⟩

/-- The failures of `l` let the account be locked again at once, or after one more failure. -/
def Lockout.Spent (env : Env) (l : Lockout) (now : Time) : Prop :=
  (2 ≤ env.cfg.lockout.maxAttempts.toInt ∧ env.cfg.lockout.maxAttempts.toInt ≤ l.attempts + 1 ∧
      l.attempts + 1 ≤ maxInt32 ∧ l.recent env now = true) ∨
    (3 ≤ env.cfg.lockout.maxAttempts.toInt ∧ env.cfg.lockout.maxAttempts.toInt ≤ maxInt32 ∧
      1 ≤ l.attempts ∧ l.attempts + 2 ≤ maxInt32 ∧ 0 ≤ env.lockoutWindow)

namespace Standing

variable {env : Env} {l₀ l : Lockout} {failed : ℕ} {now : Time}

theorem lockedUntil (h : Standing l₀ failed now l) : l.lockedUntil = none := by
  cases h with
  | fresh l hopen _ => exact hopen
  | untouched => rfl
  | counted c t _ _ _ => rfl

theorem later {failed' : ℕ} {now' : Time} (h : Standing l₀ failed now l) (hle : failed ≤ failed')
    (hnow : now ≤ now') : Standing l₀ failed' now' l := by
  cases h with
  | fresh l hopen hattempts => exact .fresh l hopen (hattempts.trans (by exact_mod_cast hle))
  | untouched => exact .untouched
  | counted c t hpos hc ht => exact .counted c t hpos (hc.trans hle) (ht.trans hnow)

/-- One more failure is counted. -/
theorem count {t now' : Time} (h : Standing l₀ failed now l) (ht : t ≤ now') :
    Standing l₀ (failed + 1) now' (l.count t) := by
  cases h with
  | fresh l hopen hattempts =>
    refine .fresh _ hopen ?_
    show l.attempts + 1 ≤ ((failed + 1 : ℕ) : ℤ)
    push_cast
    omega
  | untouched => exact .counted 1 t (Nat.le_refl 1) (by omega) ht
  | counted c t' hpos hc _ =>
    have hcount : (⟨l₀.attempts + c, some t', none⟩ : Lockout).count t =
        ⟨l₀.attempts + (c + 1 : ℕ), some t, none⟩ := by
      unfold Lockout.count
      push_cast
      rw [Int.add_assoc]
    rw [hcount]
    exact .counted (c + 1) t (by omega) (by omega) ht

/-- **A lock too early**: the failures from before the unlock were counted. -/
theorem spent {start now' : Time} (h : Standing l₀ failed now l) (hstart : start ≤ now') (hlast : now ≤ now')
    (hfailed : (failed : ℤ) + 1 < env.cfg.lockout.maxAttempts.toInt) (hattempts : l.attempts + 1 ≤ maxInt32)
    (hthreshold : env.cfg.lockout.maxAttempts.toInt ≤ l.attempts + 1) (hrecent : l.recent env now' = true) :
    l₀.Spent env start := by
  cases h with
  | fresh l _ hle => omega
  | untouched =>
    -- the old failures suffice, and the last of them was recent already when the account was unlocked
    obtain ⟨t, ht, hwithin⟩ := Lockout.recent_iff.mp hrecent
    have hold : l₀.recent env start = true :=
      Lockout.recent_iff.mpr ⟨t, ht, sub_le_of_earlier hstart hwithin⟩
    refine Or.inl ⟨?_, hthreshold, hattempts, hold⟩
    omega
  | counted c t hpos hc ht =>
    obtain ⟨t', ht', hwithin⟩ := Lockout.recent_iff.mp hrecent
    obtain rfl := Option.some.inj ht'
    have hwindow : 0 ≤ env.lockoutWindow := by
      have hle : t ≤ now' := ht.trans hlast
      rw [Int64.le_iff_toInt_le]
      rcases (sub_le_iff hle _).mp hwithin with hdiff | hmax
      · exact (Int.sub_nonneg_of_le hle).trans hdiff
      · rw [hmax]
        decide
    have hcount : (1 : ℤ) ≤ c := by exact_mod_cast hpos
    have hle : (c : ℤ) ≤ failed := by exact_mod_cast hc
    have hattempts' : l₀.attempts + c + 1 ≤ maxInt32 := hattempts
    have hthreshold' : env.cfg.lockout.maxAttempts.toInt ≤ l₀.attempts + c + 1 := hthreshold
    refine Or.inr ⟨?_, ?_, ?_, ?_, hwindow⟩ <;> omega

end Standing

section Sufficient

variable {env : Env} {email : String} {u : User} {w w₀ : World}

/-- The account `a` stands as it may after `failed` failed calls, with the password of `u`. -/
def Stands (email : String) (u : User) (start : Time) (failed : ℕ) (w : World) : Prop :=
  start ≤ w.now ∧ ∃ a, w.db.userByEmail email = some a ∧ a.passwordHash = u.passwordHash ∧
    Standing u.lockout failed w.now a.lockout

/-- **One call of the run.** Either the account stands as before, with one more failed call if this one
failed, or the call was with a wrong password and the row was spent when it was unlocked. -/
theorem Stands.step {start : Time} {failed : ℕ} (h : Stands email u start failed w) (a : Attempt)
    (hlen : ((failed + if a.fails env email w then 1 else 0 : ℕ) : ℤ) < env.cfg.lockout.maxAttempts.toInt) :
    Stands email u start (failed + if a.fails env email w then 1 else 0) (a.on env w).2 ∨
      (∃ password, env.passwordCheck password u.passwordHash = .wrong) ∧ u.lockout.Spent env start := by
  obtain ⟨hstart, b, hb, hhash, hstanding⟩ := h
  have hclock : w.now ≤ (a.on env w).2.now := le_now_prog _ _ w
  by_cases hmail : a.email = email
  · subst hmail
    obtain ⟨b', hb', hhash', hstep⟩ := a.takesStep env hb hstanding.lockedUntil
    rw [hhash] at hstep
    have hfails : a.fails env a.email w = decide ((a.on env w).1.reaction ≠ .accepted) := by
      unfold Attempt.fails
      rw [beq_self_eq_true, Bool.true_and]
    have hstands : ∀ {n : ℕ}, Standing u.lockout n (a.on env w).2.now b'.lockout →
        Stands a.email u start n (a.on env w).2 :=
      fun h => ⟨hstart.trans hclock, b', hb', hhash'.trans hhash, h⟩
    rw [hfails] at hlen ⊢
    generalize hr : (a.on env w).1.reaction = r at hstep hlen ⊢
    generalize hl : b'.lockout = l' at hstep hstands
    cases hstep with
    | kept => exact Or.inl (hstands (hstanding.later (Nat.le_add_right _ _) hclock))
    | accepted => exact Or.inl (hstands (.fresh _ rfl (Int.natCast_nonneg _)))
    | cleared => exact Or.inl (hstands (.fresh _ rfl (Int.natCast_nonneg _)))
    | counted t _ hstop => exact Or.inl (hstands (hstanding.count hstop))
    | locked t now e hcheck hnow hattempts hthreshold hrecent =>
      have hlen' : ((failed + 1 : ℕ) : ℤ) < env.cfg.lockout.maxAttempts.toInt := hlen
      push_cast at hlen'
      exact Or.inr ⟨⟨a.password, hcheck⟩,
        hstanding.spent (hstart.trans hnow) hnow hlen' hattempts hthreshold hrecent⟩
  · left
    refine ⟨hstart.trans hclock, b, verifyCredentials_elsewhere hb hmail _ _ _, hhash, ?_⟩
    exact hstanding.later (Nat.le_add_right _ _) hclock

/-- **A run of calls.** -/
theorem Stands.run {start : Time} (h : Stands email u start 0 w) (as : List Attempt)
    (hlen : (failedCalls env email w as : ℤ) < env.cfg.lockout.maxAttempts.toInt) :
    Stands email u start (failedCalls env email w as) (attemptAll env w as) ∨
      (∃ password, env.passwordCheck password u.passwordHash = .wrong) ∧ u.lockout.Spent env start := by
  induction as using List.reverseRecOn with
  | nil => exact Or.inl h
  | append_singleton as a ih =>
    rw [failedCalls_snoc] at hlen ⊢
    rw [attemptAll_append]
    rcases ih (by push_cast at hlen ⊢; omega) with hstands | hspent
    · exact hstands.step a hlen
    · exact Or.inr hspent

end Sufficient

/-! ### Wrong passwords at the instant of the unlock -/

/-- A call at one instant, without faults. -/
def Attempt.instant (email password : String) : Attempt where
  email := email
  password := password
  sourceIP := ""
  draws := fun _ =>
    { wait := 0, fault := false, uuid := 0, bytes := fun _ => 0
      providerToken := none, userInfo := .failed }

section Necessary

variable {env : Env} {email password : String} {u : User} {w : World}

theorem now_run_instant {α : Type} (p : Call α) {ds : ℕ → Draw} (hds : Instant ds) (w : World) :
    (p.run backend ds w).2.now = w.now := by
  induction p generalizing ds w with
  | ret a => rfl
  | call q k ih =>
    have hnow : (respond q (ds 0) w).2.now = w.now := by
      unfold respond
      rw [hds 0, World.wait_zero]
      cases q with
      | sql q =>
        dsimp only
        split <;> rfl
      | _ => rfl
    rw [Prog.run_call]
    exact (ih _ hds.tail _).trans hnow

theorem Lockout.failure_open {l : Lockout} {now : Time} (hopen : l.lockedUntil = none)
    (hmax : l.attempts + 1 ≤ maxInt32) :
    (l.failure env now).2 =
      if env.cfg.lockout.maxAttempts.toInt ≤ l.attempts + 1 ∧ l.recent env now = true then
        { l.count now with lockedUntil := some (add now env.lockoutDuration) }
      else l.count now := by
  unfold Lockout.failure
  rw [Lockout.cleared_eq_self hopen, if_neg (by omega)]
  simp only [Bool.and_eq_true, decide_eq_true_iff]
  exact apply_ite Prod.snd _ _ _

/-- **A wrong password at one instant** is one failure of the machine. -/
theorem Attempt.instant_on (hu : w.db.userByEmail email = some u) (hopen : u.lockedUntil = none)
    (hwrong : env.passwordCheck password u.passwordHash = .wrong) :
    ((Attempt.instant email password).on env w).2.now = w.now ∧
      ∃ u', ((Attempt.instant email password).on env w).2.db.userByEmail email = some u' ∧
        u'.lockout = (u.lockout.failure env w.now).2 ∧ u'.passwordHash = u.passwordHash := by
  have hinst : Instant (Attempt.instant email password).draws := fun _ => rfl
  have hsound : Sound (Attempt.instant email password).draws := fun _ => rfl
  refine ⟨now_run_instant _ hinst w, ?_⟩
  have hfree : u.lockout.lockedAt? w.now = none := Lockout.lockedAt?_eq_none hopen w.now
  obtain ⟨_, hends⟩ := verifyCredentials_reaches env password "" hinst hu
    (Lockout.reaches_of_sound hsound hfree)
  rw [hwrong, Lockout.attempt_wrong hfree] at hends
  rcases hends with hreacts | ⟨hfault, _⟩
  · exact hreacts.account
  · exact absurd hsound hfault

/-- After `j` wrong passwords at one instant, none of which locked the account. -/
structure Guessed (email : String) (u : User) (start : Time) (j : ℕ) (w : World) (a : User) :
    Prop where
  row : w.db.userByEmail email = some a
  passwordHash : a.passwordHash = u.passwordHash
  now : w.now = start
  attempts : a.lockout.attempts = u.lockout.attempts + j
  lastFailed : 1 ≤ j → a.lockout.lastFailed = some start
  lockedUntil : a.lockout.lockedUntil = none

variable {start : Time} {j : ℕ} {a : User}

/-- **One more wrong password**: it is counted, if it does not lock the account. -/
theorem Guessed.step (h : Guessed email u start j w a)
    (hwrong : env.passwordCheck password u.passwordHash = .wrong)
    (hmax : u.lockout.attempts + j + 1 ≤ maxInt32)
    (hfree : ((Attempt.instant email password).on env w).2.db.lockedUntil? email = none) :
    (∃ a', Guessed email u start (j + 1) ((Attempt.instant email password).on env w).2 a') ∧
      ¬ (env.cfg.lockout.maxAttempts.toInt ≤ u.lockout.attempts + j + 1 ∧
        a.lockout.recent env start = true) := by
  obtain ⟨hnow, a', ha', hlock, hhash⟩ := Attempt.instant_on h.row h.lockedUntil (h.passwordHash ▸ hwrong)
  unfold Store.lockedUntil? at hfree
  rw [ha'] at hfree
  have hnone : a'.lockout.lockedUntil = none := hfree
  rw [h.now, Lockout.failure_open h.lockedUntil (by rw [h.attempts]; exact hmax), h.attempts]
    at hlock
  have hnot : ¬ (env.cfg.lockout.maxAttempts.toInt ≤ u.lockout.attempts + j + 1 ∧
      a.lockout.recent env start = true) := by
    intro hlocks
    rw [if_pos hlocks] at hlock
    rw [hlock] at hnone
    cases hnone
  rw [if_neg hnot] at hlock
  refine ⟨⟨a', ha', hhash.trans h.passwordHash, hnow.trans h.now, ?_, fun _ => ?_, hnone⟩, hnot⟩
  · rw [hlock]
    show a.lockout.attempts + 1 = _
    rw [h.attempts]
    push_cast
    exact Int.add_assoc _ _ _
  · rw [hlock]
    rfl

/-- While the account keeps its allowance, wrong passwords at one instant are counted on top of the old
ones. -/
theorem FreshAllowance.guessed (h : FreshAllowance env email w) (hstart : Guessed email u w.now 0 w a)
    (hwrong : env.passwordCheck password u.passwordHash = .wrong) (j : ℕ)
    (hmax : u.lockout.attempts + j ≤ maxInt32) (hj : (j : ℤ) < env.cfg.lockout.maxAttempts.toInt) :
    ∃ b, Guessed email u w.now j
      (attemptAll env w (List.replicate j (Attempt.instant email password))) b := by
  induction j with
  | zero => exact ⟨a, hstart⟩
  | succ j ih =>
    push_cast at hmax hj
    obtain ⟨b, hb⟩ := ih (by omega) (by omega)
    have hfree := h.replicate (j + 1) (Attempt.instant email password) (by push_cast; exact hj)
    rw [List.replicate_succ', attemptAll_append] at hfree ⊢
    exact (hb.step hwrong (by omega) hfree).1

/-- Where the row is spent, wrong passwords at the instant of the unlock lock the account in time. -/
theorem FreshAllowance.not_spent (h : FreshAllowance env email w) (hstart : Guessed email u w.now 0 w a)
    (hlast : a.lockout.lastFailed = u.lockout.lastFailed)
    (hwrong : env.passwordCheck password u.passwordHash = .wrong) : ¬ u.lockout.Spent env w.now := by
  rintro (⟨htwo, hthreshold, hmax, hrecent⟩ | ⟨hthree, hfits, hpos, hmax, hwindow⟩)
  · -- the first wrong password locks the account
    have hfree := h.replicate 1 (Attempt.instant email password) (by push_cast; omega)
    have hnot := (hstart.step hwrong (by push_cast; omega) hfree).2
    refine hnot ⟨by push_cast; omega, ?_⟩
    obtain ⟨t, ht, hwithin⟩ := Lockout.recent_iff.mp hrecent
    exact Lockout.recent_iff.mpr ⟨t, hlast ▸ ht, hwithin⟩
  · -- so many that the threshold is reached, and two at least, since the second is recent in any case
    obtain ⟨j, hj⟩ : ∃ j : ℕ, (j : ℤ) + 2 = max 2 (env.cfg.lockout.maxAttempts.toInt - u.lockout.attempts) :=
      ⟨(max 2 (env.cfg.lockout.maxAttempts.toInt - u.lockout.attempts) - 2).toNat, by omega⟩
    obtain ⟨b, hb⟩ := h.guessed hstart hwrong (j + 1) (by push_cast; omega) (by push_cast; omega)
    have hfree := h.replicate (j + 2) (Attempt.instant email password) (by push_cast; omega)
    rw [List.replicate_succ', attemptAll_append] at hfree
    have hnot := (hb.step hwrong (by push_cast; omega) hfree).2
    refine hnot ⟨by push_cast; omega, Lockout.recent_iff.mpr ⟨w.now, hb.lastFailed (by omega), ?_⟩⟩
    have hzero : (0 : ℤ) ≤ env.lockoutWindow.toInt := Int64.le_iff_toInt_le.mp hwindow
    exact sub_le_of_le hzero (by rw [Int.sub_self]; exact hzero)

end Necessary

/-! ### The unlock -/

section Unlock

variable {env : Env} {email : String} {u : User} {w w₁ : World} {ds : ℕ → Draw}

/-- The row after an unlock: only the end of the lock is cleared. -/
theorem unlockUserAccount_row (hu : w.db.userByEmail email = some u)
    (hok : (unlockUserAccount u.id).run backend ds w = (.ok (), w₁)) :
    w₁.db.userByEmail email = some { u with lockedUntil := none, updatedAt := w₁.now } := by
  unfold unlockUserAccount at hok
  cases hf : (ds 0).fault with
  | true =>
    rw [run_sql_fault _ _ hf] at hok
    cases (congrArg Prod.fst hok : Except.error _ = Except.ok ())
  | false =>
    have hacc : Account email u w.db (w.wait (ds 0).wait) := ⟨hu, fun _ _ => rfl⟩
    obtain ⟨db, hexec, hacc'⟩ := hacc.withUsers (fun b => { b with lockedUntil := none }) fun _ => rfl
    rw [run_sql _ _ hf, show Query.exec (.unlockUserAccount u.id) _ _ w.db = _ from hexec] at hok
    obtain rfl : _ = w₁ := congrArg Prod.snd hok
    exact hacc'.self

/-- **When an unlock gives a fresh allowance.** In every run after the unlock the account stays open as
long as fewer than `MaxAttempts` calls for it have failed, exactly if there is no wrong password for it
or its old failures do not suffice: they do if they reach the threshold with one more failure and the
last of them is recent, or with a threshold of three and more, whenever there are any. (Two wrong
passwords in a row are inside any window that is not negative, and a counter at its largest value does
not move.) -/
theorem unlock_allowance_iff (hu : w.db.userByEmail email = some u)
    (hok : (unlockUserAccount u.id).run backend ds w = (.ok (), w₁)) :
    FreshAllowance env email w₁ ↔
      ¬ ((∃ password, env.passwordCheck password u.passwordHash = .wrong) ∧
        u.lockout.Spent env w₁.now) := by
  have hrow := unlockUserAccount_row hu hok
  constructor
  · rintro h ⟨⟨password, hwrong⟩, hspent⟩
    have hstart : Guessed email u w₁.now 0 w₁ { u with lockedUntil := none, updatedAt := w₁.now } :=
      { row := hrow, passwordHash := rfl, now := rfl, attempts := (Int.add_zero _).symm
        lastFailed := fun h => absurd h (by decide), lockedUntil := rfl }
    exact h.not_spent hstart rfl hwrong hspent
  · intro hnot as hlen
    have hstands : Stands email u w₁.now 0 w₁ := ⟨le_rfl, _, hrow, rfl, .untouched⟩
    rcases hstands.run as hlen with ⟨_, a, ha, _, hstanding⟩ | hspent
    · unfold Store.lockedUntil?
      rw [ha]
      exact hstanding.lockedUntil
    · exact absurd hspent hnot

end Unlock

section Examples

open Deployment

/-- `ann` is locked, and the counter is `n`, with the last failure at time 0. -/
def lockedOutAnn (n : ℤ) : User :=
  { ann with
    failedLoginAttempts := n, lastFailedLoginAt := some 0, lockedUntil := some 900000000000 }

def lockedOutStore (n : ℤ) : Store :=
  { store with users := ⟨[lockedOutAnn n], List.pairwise_singleton _ _⟩ }

/-- `ann` was unlocked ten seconds after the failure. -/
def unlocked (n : ℤ) : Except AuthError Unit × World :=
  (unlockUserAccount 2).run backend (fun _ => draw 7 20) ⟨10000000000, lockedOutStore n⟩

/-- With a counter of zero the allowance is a fresh one. -/
theorem unlock_allowance_iff_ann : FreshAllowance env "ann@example.com" (unlocked 0).2 := by
  have hu : (lockedOutStore 0).userByEmail "ann@example.com" = some (lockedOutAnn 0) := rfl
  have hok : (unlockUserAccount (lockedOutAnn 0).id).run backend (fun _ => draw 7 20)
      ⟨10000000000, lockedOutStore 0⟩ = (.ok (), (unlocked 0).2) := rfl
  refine (unlock_allowance_iff hu hok).mpr ?_
  rintro ⟨_, ⟨_, hthreshold, _⟩ | ⟨_, _, hpos, _⟩⟩
  · exact absurd hthreshold (by decide)
  · exact absurd hpos (by decide)

/-- **The counter stays.** Three failures have locked `ann` out. The administrator unlocks the account,
and the first wrong password locks it again, for 900 seconds. -/
theorem unlock_leaves_counter :
    (lockedOutStore 3).userByEmail "ann@example.com" = some (lockedOutAnn 3) ∧
      env.cfg.lockout.maxAttempts = 3 ∧ (unlocked 3).1 = .ok () ∧
      (unlocked 3).2.db.lockedUntil? "ann@example.com" = none ∧
      failedCalls env "ann@example.com" (unlocked 3).2
        [Attempt.instant "ann@example.com" "wrong"] = 1 ∧
      (attemptAll env (unlocked 3).2 [Attempt.instant "ann@example.com" "wrong"]).db.lockedUntil?
        "ann@example.com" = some 910000000000 := by
  decide +kernel

end Examples

end GoauthServer
