import GoauthServer.Safety.Lockout
import GoauthServer.Spec.Log

/-!
# Concurrent guessing

Any number of `VerifyCredentials` calls with wrong passwords for one user, interleaved in any way.
The counter is incremented in one statement, so no failure is lost. The window test, however, looks
at `last_failed_login_at` in the row that the call read at its start: calls that have all read the row
before the first failure was recorded do not lock the account, however many they are
(`concurrent_guesses_do_not_lock`).

What locks the account is a call that has read the row *after* a failure was recorded, and whose own
failure reaches the threshold (`Informed`). `concurrent_guesses_lock_iff` says that the account is
locked at the end if some step of the schedule is of this kind, and that it is not locked otherwise.
-/

namespace GoauthServer

open Interact GoTime

variable {e : Event effects} {log : Log effects}

/-! ### What a call with a wrong password may do -/

/-- The row after a failure was counted. -/
def Event.counted? : Event effects → Option User
  | ⟨.sql (.incrementFailedLoginAttempts _), .ok u⟩ => some u
  | _ => none

/-- The account was to be locked. -/
def Event.locks : Event effects → Bool
  | ⟨.sql (.lockUserAccount _ _), _⟩ => true
  | _ => false

/-- The row after the call has counted a failure. -/
def counted (log : Log effects) : Option User := log.findSome? Event.counted?

/-- The call has locked the account. -/
def lockTried (log : Log effects) : Bool := log.any Event.locks

theorem counted_cons_some {a : User} (h : Event.counted? e = some a) : counted (e :: log) = some a := by
  unfold counted
  rw [List.findSome?_cons, h]

theorem counted_cons_none (h : Event.counted? e = none) : counted (e :: log) = counted log := by
  unfold counted
  rw [List.findSome?_cons, h]

/-- The requests of a call with `password`. -/
def guessRequest (env : Env) (email password : String) : Request → Log effects → Prop
  | .sql (.getUserByEmailForAuth e), log =>
    e = email ∧ authUser log = none ∧ counted log = none
  | .sql (.resetLoginAttempts _), log =>
    -- after a right password, or where a lock has expired
    ∃ r, authUser log = some r ∧ (env.passwordCheck password r.passwordHash ≠ .wrong ∨
      ∃ t now, r.lockedUntil = some t ∧ now ∈ clockReadings log ∧ t ≤ now)
  | .sql (.updateLastLogin _ _), log =>
    ∃ r, authUser log = some r ∧ env.passwordCheck password r.passwordHash ≠ .wrong
  | .sql (.incrementFailedLoginAttempts id), log =>
    ∃ r, authUser log = some r ∧ id = r.id ∧ counted log = none
  | .sql (.lockUserAccount id t), log =>
    ∃ r a now now', authUser log = some r ∧ counted log = some a ∧ id = r.id ∧
      env.thresholdReached a = true ∧ env.withinWindow r now = true ∧
      now' ∈ clockReadings log ∧ t = add now' env.lockoutDuration
  | .sql (.createAuditLogEntry _), _ => True
  | .now, _ => True
  | _, _ => False

/-- At the end: a failure that reached the threshold inside the window has locked the account. -/
def guessResult (env : Env) (log : Log effects) : Prop :=
  ∀ r a, authUser log = some r → counted log = some a → env.thresholdReached a = true →
    (∀ now ∈ clockReadings log, env.withinWindow r now = true) → lockTried log = true

def guessProtocol (env : Env) (email password : String) : Protocol effects Verified :=
  ⟨guessRequest env email password, fun _ log => guessResult env log⟩

section Protocol

variable {env : Env} {email password sourceIP : String} {log : Log effects} {user : User}

theorem guessResult_of_not_counted (h : counted log = none) : guessResult env log := by
  intro r a _ ha
  rw [h] at ha
  cases ha

theorem guessResult_of_tried (h : lockTried log = true) : guessResult env log :=
  fun _ _ _ _ _ _ => h

theorem lockAccount_guess {now : Time} {a : User} (hread : authUser log = some user)
    (hcount : counted log = some a) (hreach : env.thresholdReached a = true)
    (hwindow : env.withinWindow user now = true) :
    (lockAccount env user email sourceIP).Obeys (guessProtocol env email password) log := by
  refine ⟨trivial, fun now' => ?_⟩
  refine ⟨⟨user, a, now, now', hread, hcount, rfl, hreach, hwindow, List.mem_cons_self, rfl⟩, ?_⟩
  rintro (e | _)
  · exact guessResult_of_tried rfl
  · exact logEvent_obeys trivial (guessResult_of_tried rfl) fun _ => guessResult_of_tried rfl

theorem failedAttempt_guess (hread : authUser log = some user) (hcount : counted log = none) :
    (failedAttempt env user email sourceIP).Obeys (guessProtocol env email password) log := by
  refine ⟨⟨user, hread, rfl, hcount⟩, ?_⟩
  rintro (e | updated)
  · exact guessResult_of_not_counted hcount
  refine ⟨trivial, fun now => ?_⟩
  dsimp only
  split
  · next hlock =>
    rw [Bool.and_eq_true] at hlock
    exact lockAccount_guess (a := updated) hread rfl hlock.1 hlock.2
  · next hno =>
    -- no lock: the threshold is not reached, or the clock says that the window has passed
    have hend : ∀ es : Log effects, authUser (es ++ ⟨.now, now⟩ ::
          ⟨.sql (.incrementFailedLoginAttempts user.id), .ok updated⟩ :: log) = some user →
        counted (es ++ ⟨.now, now⟩ ::
          ⟨.sql (.incrementFailedLoginAttempts user.id), .ok updated⟩ :: log) = some updated →
        guessResult env (es ++ ⟨.now, now⟩ ::
          ⟨.sql (.incrementFailedLoginAttempts user.id), .ok updated⟩ :: log) := by
      intro es hes hes' r a hr ha hreach hwindow
      obtain rfl := Option.some.inj (hes.symm.trans hr)
      obtain rfl := Option.some.inj (hes'.symm.trans ha)
      refine absurd ?_ hno
      rw [hreach, Bool.true_and]
      refine hwindow now (List.mem_filterMap.mpr ⟨⟨.now, now⟩, ?_, rfl⟩)
      exact List.mem_append_right _ List.mem_cons_self
    exact logEvent_obeys trivial (hend [] hread rfl) fun r => hend [_] hread rfl

theorem successfulAttempt_guess (hread : authUser log = some user) (hcount : counted log = none)
    (hright : env.passwordCheck password user.passwordHash ≠ .wrong) :
    (successfulAttempt user).Obeys (guessProtocol env email password) log := by
  refine ⟨⟨user, hread, Or.inl hright⟩, ?_⟩
  rintro (e | _)
  · exact guessResult_of_not_counted hcount
  refine ⟨trivial, fun now => ⟨⟨user, hread, hright⟩, ?_⟩⟩
  rintro (e | _)
  · exact guessResult_of_not_counted hcount
  · exact guessResult_of_not_counted hcount

theorem checkPassword_guess (hread : authUser log = some user) (hcount : counted log = none) :
    (checkPassword env user email password sourceIP).Obeys (guessProtocol env email password) log := by
  unfold checkPassword
  split
  · exact guessResult_of_not_counted hcount
  next hash hhash =>
  split
  · exact guessResult_of_not_counted hcount
  · exact guessResult_of_not_counted hcount
  · exact failedAttempt_guess hread hcount
  · next hok =>
    refine successfulAttempt_guess hread hcount ?_
    rw [hhash]
    unfold Env.passwordCheck
    simp only [hok]
    exact PasswordCheck.noConfusion

theorem verifyCredentials_guess (env : Env) (email password sourceIP : String) :
    (verifyCredentials env email password sourceIP).Obeys (guessProtocol env email password) [] := by
  refine ⟨⟨rfl, rfl, rfl⟩, ?_⟩
  rintro (e | user)
  · cases e <;> exact guessResult_of_not_counted rfl
  dsimp only
  split
  · exact checkPassword_guess rfl rfl
  next t ht =>
  refine ⟨trivial, fun now => ?_⟩
  dsimp only
  split
  · exact guessResult_of_not_counted rfl
  next hlt =>
  refine ⟨⟨user, rfl, Or.inr ⟨t, now, ht, List.mem_cons_self, not_lt.mp hlt⟩⟩, ?_⟩
  rintro (e | _)
  · exact guessResult_of_not_counted rfl
  · exact checkPassword_guess rfl rfl

/-- What a call has read and counted stays what it has read and counted. -/
theorem guess_keeps {q : Request} (reply : q.Reply) {r a : User} (hq : guessRequest env email password q log)
    (hread : authUser log = some r) (hcount : counted log = some a) :
    authUser (⟨q, reply⟩ :: log) = some r ∧ counted (⟨q, reply⟩ :: log) = some a := by
  cases q with
  | sql q =>
    cases q with
    | getUserByEmailForAuth e =>
      rw [hq.2.1] at hread
      cases hread
    | incrementFailedLoginAttempts id =>
      obtain ⟨_, _, _, hnone⟩ := hq
      rw [hnone] at hcount
      cases hcount
    | _ => exact ⟨hread, hcount⟩
  | _ => exact ⟨hread, hcount⟩

end Protocol

/-! ### The row of the user -/

/-- What is known of a row of the user during the run, which starts at `start` and is over at
`finish`: a lock outlasts the run, and failures are failures of the run. -/
structure GuessedRow (u : User) (start finish : Time) (a : User) : Prop where
  id : a.id = u.id
  passwordHash : a.passwordHash = u.passwordHash
  lockedUntil : ∀ t ∈ a.lockedUntil, finish < t
  lastFailed : u.lastFailedLoginAt = none → ∀ t ∈ a.lastFailedLoginAt, start ≤ t

section Row

variable {env : Env} {email password : String} {log : Log effects} {u a : User} {q : Request}
  {d : Draw} {w : World} {start finish : Time}

/-- The three things a request may do to the row `a`. -/
inductive RowStep (q : Request) (d : Draw) (w : World) (a : User) : User → Prop
  | same (hlock : ∀ id t, q ≠ .sql (.lockUserAccount id t))
      (hmax : ∀ id, q = .sql (.incrementFailedLoginAttempts id) → maxInt32 ≤ a.failedLoginAttempts)
      (hcount : Event.counted? ⟨q, (respond q d w).1⟩ = none) : RowStep q d w a a
  | count (a' : User) (id : UUID) (hq : q = .sql (.incrementFailedLoginAttempts id))
      (hmax : a.failedLoginAttempts < maxInt32)
      (ha' : a' = a.withLockout (a.lockout.count (w.wait d.wait).now) (w.wait d.wait).now)
      (hreply : Event.counted? ⟨q, (respond q d w).1⟩ = some a') : RowStep q d w a a'
  | lock (a' : User) (t : Time) (hq : q = .sql (.lockUserAccount a.id t))
      (ha' : a' = a.withLockout { a.lockout with lockedUntil := some t } (w.wait d.wait).now) :
      RowStep q d w a a'

/-- **One request of a call with a wrong password.** -/
theorem guess_row (ha : w.db.userByEmail email = some a) (hid : a.id = u.id)
    (hwrong : env.passwordCheck password u.passwordHash = .wrong) (hq : guessRequest env email password q log)
    (hreads : ∀ r, authUser log = some r → GuessedRow u start finish r)
    (hclocks : ∀ now ∈ clockReadings log, now ≤ finish) (hf : d.fault = false) :
    ∃ a', (respond q d w).2.db.userByEmail email = some a' ∧ RowStep q d w a a' := by
  have hacc : Account email a w.db (w.wait d.wait) := ⟨ha, fun _ _ => rfl⟩
  cases q with
  | sql q =>
    cases q with
    | getUserByEmailForAuth e =>
      rw [respond_sql _ hf]
      exact ⟨a, ha, .same nofun nofun
        (by rw [respond_sql _ hf]; rfl)⟩
    | createAuditLogEntry e =>
      rw [respond_sql _ hf]
      exact ⟨a, ha, .same nofun nofun
        (by rw [respond_sql _ hf]; rfl)⟩
    | resetLoginAttempts id =>
      -- neither is the password right, nor has a lock expired
      obtain ⟨r, hr, hright | ⟨t, now, ht, hnow, hle⟩⟩ := hq
      · rw [(hreads r hr).passwordHash, hwrong] at hright
        exact absurd rfl hright
      · exact absurd ((hreads r hr).lockedUntil t ht) (not_lt.mpr (hle.trans (hclocks now hnow)))
    | updateLastLogin id t =>
      obtain ⟨r, hr, hright⟩ := hq
      rw [(hreads r hr).passwordHash, hwrong] at hright
      exact absurd rfl hright
    | incrementFailedLoginAttempts id =>
      obtain ⟨r, hr, hid', _⟩ := hq
      have haid : id = a.id := by rw [hid', (hreads r hr).id, hid]
      subst haid
      rw [respond_sql _ hf]
      by_cases hmax : maxInt32 ≤ a.failedLoginAttempts
      · have hexec := exec_increment_overflow d.uuid hacc hmax
        refine ⟨a, ?_, .same nofun (fun _ _ => hmax) ?_⟩
        · exact (congrArg (fun p => Store.userByEmail p.2 email) hexec).trans ha
        · rw [respond_sql _ hf]
          exact congrArg (fun p => Event.counted? ⟨.sql (.incrementFailedLoginAttempts a.id), p.1⟩) hexec
      · obtain ⟨db, hexec, hacc'⟩ := exec_increment d.uuid hacc hmax
        refine ⟨_, ?_, .count _ a.id rfl (not_le.mp hmax) rfl ?_⟩
        · exact (congrArg (fun p => Store.userByEmail p.2 email) hexec).trans hacc'.self
        · rw [respond_sql _ hf]
          exact congrArg (fun p => Event.counted? ⟨.sql (.incrementFailedLoginAttempts a.id), p.1⟩) hexec
    | lockUserAccount id t =>
      obtain ⟨r, _, _, _, hr, _, hid', _⟩ := hq
      have haid : id = a.id := by rw [hid', (hreads r hr).id, hid]
      subst haid
      rw [respond_sql _ hf]
      obtain ⟨db, hexec, hacc'⟩ := exec_lockUserAccount d.uuid hacc t
      refine ⟨_, ?_, .lock _ t rfl rfl⟩
      exact (congrArg (fun p => Store.userByEmail p.2 email) hexec).trans hacc'.self
    | _ => exact hq.elim
  | now => exact ⟨a, ha, .same nofun nofun rfl⟩
  | _ => exact hq.elim

end Row

/-! ### The run -/

section Race

variable {ι : Type}

/-- Calls of `VerifyCredentials` for one address. -/
def guesses (env : Env) (email : String) (password sourceIP : ι → String) (w : World) :
    Pool backend ι Verified :=
  Pool.start (fun i => verifyCredentials env email (password i) (sourceIP i)) w

/-- The statement that counts a failure. -/
def Request.counts : Request → Bool
  | .sql (.incrementFailedLoginAttempts _) => true
  | _ => false

theorem Request.counts_iff {q : Request} (h : q.counts = true) :
    ∃ id, q = .sql (.incrementFailedLoginAttempts id) := by
  cases q with
  | sql q =>
    cases q with
    | incrementFailedLoginAttempts id => exact ⟨id, rfl⟩
    | _ => cases h
  | _ => cases h

/-- Call `i` is about to count a failure that reaches the threshold, and it has read the row after a
failure of the run, that is one since `start`, was recorded. -/
def Informed (env : Env) (email : String) (start : Time) (c : Pool backend ι Verified) (i : ι)
    (_ : Draw) : Prop :=
  (∃ q ∈ c.next? i, q.counts = true) ∧
    (∃ r ∈ authUser (c.threads i).log, ∃ t ∈ r.lastFailedLoginAt, start ≤ t) ∧
    ∃ a ∈ c.world.db.userByEmail email,
      env.cfg.lockout.maxAttempts.toInt ≤ a.failedLoginAttempts + 1 ∧
      a.failedLoginAttempts < maxInt32

instance (env : Env) (email : String) (start : Time) (c : Pool backend ι Verified) (i : ι)
    (d : Draw) : Decidable (Informed env email start c i d) :=
  have : ∀ r : User, Decidable (∃ t ∈ r.lastFailedLoginAt, start ≤ t) :=
    fun _ => Option.decidableExistsMem _
  have : Decidable (∃ q ∈ c.next? i, Request.counts q = true) := Option.decidableExistsMem _
  have : Decidable (∃ r ∈ authUser (c.threads i).log, ∃ t ∈ r.lastFailedLoginAt, start ≤ t) :=
    Option.decidableExistsMem _
  have : Decidable (∃ a ∈ c.world.db.userByEmail email,
      env.cfg.lockout.maxAttempts.toInt ≤ a.failedLoginAttempts + 1 ∧
      a.failedLoginAttempts < maxInt32) := Option.decidableExistsMem _
  inferInstanceAs (Decidable (_ ∧ _ ∧ _))

/-- The invariant of the run. -/
structure Guessing (env : Env) (email : String) (u : User) (start finish : Time)
    (c : Pool backend ι Verified) : Prop where
  row : ∃ a, c.world.db.userByEmail email = some a ∧ GuessedRow u start finish a ∧
    ((∃ i, lockTried (c.threads i).log = true) → a.lockedUntil.isSome = true)
  reads : ∀ i r, authUser (c.threads i).log = some r → GuessedRow u start finish r
  clocks : ∀ i, ∀ now ∈ clockReadings (c.threads i).log, start ≤ now ∧ now ≤ c.world.now
  started : start ≤ c.world.now

/-- What the steps of the run have in common: no statement fails, and the run is over at `finish`. -/
def WithinRun (finish : Time) [DecidableEq ι] (c : Pool backend ι Verified) (i : ι) (d : Draw) :
    Prop :=
  d.fault = false ∧ (c.step i d).world.now ≤ finish

variable [DecidableEq ι] {env : Env} {email : String} {password sourceIP : ι → String} {u : User}
  {start finish : Time} {c : Pool backend ι Verified} {i : ι} {d : Draw} {q : Request}
  {k : q.Reply → Call Verified}

theorem withinRun_along (c : Pool backend ι Verified) {schedule : List (ι × Draw)}
    (hf : ∀ l ∈ schedule, l.2.fault = false) :
    Pool.Along (WithinRun (c.run schedule).world.now) c schedule := by
  induction schedule generalizing c with
  | nil => trivial
  | cons l ls ih =>
    refine ⟨⟨hf l List.mem_cons_self, le_now_run (c.step l.1 l.2) ls⟩, ?_⟩
    exact ih _ fun l' hl' => hf l' (List.mem_cons_of_mem _ hl')

/-- The clock is not past the end of the run. -/
theorem now_le_finish (hC : WithinRun finish c i d) : c.world.now ≤ finish :=
  (le_now_step c i d).trans hC.2

/-- A call has locked the account before the step, or with it. -/
theorem lockTried_step (hi : (c.threads i).prog = .call q k) {j : ι}
    (h : lockTried ((c.step i d).threads j).log = true) :
    lockTried (c.threads j).log = true ∨ ∃ id t, q = .sql (.lockUserAccount id t) := by
  by_cases hij : j = i
  · subst hij
    rw [step_log hi] at h
    cases q with
    | sql q =>
      cases q with
      | lockUserAccount id t => exact Or.inr ⟨id, t, rfl⟩
      | _ => exact Or.inl h
    | _ => exact Or.inl h
  · rw [Pool.step_threads_of_ne hij] at h
    exact Or.inl h

/-- **One step of the run**, with what it does to the row. -/
theorem Guessing.step (h : Guessing env email u start finish c)
    (hwrong : ∀ i, env.passwordCheck (password i) u.passwordHash = .wrong)
    (hdur : finish < start + env.lockoutDuration.toInt) (hi : (c.threads i).prog = .call q k)
    (hq : guessRequest env email (password i) q (c.threads i).log) (hC : WithinRun finish c i d) :
    Guessing env email u start finish (c.step i d) ∧ ∃ a a', c.world.db.userByEmail email = some a ∧
        (c.step i d).world.db.userByEmail email = some a' ∧ RowStep q d c.world a a' := by
  obtain ⟨a, ha, hrow, htried⟩ := h.row
  have hclock : ∀ now ∈ clockReadings (c.threads i).log, now ≤ finish :=
    fun now hnow => (h.clocks i now hnow).2.trans (now_le_finish hC)
  obtain ⟨a', ha', hstep⟩ := guess_row (d := d) ha hrow.id (hwrong i) hq (h.reads i) hclock hC.1
  have hnow : c.world.now ≤ (c.world.wait d.wait).now := by simp [World.wait]
  have hrow' : GuessedRow u start finish a' := by
    cases hstep with
    | same => exact hrow
    | count _ _ _ _ hcount =>
      subst hcount
      refine ⟨hrow.id, hrow.passwordHash, hrow.lockedUntil, fun _ t ht => ?_⟩
      obtain rfl := Option.some.inj ht
      exact h.started.trans hnow
    | lock _ t hlock heq =>
      subst hlock heq
      refine ⟨hrow.id, hrow.passwordHash, fun t' ht' => ?_, hrow.lastFailed⟩
      -- the lock starts at a reading of the clock in this run
      obtain rfl := Option.some.inj ht'
      obtain ⟨_, _, _, now', _, _, _, _, _, hnow', rfl⟩ := hq
      exact lt_of_lt_of_le hdur (Int.add_le_add_right (h.clocks i now' hnow').1 _)
  refine ⟨⟨⟨a', by rw [step_world hi]; exact ha', hrow', ?_⟩, ?_, ?_, ?_⟩,
    a, a', ha, by rw [step_world hi]; exact ha', hstep⟩
  · -- a lock stays, and a call that locks the account leaves it locked
    rintro ⟨j, hj⟩
    rcases lockTried_step hi hj with hj | ⟨id, t, rfl⟩
    · have hlocked := htried ⟨j, hj⟩
      cases hstep with
      | same => exact hlocked
      | count _ _ _ _ heq => rw [heq]; exact hlocked
      | lock _ _ _ heq => rw [heq]; rfl
    · cases hstep with
      | same hlock => exact absurd rfl (hlock id t)
      | count _ _ hinc => cases hinc
      | lock _ _ _ heq => rw [heq]; rfl
  · intro j r hr
    by_cases hij : j = i
    · subst hij
      rw [step_log hi] at hr
      rcases authUser_respond hr with hr | ⟨e, rfl, hmem, hmail⟩
      · exact h.reads j r hr
      · -- the row that is read is the row of the table
        have hra := Store.userByEmail_of_mem hmem (hmail.trans hq.1)
        obtain rfl := Option.some.inj (ha.symm.trans hra)
        exact hrow
    · rw [Pool.step_threads_of_ne hij] at hr
      exact h.reads j r hr
  · intro j now hnow'
    rw [step_world hi]
    by_cases hij : j = i
    · subst hij
      rw [step_log hi] at hnow'
      rcases clockReadings_respond hnow' with hold | ⟨rfl, rfl⟩
      · exact ⟨(h.clocks j now hold).1, (h.clocks j now hold).2.trans (le_now_respond q d c.world)⟩
      · exact ⟨h.started.trans hnow, le_refl _⟩
    · rw [Pool.step_threads_of_ne hij] at hnow'
      exact ⟨(h.clocks j now hnow').1, (h.clocks j now hnow').2.trans (le_now_respond q d c.world)⟩
  · rw [step_world hi]
    exact h.started.trans (le_now_respond q d c.world)

omit [DecidableEq ι] in
theorem guessing_start {w : World} (hu : w.db.userByEmail email = some u) (hopen : u.lockedUntil = none) :
    Guessing env email u w.now finish (guesses env email password sourceIP w) where
  row := by
    refine ⟨u, hu, ⟨rfl, rfl, fun t ht => ?_, fun hnone t ht => ?_⟩, ?_⟩
    · rw [hopen] at ht
      cases ht
    · rw [hnone] at ht
      cases ht
    · rintro ⟨i, hi⟩
      cases hi
  reads i r hr := by cases hr
  clocks i now hnow := by cases hnow
  started := le_refl w.now

omit [DecidableEq ι] in
theorem guesses_obey (env : Env) (email : String) (password sourceIP : ι → String) (w : World) :
    Pool.Obeys (fun i => guessProtocol env email (password i)) (guesses env email password sourceIP w) :=
  Pool.Obeys.start (B := backend) (fun i => verifyCredentials_guess env email (password i) (sourceIP i)) w

/-- The window test of a call that has read a failure of this run. -/
theorem withinWindow_of_start {r : User} {t now : Time} (hr : r.lastFailedLoginAt = some t)
    (hstart : start ≤ t) (hnow : now ≤ finish) (hrun : start ≤ finish)
    (hwin : finish - start ≤ env.lockoutWindow.toInt) : env.withinWindow r now = true := by
  rw [withinWindow_some hr, decide_eq_true_iff]
  refine sub_le_of_le ((sub_nonneg.mpr hrun).trans hwin) (le_trans ?_ hwin)
  exact sub_le_sub hnow hstart

/-- A call that has read a failure of this run and counted one that reaches the threshold. -/
structure Decided (env : Env) (start : Time) (c : Pool backend ι Verified) (i : ι) : Prop where
  read : ∃ r, authUser (c.threads i).log = some r ∧ ∃ t, r.lastFailedLoginAt = some t ∧ start ≤ t
  counted : ∃ a, counted (c.threads i).log = some a ∧ env.thresholdReached a = true

theorem Decided.step {j : ι} (h : Decided env start c j) (hi : (c.threads i).prog = .call q k)
    (hq : guessRequest env email (password i) q (c.threads i).log) :
    Decided env start (c.step i d) j := by
  by_cases hij : j = i
  · subst hij
    obtain ⟨r, hr, hlast⟩ := h.read
    obtain ⟨a, ha, hreach⟩ := h.counted
    obtain ⟨hr', ha'⟩ := guess_keeps (respond q d c.world).1 hq hr ha
    rw [← step_log hi] at hr' ha'
    exact ⟨⟨r, hr', hlast⟩, a, ha', hreach⟩
  · constructor
    · rw [Pool.step_threads_of_ne hij]
      exact h.read
    · rw [Pool.step_threads_of_ne hij]
      exact h.counted

/-- An informed call that counts its failure has decided to lock the account. -/
theorem Informed.decided (h : Informed env email start c i d) (hi : (c.threads i).prog = .call q k)
    (hq : guessRequest env email (password i) q (c.threads i).log) {a a' : User}
    (ha : c.world.db.userByEmail email = some a) (hstep : RowStep q d c.world a a') :
    Decided env start (c.step i d) i := by
  obtain ⟨⟨q', hnext, hcounts⟩, ⟨r, hr, hlast⟩, b, hb, hreach, hmax⟩ := h
  obtain rfl := Option.some.inj (ha.symm.trans hb)
  obtain ⟨id, rfl⟩ := Request.counts_iff hcounts
  have hqinc := Option.some.inj ((Pool.next?_of_call hi).symm.trans hnext)
  cases hstep with
  | same _ hover => exact absurd (hover id hqinc) (not_le.mpr hmax)
  | lock _ _ hlock =>
    rw [hlock] at hqinc
    cases hqinc
  | count _ _ _ _ heq hreply =>
    refine ⟨⟨r, ?_, hlast⟩, a', ?_, ?_⟩
    · rw [step_log hi]
      subst hqinc
      exact hr
    · rw [step_log hi]
      exact counted_cons_some hreply
    · rw [heq]
      exact decide_eq_true hreach

/-- No call has locked the account, and none is about to. -/
structure Unlocked (env : Env) (email : String) (c : Pool backend ι Verified) : Prop where
  row : ∃ a, c.world.db.userByEmail email = some a ∧ a.lockedUntil = none
  blind : ∀ i r a, authUser (c.threads i).log = some r → counted (c.threads i).log = some a →
    env.thresholdReached a = true → r.lastFailedLoginAt = none

/-- **One step that is not informed** leaves the account unlocked. -/
theorem Unlocked.step (h : Unlocked env email c) (hg : Guessing env email u start finish c)
    (hfresh : u.lastFailedLoginAt = none) (hi : (c.threads i).prog = .call q k)
    (hq : guessRequest env email (password i) q (c.threads i).log) (hnot : ¬ Informed env email start c i d)
    {a a' : User} (ha : c.world.db.userByEmail email = some a)
    (ha' : (c.step i d).world.db.userByEmail email = some a') (hstep : RowStep q d c.world a a') :
    Unlocked env email (c.step i d) where
  row := by
    obtain ⟨b, hb, hopen⟩ := h.row
    obtain rfl := Option.some.inj (ha.symm.trans hb)
    refine ⟨a', ha', ?_⟩
    cases hstep with
    | same => exact hopen
    | count _ _ _ _ heq => rw [heq]; exact hopen
    | lock _ t hlock =>
      -- a call that locks the account has seen a failure within the window
      subst hlock
      obtain ⟨r, b, now, _, hr, hcount, _, hreach, hwindow, _⟩ := hq
      rw [withinWindow_none (h.blind i r b hr hcount hreach)] at hwindow
      cases hwindow
  blind j r b hr hcount hreach := by
    by_cases hij : j = i
    · subst hij
      rw [step_log hi] at hr hcount
      cases hstep with
      | count _ id hinc hmax heq hreply =>
        -- the failure reaches the threshold, so the row that was read has no failure
        subst hinc
        obtain rfl := Option.some.inj ((counted_cons_some hreply).symm.trans hcount)
        have hr' : authUser (c.threads j).log = some r := hr
        by_contra hlast
        obtain ⟨t, ht⟩ := Option.ne_none_iff_exists'.mp hlast
        refine hnot ⟨⟨_, Pool.next?_of_call hi, rfl⟩, ⟨r, hr', t, ht,
          (hg.reads j r hr').lastFailed hfresh t ht⟩, a, ha, ?_, hmax⟩
        rw [heq] at hreach
        exact of_decide_eq_true hreach
      | same _ _ hnone =>
        rw [counted_cons_none hnone] at hcount
        rcases authUser_respond hr with hr | ⟨e, rfl, _⟩
        · exact h.blind j r b hr hcount hreach
        · -- the row is read before a failure is counted
          rw [hq.2.2] at hcount
          cases hcount
      | lock _ _ hlock =>
        subst hlock
        exact h.blind j r b hr hcount hreach
    · rw [Pool.step_threads_of_ne hij] at hr hcount
      exact h.blind j r b hr hcount hreach

/-- **When concurrent guesses lock the account.** Calls with wrong passwords for a user who is not
locked, all over within the window and within the duration of a lock: if a call that has read a
failure of the run counts one that reaches the threshold, the account is locked at the end. If there
is no such call, and there was no failure before the run, it is not. -/
theorem concurrent_guesses_lock_iff {w : World} (hu : w.db.userByEmail email = some u)
    (hopen : u.lockedUntil = none)
    (hwrong : ∀ i, env.passwordCheck (password i) u.passwordHash = .wrong)
    {schedule : List (ι × Draw)} (hf : ∀ l ∈ schedule, l.2.fault = false)
    (hdone : ((guesses env email password sourceIP w).run schedule).Finished)
    (hwin : ((guesses env email password sourceIP w).run schedule).world.now - w.now ≤
      env.lockoutWindow.toInt)
    (hdur : ((guesses env email password sourceIP w).run schedule).world.now <
      w.now + env.lockoutDuration.toInt) :
    (Pool.Somewhere (Informed env email w.now) (guesses env email password sourceIP w) schedule →
      ∃ t, ((guesses env email password sourceIP w).run schedule).world.db.lockedUntil? email =
          some t ∧ ((guesses env email password sourceIP w).run schedule).world.now < t) ∧
    (u.lastFailedLoginAt = none →
      ¬ Pool.Somewhere (Informed env email w.now) (guesses env email password sourceIP w) schedule →
      ((guesses env email password sourceIP w).run schedule).world.db.lockedUntil? email = none) := by
  have hobeys := guesses_obey env email password sourceIP w
  have hstart : Guessing env email u w.now
      ((guesses env email password sourceIP w).run schedule).world.now
      (guesses env email password sourceIP w) := guessing_start hu hopen
  have halong := withinRun_along (guesses env email password sourceIP w) hf
  have hspan := le_now_run (guesses env email password sourceIP w) schedule
  constructor
  · rintro ⟨before, ⟨i, d⟩, after, rfl, hinf⟩
    rw [Pool.along_append] at halong
    rw [Pool.run_append, Pool.run_cons] at *
    generalize hfin : (((guesses env email password sourceIP w).run before).step i d).run after = fin
      at *
    obtain ⟨hbefore, hstepC, hafter⟩ := halong
    have hmid : Guessing env email u w.now fin.world.now
        ((guesses env email password sourceIP w).run before) :=
      Pool.invariant (fun c i d q k hi hq hC hI => (hI.step hwrong hdur hi hq hC).1) hobeys hstart
        hbefore
    have hobeys' := hobeys.run before
    generalize (guesses env email password sourceIP w).run before = c at *
    -- the informed step itself
    have hnow : Guessing env email u w.now fin.world.now (c.step i d) ∧
        Decided env w.now (c.step i d) i := by
      cases hi : (c.threads i).prog with
      | ret r =>
        obtain ⟨⟨q, hnext, _⟩, _⟩ := hinf
        unfold Pool.next? at hnext
        rw [hi] at hnext
        cases hnext
      | call q k =>
        have hq := hobeys'.request hi
        obtain ⟨hg, a, a', ha, _, hrow⟩ := hmid.step hwrong hdur hi hq hstepC
        exact ⟨hg, hinf.decided hi hq ha hrow⟩
    -- the rest of the run
    have hend : Guessing env email u w.now fin.world.now fin ∧ Decided env w.now fin i := by
      have hrun := Pool.invariant
        (I := fun c => Guessing env email u w.now fin.world.now c ∧ Decided env w.now c i)
        (fun c j d q k hj hq hC hI => ⟨(hI.1.step hwrong hdur hj hq hC).1, hI.2.step hj hq⟩)
        (hobeys'.step i d) hnow hafter
      rw [hfin] at hrun
      exact hrun
    obtain ⟨hguess, hdec⟩ := hend
    obtain ⟨v, hv⟩ := Option.isSome_iff_exists.mp (hdone i)
    have hres : guessResult env (fin.threads i).log := by
      rw [← hfin] at hv ⊢
      exact ((hobeys'.step i d).run after).result hv
    obtain ⟨r, hr, t, ht, hstart'⟩ := hdec.read
    obtain ⟨b, hb, hreach⟩ := hdec.counted
    have htried := hres r b hr hb hreach fun now hnow =>
      withinWindow_of_start ht hstart' (hguess.clocks i now hnow).2 hspan hwin
    obtain ⟨a, ha, hrow, hlocked⟩ := hguess.row
    obtain ⟨t, ht⟩ := Option.isSome_iff_exists.mp (hlocked ⟨i, htried⟩)
    refine ⟨t, ?_, hrow.lockedUntil t ht⟩
    unfold Store.lockedUntil?
    rw [ha]
    exact ht
  · intro hfresh hnone
    have hnot := Pool.along_not_of_not_somewhere hnone
    have hinit : Unlocked env email (guesses env email password sourceIP w) :=
      ⟨⟨u, hu, hopen⟩, fun i r a hr => by cases hr⟩
    have hend := Pool.invariant (I := fun c => Guessing env email u w.now
        ((guesses env email password sourceIP w).run schedule).world.now c ∧ Unlocked env email c)
      (fun c i d q k hi hq hC hI => by
        obtain ⟨hg, a, a', ha, ha', hrow⟩ := hI.1.step hwrong hdur hi hq hC.1
        exact ⟨hg, hI.2.step hI.1 hfresh hi hq hC.2 ha ha' hrow⟩)
      hobeys ⟨hstart, hinit⟩ (halong.and hnot)
    obtain ⟨a, ha, hopen'⟩ := hend.2.row
    unfold Store.lockedUntil?
    rw [ha]
    exact hopen'

end Race

section Examples

open Deployment

/-- Three calls with wrong passwords for `ann`, at time 0. -/
def annGuesses : Pool backend (Fin 3) Verified :=
  guesses env "ann@example.com" (fun _ => "wrong") (fun _ => "10.0.0.1") ⟨0, store⟩

/-- `n` steps of call `i`. -/
def guessTurns (n : ℕ) (i : Fin 3) : List (Fin 3 × Draw) := List.replicate n (i, draw 7 20)

/-- One call after the other: the third has read the failures of the others. -/
theorem concurrent_guesses_lock_iff_ann :
    ∃ t, (annGuesses.run ((guessTurns 3 0 ++ guessTurns 3 1 ++ guessTurns 1 2) ++
        (2, draw 7 20) :: guessTurns 3 2)).world.db.lockedUntil? "ann@example.com" = some t ∧
      (annGuesses.run ((guessTurns 3 0 ++ guessTurns 3 1 ++ guessTurns 1 2) ++
        (2, draw 7 20) :: guessTurns 3 2)).world.now < t := by
  have hwrong : ∀ _ : Fin 3, env.passwordCheck "wrong" ann.passwordHash = .wrong := by
    decide +kernel
  refine (concurrent_guesses_lock_iff (w := ⟨0, store⟩) store_ann rfl hwrong ?_ ?_ ?_ ?_).1
    ⟨guessTurns 3 0 ++ guessTurns 3 1 ++ guessTurns 1 2, (2, draw 7 20), guessTurns 3 2, rfl, ?_⟩
  · decide
  · unfold Pool.Finished
    decide +kernel
  · decide +kernel
  · decide +kernel
  · decide +kernel

/-- **The race.** All three calls read the row before the first failure is recorded. Each failure is
counted, the counter reaches the threshold of three, and the account is not locked. -/
theorem concurrent_guesses_do_not_lock :
    (annGuesses.run (guessTurns 1 0 ++ guessTurns 1 1 ++ guessTurns 1 2 ++ guessTurns 2 0 ++
        guessTurns 2 1 ++ guessTurns 2 2)).Finished ∧
      (((annGuesses.run (guessTurns 1 0 ++ guessTurns 1 1 ++ guessTurns 1 2 ++ guessTurns 2 0 ++
        guessTurns 2 1 ++ guessTurns 2 2)).world.db.userByEmail "ann@example.com").map fun u =>
          (u.failedLoginAttempts, u.lockedUntil)) = some (3, none) ∧
      env.cfg.lockout.maxAttempts = 3 := by
  refine ⟨?_, ?_, rfl⟩
  · unfold Pool.Finished
    decide +kernel
  · decide +kernel

end Examples

end GoauthServer
