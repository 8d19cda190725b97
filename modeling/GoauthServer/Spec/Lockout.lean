import GoauthServer.Service.Login

/-!
# The lockout machine

What `VerifyCredentials` does to one account, as a machine on the three columns of the row that it
reads and writes: a counter, the time of the last failure and the end of the lock. `Lockout.attempt`
is one call at one instant, given how the password check ends. `verifyCredentials_reaches` is the
refinement: a call that runs alone, at one instant, and gets to the password check answers as the
machine does, leaves the row of the account in the state of the machine and the rows of the others
alone. Where a later statement fails the call is rejected, and the row is in one of the states of
`Lockout.interrupted`. A call that does not get to the check changes no account
(`verifyCredentials_stops`).

Two details of the source are in the machine:

* an expired lock is cleared in the table, but the window test looks at the row as it was read;
* the counter is an `integer` column, and its increment fails at the largest value.
-/

namespace GoauthServer

open Interact Relational GoTime

variable {s : Store} {email : String} {u : User}

/-! ### The machine -/

/-- The lockout columns of a user. -/
structure Lockout where
  attempts : ℤ
  lastFailed : Option Time
  lockedUntil : Option Time
  deriving DecidableEq

def User.lockout (u : User) : Lockout := ⟨u.failedLoginAttempts, u.lastFailedLoginAt, u.lockedUntil⟩

/-- How the password check ends: also without a usable hash. -/
inductive PasswordCheck where
  | right
  | wrong
  | unusable
  deriving DecidableEq

/-- What the caller sees. -/
inductive Reaction where
  | accepted
  | rejected
  | locked (lockedUntil : Time)
  deriving DecidableEq

namespace Lockout

/-- No failures and no lock. -/
def clear : Lockout := ⟨0, none, none⟩

/-- The end of the lock, if the account is locked at `now`. -/
def lockedAt? (l : Lockout) (now : Time) : Option Time :=
  l.lockedUntil.filter fun t => decide (now < t)

/-- The table after an expired lock was cleared. -/
def cleared (l : Lockout) : Lockout := if l.lockedUntil.isSome then clear else l

/-- The last failure is within the window. -/
def recent (env : Env) (l : Lockout) (now : Time) : Bool :=
  l.lastFailed.any fun t => decide (sub now t ≤ env.lockoutWindow)

/-- One more failure. -/
def count (l : Lockout) (now : Time) : Lockout :=
  { l with attempts := l.attempts + 1, lastFailed := some now }

/-- A wrong password, where the account is not locked. `l` is the row as it was read. -/
def failure (env : Env) (l : Lockout) (now : Time) : Reaction × Lockout :=
  if maxInt32 ≤ l.cleared.attempts then (.rejected, l.cleared)
  else
    let counted := l.cleared.count now
    if decide (env.cfg.lockout.maxAttempts.toInt ≤ counted.attempts) && l.recent env now then
      (.locked (add now env.lockoutDuration),
        { counted with lockedUntil := some (add now env.lockoutDuration) })
    else (.rejected, counted)

/-- One call at the time `now`. -/
def attempt (env : Env) (l : Lockout) (check : PasswordCheck) (now : Time) :
    Reaction × Lockout :=
  match l.lockedAt? now with
  | some t => (.locked t, l)
  | none =>
    match check with
    | .right => (.accepted, clear)
    | .unusable => (.rejected, l.cleared)
    | .wrong => l.failure env now

/-- The states that a call may leave behind if a statement after the password check fails: the
failure is not counted, or it is counted but the account is not locked, or the failures are cleared
but the login is not recorded. -/
def interrupted (l : Lockout) (check : PasswordCheck) (now : Time) : List Lockout :=
  match check with
  | .right => [l.cleared, clear]
  | .unusable => []
  | .wrong =>
    if maxInt32 ≤ l.cleared.attempts then [l.cleared] else [l.cleared, l.cleared.count now]

/-- The call gets to the password check: the row is read, the account is not locked, and an expired
lock is cleared (with the third request of the call, after the clock was read). -/
def reaches (l : Lockout) (ds : ℕ → Draw) (now : Time) : Bool :=
  !(ds 0).fault && match l.lockedUntil with
    | none => true
    | some t => !decide (now < t) && !(ds 2).fault

end Lockout

/-- How the check of `password` against the stored hash ends. -/
def Env.passwordCheck (env : Env) (password : String) (passwordHash : Option String) :
    PasswordCheck :=
  match passwordHash with
  | none => .unusable
  | some hash =>
    match verifyArgon2id env password hash with
    | .ok true => .right
    | .ok false => .wrong
    | .error _ => .unusable

def Verified.reaction : Verified → Reaction
  | .success _ => .accepted
  | .locked t => .locked t
  | .failed _ => .rejected

/-! ### Accounts -/

/-- The row of an email address. -/
def Store.userByEmail (s : Store) (email : String) : Option User :=
  s.users.select fun u => u.email == email

/-- `u` is the account of `email`. -/
theorem Store.userByEmail_mem (h : s.userByEmail email = some u) : u ∈ s.users.rows ∧ u.email = email :=
  ⟨Table.mem_of_select h, by simpa using Table.prop_of_select h⟩

theorem Store.userByEmail_of_mem (h : u ∈ s.users.rows)
    (hmail : u.email = email) : s.userByEmail email = some u := by
  refine Table.select_eq_some h (by simpa using hmail) fun a ha => ?_
  have heq : a.email = u.email := (by simpa using ha : a.email = email).trans hmail.symm
  simp [Keyed.clash, Keyed.key, heq]

theorem Store.userByEmail_id
    (h : s.userByEmail email = some u) : s.users.select (fun a => a.id == u.id) = some u := by
  refine Table.select_eq_some (userByEmail_mem h).1 (by simp) fun a ha => ?_
  have hid : a.id = u.id := by simpa using ha
  simp [Keyed.clash, Keyed.key, hid]

/-- **An update of the account.** It returns the new row, which is the account from then on; the
accounts of the other addresses stay. -/
theorem updateUser_account (h : s.userByEmail email = some u)
    (now : Time) (f : User → User) (hf : ∀ u, Keyed.key (f u) = Keyed.key u) :
    (updateUser s.users now u.id f hf).1 = .ok { f u with updatedAt := now } ∧
      ∀ e, (updateUser s.users now u.id f hf).2.select (fun a => a.email == e) =
        if e = email then some { f u with updatedAt := now } else s.userByEmail e := by
  have hmail : ∀ a : User, (f a).email = a.email := fun a => congrArg (fun k => k.2.1) (hf a)
  constructor
  · unfold updateUser updateOne Table.returning
    rw [Store.userByEmail_id h]
    rfl
  · intro e
    -- the update keeps the address, so it commutes with the look-up
    have hcomm : (updateUser s.users now u.id f hf).2.select (fun a => a.email == e) =
        (s.userByEmail e).map fun a => if a.id == u.id then { f a with updatedAt := now } else a := by
      unfold Store.userByEmail Table.select
      show ((s.users.rows.map _).find? _) = _
      rw [List.find?_map]
      congr 2
      funext a
      simp only [Function.comp]
      split <;> simp [hmail]
    rw [hcomm]
    by_cases he : e = email
    · subst he
      rw [h, if_pos rfl]
      simp
    · rw [if_neg he]
      cases hb : s.userByEmail e with
      | none => rfl
      | some b =>
        have hne : b.id ≠ u.id := by
          intro hid
          have hbu := Store.user_eq (Store.userByEmail_mem hb).1 (Store.userByEmail_mem h).1 hid
          rw [hbu] at hb
          exact he ((Store.userByEmail_mem hb).2.symm.trans (Store.userByEmail_mem h).2)
        simp [hne]

/-! ### Calls at one instant -/

section Instant

variable {α : Type} {ds : ℕ → Draw} {w : World} {email : String} {s : Store}
  {p : Reaction × Lockout} {r : Verified × World}

theorem run_sql_instant (h : Instant ds) (q : Query) (k : Except DBError q.Row → Call α) :
    (Call.sql q k).run backend ds w =
      if (ds 0).fault then (k (.error .fault)).run backend (fun n => ds (n + 1)) w
      else
        (k (q.exec w.now (ds 0).uuid w.db).1).run backend (fun n => ds (n + 1))
          ⟨w.now, (q.exec w.now (ds 0).uuid w.db).2⟩ := by
  cases hf : (ds 0).fault with
  | true => rw [run_sql_fault q k hf, h 0, World.wait_zero, if_pos rfl]
  | false => rw [run_sql q k hf, h 0, World.wait_zero, if_neg Bool.false_ne_true]

theorem run_now_instant (h : Instant ds) (k : Time → Call α) :
    (Call.now k).run backend ds w = (k w.now).run backend (fun n => ds (n + 1)) w := by
  rw [run_now, h 0, World.wait_zero]

/-- The two worlds have the same time and the same users. -/
def SameUsers (w w' : World) : Prop := w'.now = w.now ∧ w'.db.users = w.db.users

/-- An audit event at the end of a call does not touch the users. -/
theorem logEvent_ret_run (h : Instant ds) (env : Env) (entry : AuditEntry) (a : α) :
    ∃ w', (env.logEvent entry (.ret a)).run backend ds w = (a, w') ∧ SameUsers w w' := by
  unfold Env.logEvent
  split
  · rw [run_sql_instant h]
    split
    · exact ⟨w, rfl, rfl, rfl⟩
    · exact ⟨_, rfl, rfl, rfl⟩
  · exact ⟨w, rfl, rfl, rfl⟩

/-- `r` is how a call ends that found the account `u` of `email` in the lockout state `l`: it
answers as the machine says and leaves the account in the machine's state. -/
structure Reacts (email : String) (u : User) (s : Store) (p : Reaction × Lockout)
    (r : Verified × World) : Prop where
  reaction : r.1.reaction = p.1
  account : ∃ u', r.2.db.userByEmail email = some u' ∧ u'.lockout = p.2 ∧
    u'.passwordHash = u.passwordHash
  others : ∀ e, e ≠ email → r.2.db.userByEmail e = s.userByEmail e

/-- The call ends as the machine says, or a statement fails and it is rejected in one of the states
of `interrupted`. -/
def Ends (ds : ℕ → Draw) (email : String) (u : User) (s : Store) (p : Reaction × Lockout)
    (interrupted : List Lockout) (r : Verified × World) : Prop :=
  Reacts email u s p r ∨ (¬ Sound ds ∧ ∃ l ∈ interrupted, Reacts email u s (.rejected, l) r)

theorem Ends.tail {u : User} {ls ls' : List Lockout} (hls : ∀ l ∈ ls, l ∈ ls')
    (h : Ends (fun n => ds (n + 1)) email u s p ls r) : Ends ds email u s p ls' r := by
  rcases h with h | ⟨hfault, l, hl, h⟩
  · exact Or.inl h
  · exact Or.inr ⟨fun hs => hfault hs.tail, l, hls l hl, h⟩

theorem Ends.fault {u : User} {ls : List Lockout} {l : Lockout} (hf : (ds 0).fault = true) (hl : l ∈ ls)
    (h : Reacts email u s (.rejected, l) r) : Ends ds email u s p ls r := by
  refine Or.inr ⟨fun hs => ?_, l, hl, h⟩
  rw [hs 0] at hf
  exact Bool.false_ne_true hf

end Instant

section Refinement

variable {env : Env} {email password sourceIP : String} {ds : ℕ → Draw} {w : World} {u u₀ : User}
  {s : Store}

/-- The account is `u`, and the other accounts are those of `s`. -/
structure Account (email : String) (u : User) (s : Store) (w : World) : Prop where
  self : w.db.userByEmail email = some u
  others : ∀ e, e ≠ email → w.db.userByEmail e = s.userByEmail e

theorem Account.sameUsers {w' : World} (h : Account email u s w) (hs : SameUsers w w') :
    Account email u s w' := by
  unfold SameUsers at hs
  refine ⟨?_, fun e he => ?_⟩
  · unfold Store.userByEmail
    rw [hs.2]
    exact h.self
  · unfold Store.userByEmail
    rw [hs.2]
    exact h.others e he

/-- The account after a statement that updates its row. -/
theorem Account.withUsers (h : Account email u s w) (f : User → User)
    (hf : ∀ u, Keyed.key (f u) = Keyed.key u) :
    ∃ db, w.db.withUsers (updateUser w.db.users w.now u.id f hf) = (.ok { f u with updatedAt := w.now }, db) ∧
      Account email { f u with updatedAt := w.now } s ⟨w.now, db⟩ := by
  obtain ⟨hok, hsel⟩ := updateUser_account h.self w.now f hf
  refine ⟨(w.db.withUsers (updateUser w.db.users w.now u.id f hf)).2, ?_, ?_, fun e he => ?_⟩
  · exact Prod.ext hok rfl
  · exact (hsel email).trans (if_pos rfl)
  · exact (hsel e).trans ((if_neg he).trans (h.others e he))

theorem Account.reacts (h : Account email u s w) {v : Verified} {p : Reaction × Lockout}
    (hv : v.reaction = p.1) (hl : u.lockout = p.2) (hp : u.passwordHash = u₀.passwordHash) :
    Reacts email u₀ s p (v, w) :=
  ⟨hv, ⟨u, h.self, hl, hp⟩, h.others⟩

/-- **The row of the call.** `a` is the row in the table and `u` is the row as the call read it:
they differ where the call has cleared an expired lock. -/
structure ReadAs (a u : User) : Prop where
  id : a.id = u.id
  passwordHash : a.passwordHash = u.passwordHash
  lockout : a.lockout = u.lockout.cleared

theorem withinWindow_none {env : Env} {u : User} (h : u.lastFailedLoginAt = none) (now : Time) :
    env.withinWindow u now = false := by
  unfold Env.withinWindow
  rw [h]

theorem withinWindow_some {env : Env} {u : User} {t : Time} (h : u.lastFailedLoginAt = some t)
    (now : Time) : env.withinWindow u now = decide (sub now t ≤ env.lockoutWindow) := by
  unfold Env.withinWindow
  rw [h]

theorem withinWindow_eq (env : Env) (u : User) (now : Time) :
    env.withinWindow u now = u.lockout.recent env now := by
  unfold Lockout.recent
  show _ = u.lastFailedLoginAt.any _
  rcases h : u.lastFailedLoginAt with _ | t
  · rw [withinWindow_none h, Option.any_none]
  · rw [withinWindow_some h, Option.any_some]

section Statements

variable {a : User} (fresh : UUID)

/-- The row with the lockout columns `l`, after a statement at `now`. -/
def User.withLockout (u : User) (l : Lockout) (now : Time) : User :=
  { u with
    failedLoginAttempts := l.attempts
    lastFailedLoginAt := l.lastFailed
    lockedUntil := l.lockedUntil
    updatedAt := now }

theorem exec_resetLoginAttempts (h : Account email a s w) :
    ∃ db, Query.exec (.resetLoginAttempts a.id) w.now fresh w.db = (.ok (a.withLockout .clear w.now), db) ∧
      Account email (a.withLockout .clear w.now) s ⟨w.now, db⟩ :=
  h.withUsers (fun b =>
    { b with failedLoginAttempts := 0, lastFailedLoginAt := none, lockedUntil := none }) fun _ => rfl

theorem exec_lockUserAccount (h : Account email a s w) (t : Time) :
    ∃ db, Query.exec (.lockUserAccount a.id t) w.now fresh w.db =
        (.ok (a.withLockout { a.lockout with lockedUntil := some t } w.now), db) ∧
      Account email (a.withLockout { a.lockout with lockedUntil := some t } w.now) s ⟨w.now, db⟩ :=
  h.withUsers (fun b => { b with lockedUntil := some t }) fun _ => rfl

theorem exec_updateLastLogin (h : Account email a s w) (t : Time) :
    ∃ db, Query.exec (.updateLastLogin a.id t) w.now fresh w.db =
        (.ok { a with lastLoginAt := t, updatedAt := w.now }, db) ∧
      Account email { a with lastLoginAt := t, updatedAt := w.now } s ⟨w.now, db⟩ :=
  h.withUsers (fun b => { b with lastLoginAt := t }) fun _ => rfl

/-- The guard of the increment looks at the one row with the id. -/
theorem increment_guard (h : Account email a s w) :
    (w.db.users.rows.any fun u => u.id == a.id && decide (maxInt32 ≤ u.failedLoginAttempts)) =
      decide (maxInt32 ≤ a.failedLoginAttempts) := by
  have hmem := (Store.userByEmail_mem h.self).1
  rw [Bool.eq_iff_iff, List.any_eq_true, decide_eq_true_iff]
  constructor
  · rintro ⟨b, hb, hguard⟩
    rw [Bool.and_eq_true, beq_iff_eq, decide_eq_true_iff] at hguard
    rw [← Store.user_eq hb hmem hguard.1]
    exact hguard.2
  · intro hmax
    exact ⟨a, hmem, by simpa using hmax⟩

theorem exec_increment (h : Account email a s w) (hmax : ¬ maxInt32 ≤ a.failedLoginAttempts) :
    ∃ db, Query.exec (.incrementFailedLoginAttempts a.id) w.now fresh w.db =
        (.ok (a.withLockout (a.lockout.count w.now) w.now), db) ∧
      Account email (a.withLockout (a.lockout.count w.now) w.now) s ⟨w.now, db⟩ := by
  have hguard := increment_guard h
  rw [decide_eq_false hmax] at hguard
  simp only [Query.exec, hguard, Bool.false_eq_true, if_false]
  exact h.withUsers (fun b => { b with
    failedLoginAttempts := b.failedLoginAttempts + 1
    lastFailedLoginAt := some w.now }) fun _ => rfl

theorem exec_increment_overflow (h : Account email a s w) (hmax : maxInt32 ≤ a.failedLoginAttempts) :
    Query.exec (.incrementFailedLoginAttempts a.id) w.now fresh w.db = (.error .dataException, w.db) := by
  have hguard := increment_guard h
  rw [decide_eq_true hmax] at hguard
  simp only [Query.exec, hguard, if_true]
  rfl

end Statements

/-! ### The call, part by part -/

section Parts

variable {a : User}

theorem lockAccount_at (env : Env) (sourceIP : String) (hds : Instant ds) (h : Account email a s w) (hid : a.id = u.id)
    {l : Lockout} (ha : a.lockout = l) (hp : a.passwordHash = u.passwordHash) :
    Ends ds email u s (.locked (add w.now env.lockoutDuration),
        { l with lockedUntil := some (add w.now env.lockoutDuration) }) [l]
      ((lockAccount env u email sourceIP).run backend ds w) := by
  unfold lockAccount
  rw [run_now_instant hds, run_sql_instant hds.tail, ← hid]
  refine Ends.tail (fun _ => id) ?_
  split
  · next hf => exact Ends.fault hf List.mem_cons_self (h.reacts rfl ha hp)
  · obtain ⟨db, hexec, hacc⟩ := exec_lockUserAccount (ds 1).uuid h (add w.now env.lockoutDuration)
    rw [hexec]
    obtain ⟨w', hrun, hsame⟩ := logEvent_ret_run (w := ⟨w.now, db⟩) hds.tail.tail env
      { eventType := .accountLocked, userID := some a.id, ipAddress := some sourceIP
        metadata := [("email", email)] } (Verified.locked (add w.now env.lockoutDuration))
    rw [hrun]
    refine Or.inl ((hacc.sameUsers hsame).reacts rfl ?_ hp)
    rw [← ha]
    rfl

theorem failedAttempt_at (hds : Instant ds) (h : Account email a s w) (hread : ReadAs a u) :
    Ends ds email u s (u.lockout.failure env w.now)
      (if maxInt32 ≤ u.lockout.cleared.attempts then [u.lockout.cleared]
        else [u.lockout.cleared, u.lockout.cleared.count w.now])
      ((failedAttempt env u email sourceIP).run backend ds w) := by
  unfold failedAttempt Lockout.failure
  rw [run_sql_instant hds, ← hread.id, ← hread.lockout]
  by_cases hf : (ds 0).fault = true
  · -- the increment fails
    rw [if_pos hf]
    refine Ends.fault hf (l := a.lockout) ?_ (h.reacts rfl rfl hread.passwordHash)
    split <;> exact List.mem_cons_self
  rw [if_neg hf]
  by_cases hmax : maxInt32 ≤ a.lockout.attempts
  · rw [exec_increment_overflow _ h hmax, if_pos hmax]
    exact Or.inl (Account.reacts ⟨h.self, h.others⟩ rfl rfl hread.passwordHash)
  · obtain ⟨db, hexec, hacc⟩ := exec_increment (ds 0).uuid h hmax
    rw [hexec, if_neg hmax, if_neg hmax]
    simp only
    rw [run_now_instant hds.tail, withinWindow_eq]
    -- the threshold is tested on the row in the table, the window on the row that was read
    have hthreshold : env.thresholdReached (a.withLockout (a.lockout.count w.now) w.now) =
      decide (env.cfg.lockout.maxAttempts.toInt ≤ (a.lockout.count w.now).attempts) := rfl
    rw [hthreshold]
    split
    · have hlock := lockAccount_at env sourceIP hds.tail.tail hacc hread.id rfl hread.passwordHash
      refine Ends.tail (fun _ => id) (Ends.tail (fun l hl => ?_) hlock)
      exact List.mem_cons_of_mem _ hl
    · obtain ⟨w', hrun, hsame⟩ := logEvent_ret_run (w := ⟨w.now, db⟩) hds.tail.tail env
        { eventType := .loginFailed, userID := some a.id, ipAddress := some sourceIP
          metadata := [("email", email)] } (Verified.failed .invalidCredentials)
      rw [hrun]
      exact Or.inl ((hacc.sameUsers hsame).reacts rfl rfl hread.passwordHash)

theorem successfulAttempt_at (hds : Instant ds) (h : Account email a s w) (hread : ReadAs a u) :
    Ends ds email u s (.accepted, .clear) [u.lockout.cleared, .clear]
      ((successfulAttempt u).run backend ds w) := by
  unfold successfulAttempt
  rw [run_sql_instant hds, ← hread.id]
  split
  · next hf =>
    exact Ends.fault hf List.mem_cons_self (h.reacts rfl hread.lockout hread.passwordHash)
  obtain ⟨db, hreset, hacc⟩ := exec_resetLoginAttempts (ds 0).uuid h
  rw [hreset]
  simp only
  rw [run_now_instant hds.tail, run_sql_instant hds.tail.tail]
  refine Ends.tail (fun _ => id) (Ends.tail (fun _ => id) ?_)
  split
  · next hf =>
    exact Ends.fault hf (l := .clear) (List.mem_cons_of_mem _ List.mem_cons_self)
      (hacc.reacts rfl rfl hread.passwordHash)
  · obtain ⟨db', hlogin, hacc'⟩ := exec_updateLastLogin (ds 2).uuid hacc w.now
    have hlogin' : Query.exec (.updateLastLogin a.id w.now) w.now (ds 2).uuid db = _ := hlogin
    rw [hlogin']
    exact Or.inl (hacc'.reacts rfl rfl hread.passwordHash)

theorem checkPassword_at (hds : Instant ds) (h : Account email a s w) (hread : ReadAs a u)
    (hopen : u.lockout.lockedAt? w.now = none) :
    Ends ds email u s (u.lockout.attempt env (env.passwordCheck password u.passwordHash) w.now)
      (u.lockout.interrupted (env.passwordCheck password u.passwordHash) w.now)
      ((checkPassword env u email password sourceIP).run backend ds w) := by
  unfold checkPassword Lockout.attempt Lockout.interrupted
  rw [hopen]
  cases hhash : u.passwordHash with
  | none => exact Or.inl (h.reacts rfl hread.lockout hread.passwordHash)
  | some hash =>
    unfold Env.passwordCheck
    simp only
    cases hv : verifyArgon2id env password hash with
    | error e => cases e <;> exact Or.inl (h.reacts rfl hread.lockout hread.passwordHash)
    | ok matched =>
      cases matched with
      | false => exact failedAttempt_at hds h hread
      | true => exact successfulAttempt_at hds h hread

end Parts

end Refinement

section Refinement

variable (env : Env) {email : String} (password sourceIP : String) {ds : ℕ → Draw} {w : World}
  {u : User}

theorem exec_getUserByEmailForAuth (hu : w.db.userByEmail email = some u) (fresh : UUID) :
    Query.exec (.getUserByEmailForAuth email) w.now fresh w.db = (.ok u, w.db) := by
  simp only [Query.exec, selectOne]
  unfold Store.userByEmail at hu
  rw [hu]

/-- **Refinement.** A call of `VerifyCredentials` at one instant, on the account `u` of its address,
that gets to the password check is one step of the machine, unless a later statement fails. -/
theorem verifyCredentials_reaches (hds : Instant ds) (hu : w.db.userByEmail email = some u)
    (hreach : u.lockout.reaches ds w.now = true) :
    u.lockout.lockedAt? w.now = none ∧ Ends ds email u w.db
        (u.lockout.attempt env (env.passwordCheck password u.passwordHash) w.now)
        (u.lockout.interrupted (env.passwordCheck password u.passwordHash) w.now)
        ((verifyCredentials env email password sourceIP).run backend ds w) := by
  have hself : Account email u w.db w := ⟨hu, fun _ _ => rfl⟩
  unfold Lockout.reaches at hreach
  rw [Bool.and_eq_true, Bool.not_eq_true'] at hreach
  obtain ⟨hread, hrest⟩ := hreach
  unfold verifyCredentials
  rw [run_sql_instant hds, exec_getUserByEmailForAuth hu, if_neg (by rw [hread]; exact Bool.false_ne_true)]
  simp only
  cases hl : u.lockedUntil with
  | none =>
    have hopen : u.lockout.lockedAt? w.now = none := by simp [Lockout.lockedAt?, User.lockout, hl]
    have hsame : u.lockout = u.lockout.cleared := by simp [Lockout.cleared, User.lockout, hl]
    exact ⟨hopen, Ends.tail (fun _ => id) (checkPassword_at hds.tail hself ⟨rfl, rfl, hsame⟩ hopen)⟩
  | some t =>
    -- the lock has expired, and it is cleared
    have hrest' : ¬ w.now < t ∧ (ds 2).fault = false := by
      simpa [User.lockout, hl] using hrest
    obtain ⟨hlt, hreset⟩ := hrest'
    have hopen : u.lockout.lockedAt? w.now = none := by
      simpa [Lockout.lockedAt?, User.lockout, hl] using hlt
    refine ⟨hopen, ?_⟩
    simp only
    rw [run_now_instant hds.tail]
    simp only [if_neg hlt]
    rw [run_sql_instant hds.tail.tail]
    refine Ends.tail (fun _ => id) (Ends.tail (fun _ => id) ?_)
    simp only [hreset, Bool.false_eq_true, if_false]
    obtain ⟨db, hexec, hacc⟩ := exec_resetLoginAttempts (ds 2).uuid hself
    rw [hexec]
    refine Ends.tail (fun _ => id) (checkPassword_at hds.tail.tail.tail hacc ⟨rfl, rfl, ?_⟩ hopen)
    simp [Lockout.cleared, User.lockout, hl, Lockout.clear, User.withLockout]

/-- A call that does not get to the password check changes no account. It reports a lock only if
there is one. -/
theorem verifyCredentials_stops (hds : Instant ds) (hu : w.db.userByEmail email = some u)
    (hstop : u.lockout.reaches ds w.now = false) :
    ∃ r, (∀ t, r = .locked t → u.lockout.lockedAt? w.now = some t) ∧ Reacts email u w.db (r, u.lockout)
        ((verifyCredentials env email password sourceIP).run backend ds w) := by
  have hself : Account email u w.db w := ⟨hu, fun _ _ => rfl⟩
  have hreject : Reacts email u w.db (.rejected, u.lockout)
      (.failed (.ofDB "getting user for auth" .fault), w) := hself.reacts rfl rfl rfl
  have hrejected : ∀ t, Reaction.rejected = .locked t → u.lockout.lockedAt? w.now = some t := by
    intro t ht
    cases ht
  unfold verifyCredentials
  rw [run_sql_instant hds, exec_getUserByEmailForAuth hu]
  by_cases hread : (ds 0).fault = true
  · rw [if_pos hread]
    exact ⟨.rejected, hrejected, hreject⟩
  rw [if_neg hread]
  simp only
  cases hl : u.lockedUntil with
  | none =>
    rw [Bool.not_eq_true] at hread
    simp [Lockout.reaches, hread, User.lockout, hl] at hstop
  | some t =>
    simp only
    rw [run_now_instant hds.tail]
    by_cases hlt : w.now < t
    · simp only [if_pos hlt]
      refine ⟨.locked t, fun t' ht' => ?_, hself.reacts rfl rfl rfl⟩
      obtain rfl := Reaction.locked.inj ht'
      simp [Lockout.lockedAt?, User.lockout, hl, hlt]
    · have hreset : (ds 2).fault = true := by
        rw [Bool.not_eq_true] at hread
        simpa [Lockout.reaches, hread, User.lockout, hl, hlt] using hstop
      simp only [if_neg hlt]
      rw [run_sql_instant hds.tail.tail]
      simp only [hreset, if_true]
      exact ⟨.rejected, hrejected, hself.reacts rfl rfl rfl⟩

/-- An address without an account: nothing happens. -/
theorem verifyCredentials_unknown (hds : Instant ds) (hu : w.db.userByEmail email = none) :
    ((verifyCredentials env email password sourceIP).run backend ds w).2 = w := by
  have hread : (Query.exec (.getUserByEmailForAuth email) w.now (ds 0).uuid w.db) =
      (.error .noRows, w.db) := by
    simp only [Query.exec, selectOne]
    unfold Store.userByEmail at hu
    rw [hu]
  unfold verifyCredentials
  rw [run_sql_instant hds, hread]
  split <;> rfl

end Refinement

end GoauthServer
