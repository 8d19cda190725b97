import GoauthServer.Safety.LockoutRace
import Mathlib.Data.Fintype.Basic

/-!
# A lock that is in force

`VerifyCredentials` reads the row of the user once, at its start. If the row has a lock that has expired,
the call clears the lockout columns with `ResetLoginAttempts`, whatever they are by then. So a call that
has read an expired lock lifts a lock that another call has set in the meantime
(`stale_reset_lifts_lock`). In the same way a call may overwrite a lock with one that ends earlier, since
it computes the end of its lock before it writes it.

`lock_is_kept` says that there is no other way. If, whenever a lock is set, no other call is on its way to
such a write (`LockAlone`), then the row stays locked until the lock ends, and a call that starts in the
meantime is refused after it has read the row and the clock.

The invariant `Kept` says of all calls at once what the condition says at one moment: while the lock is
in force no call is about to clear it, or to set one that ends earlier, and what a call has read of the
lock and not yet compared with the clock is not out of date.
-/

namespace GoauthServer

open Interact GoTime

/-! ### The text of a call -/

/-- The row that a call has read, if it has done nothing else. -/
def justRead? : Log effects → Option User
  | [⟨.sql (.getUserByEmailForAuth _), .ok r⟩] => some r
  | _ => none

/-- The row that a call has read, and the time it has seen then, if it has done nothing else. -/
def justLooked? : Log effects → Option (User × Time)
  | [⟨.now, now⟩, ⟨.sql (.getUserByEmailForAuth _), .ok r⟩] => some (r, now)
  | _ => none

/-- The call has got past the check of the lock: the row it has read has none, or it has just cleared it. -/
def PastLock (log : Log effects) (r : User) : Prop :=
  (justRead? log = some r ∧ r.lockedUntil = none) ∨
    ∃ id reply rest, log = ⟨.sql (.resetLoginAttempts id), reply⟩ :: rest

/-- The call has read a lock that had expired when it looked at the clock. -/
def SawExpired (log : Log effects) (r : User) : Prop :=
  ∃ t now, justLooked? log = some (r, now) ∧ r.lockedUntil = some t ∧ t ≤ now

/-- The requests of a call. -/
def attemptRequest (env : Env) (email : String) : Request → Log effects → Prop
  | .sql (.getUserByEmailForAuth e), log => e = email ∧ log = []
  | .sql (.resetLoginAttempts id), log =>
    ∃ r, authUser log = some r ∧ id = r.id ∧ (PastLock log r ∨ SawExpired log r)
  | .sql (.updateLastLogin id _), log => ∃ r, authUser log = some r ∧ id = r.id ∧ 2 < log.length
  | .sql (.incrementFailedLoginAttempts id), log => ∃ r, authUser log = some r ∧ id = r.id ∧ PastLock log r
  | .sql (.lockUserAccount id t), log =>
    ∃ r now rest, authUser log = some r ∧ id = r.id ∧ log = ⟨.now, now⟩ :: rest ∧ 2 ≤ rest.length ∧
      t = add now env.lockoutDuration
  | .sql (.createAuditLogEntry _), log => 2 < log.length
  | .now, log => ∃ r, authUser log = some r ∧ justLooked? log = none
  | _, _ => False

/-- The results of a call: it has read the row, and what it has seen of the lock decides. -/
structure AttemptResult (v : Verified) (log : Log effects) : Prop where
  started : log ≠ []
  unlocked : ∀ r, justRead? log = some r → r.lockedUntil = none
  locked : ∀ r now, justLooked? log = some (r, now) → ∃ t, r.lockedUntil = some t ∧ now < t ∧ v = .locked t

def attemptProtocol (env : Env) (email : String) : Protocol effects Verified :=
  ⟨attemptRequest env email, AttemptResult⟩

section Protocol

variable {env : Env} {email password sourceIP : String} {log : Log effects} {user : User}

theorem justRead?_of_length (h : 2 ≤ log.length) : justRead? log = none := by
  unfold justRead?
  split
  · simp at h
  · rfl

theorem justLooked?_of_length (h : 2 < log.length) : justLooked? log = none := by
  unfold justLooked?
  split
  · simp at h
  · rfl

/-- A call that has done more than to look at the lock. -/
theorem attemptResult_of_length {v : Verified} (h : 2 < log.length) : AttemptResult v log where
  started hnil := by
    rw [hnil] at h
    cases h
  unlocked r hread := by
    rw [justRead?_of_length h.le] at hread
    cases hread
  locked r now hlook := by
    rw [justLooked?_of_length h] at hlook
    cases hlook

theorem justLooked?_sql (q : Query) (reply : Except DBError q.Row) :
    justLooked? ((⟨.sql q, reply⟩ : Event effects) :: log) = none := by
  unfold justLooked?
  split
  · next h => cases h
  · rfl

/-- A statement after the row was read. -/
theorem attemptResult_sql {v : Verified} (q : Query) (reply : Except DBError q.Row) (h : log ≠ []) :
    AttemptResult v ((⟨.sql q, reply⟩ : Event effects) :: log) where
  started := List.cons_ne_nil _ _
  unlocked r hread := by
    have hlen : 2 ≤ ((⟨.sql q, reply⟩ : Event effects) :: log).length :=
      Nat.succ_le_succ (List.length_pos_iff.mpr h)
    rw [justRead?_of_length hlen] at hread
    cases hread
  locked r now hlook := by
    rw [justLooked?_sql] at hlook
    cases hlook

/-- The check of the lock is behind the call. -/
theorem PastLock.ne_nil (h : PastLock log user) : log ≠ [] := by
  rintro rfl
  rcases h with ⟨h, _⟩ | ⟨_, _, _, h⟩
  · cases h
  · cases h

theorem PastLock.not_looked (h : PastLock log user) : justLooked? log = none := by
  rcases h with ⟨h, _⟩ | ⟨id, reply, rest, rfl⟩
  · unfold justRead? at h
    split at h
    · rfl
    · cases h
  · exact justLooked?_sql _ reply

theorem PastLock.result (h : PastLock log user) (v : Verified) : AttemptResult v log where
  started := h.ne_nil
  unlocked r hread := by
    rcases h with ⟨hread', hnone⟩ | ⟨id, reply, rest, rfl⟩
    · obtain rfl := Option.some.inj (hread'.symm.trans hread)
      exact hnone
    · unfold justRead? at hread
      split at hread
      · next heq => cases heq
      · cases hread
  locked r now hlook := by
    rw [h.not_looked] at hlook
    cases hlook

theorem lockAccount_attempt (hread : authUser log = some user) (hlog : 2 < log.length) :
    (lockAccount env user email sourceIP).Obeys (attemptProtocol env email) log := by
  refine ⟨⟨user, hread, justLooked?_of_length hlog⟩, fun now => ?_⟩
  refine ⟨⟨user, now, log, hread, rfl, rfl, hlog.le, rfl⟩, ?_⟩
  rintro (e | _)
  · exact attemptResult_sql _ _ (List.cons_ne_nil _ _)
  · exact logEvent_obeys (by simp only [attemptProtocol, attemptRequest, List.length_cons]; omega)
      (attemptResult_sql _ _ (List.cons_ne_nil _ _))
      fun _ => attemptResult_sql _ _ (List.cons_ne_nil _ _)

theorem failedAttempt_attempt (hread : authUser log = some user) (hpast : PastLock log user) :
    (failedAttempt env user email sourceIP).Obeys (attemptProtocol env email) log := by
  have hlen : 0 < log.length := List.length_pos_iff.mpr hpast.ne_nil
  refine ⟨⟨user, hread, rfl, hpast⟩, ?_⟩
  rintro (e | updated)
  · exact attemptResult_sql _ _ hpast.ne_nil
  refine ⟨⟨user, hread, justLooked?_sql _ _⟩, fun now => ?_⟩
  have hlong : 2 < ((⟨.now, now⟩ : Event effects) ::
      ⟨.sql (.incrementFailedLoginAttempts user.id), .ok updated⟩ :: log).length := by
    simp only [List.length_cons]
    omega
  dsimp only
  split
  · exact lockAccount_attempt hread hlong
  · exact logEvent_obeys hlong (attemptResult_of_length hlong)
      fun _ => attemptResult_sql _ _ (List.cons_ne_nil _ _)

theorem successfulAttempt_attempt (hread : authUser log = some user) (hpast : PastLock log user) :
    (successfulAttempt user).Obeys (attemptProtocol env email) log := by
  have hlen : 0 < log.length := List.length_pos_iff.mpr hpast.ne_nil
  refine ⟨⟨user, hread, rfl, Or.inl hpast⟩, ?_⟩
  rintro (e | _)
  · exact attemptResult_sql _ _ hpast.ne_nil
  refine ⟨⟨user, hread, justLooked?_sql _ _⟩, fun now => ⟨⟨user, hread, rfl, ?_⟩, ?_⟩⟩
  · simp only [List.length_cons]
    omega
  · rintro (e | _) <;> exact attemptResult_sql _ _ (List.cons_ne_nil _ _)

theorem checkPassword_attempt (hread : authUser log = some user) (hpast : PastLock log user) :
    (checkPassword env user email password sourceIP).Obeys (attemptProtocol env email) log := by
  unfold checkPassword
  split
  · exact hpast.result _
  split
  · exact hpast.result _
  · exact hpast.result _
  · exact failedAttempt_attempt hread hpast
  · exact successfulAttempt_attempt hread hpast

theorem verifyCredentials_attempt (env : Env) (email password sourceIP : String) :
    (verifyCredentials env email password sourceIP).Obeys (attemptProtocol env email) [] := by
  refine ⟨⟨rfl, rfl⟩, ?_⟩
  rintro (e | user)
  · cases e <;> exact ⟨List.cons_ne_nil _ _, fun r h => (by cases h), fun r now h => (by cases h)⟩
  dsimp only
  split
  · next hnone => exact checkPassword_attempt rfl (Or.inl ⟨rfl, hnone⟩)
  next t ht =>
  refine ⟨⟨user, rfl, rfl⟩, fun now => ?_⟩
  dsimp only
  split
  · next hlt =>
    -- the account is locked
    refine ⟨List.cons_ne_nil _ _, fun r h => (by cases h), fun r now' hlook => ?_⟩
    obtain ⟨rfl, rfl⟩ := Prod.mk.inj (Option.some.inj hlook)
    exact ⟨t, ht, hlt, rfl⟩
  next hlt =>
  refine ⟨⟨user, rfl, rfl, Or.inr ⟨t, now, rfl, ht, not_lt.mp hlt⟩⟩, ?_⟩
  rintro (e | _)
  · exact attemptResult_sql _ _ (List.cons_ne_nil _ _)
  · exact checkPassword_attempt rfl (Or.inr ⟨_, _, _, rfl⟩)

end Protocol

/-! ### The row of the user -/

section Row

variable {env : Env} {email : String} {log : Log effects} {a : User} {q : Request} {d : Draw} {w : World}

/-- What a step does to the lock of the row `a`. -/
inductive LockStep (q : Request) (d : Draw) (a : User) : User → Prop
  | same (a' : User) (h : a'.lockedUntil = a.lockedUntil)
      (hlock : ∀ id t, q = .sql (.lockUserAccount id t) → d.fault = true) : LockStep q d a a'
  | cleared (a' : User) (id : UUID) (hq : q = .sql (.resetLoginAttempts id)) : LockStep q d a a'
  | set (a' : User) (id : UUID) (t : Time) (hq : q = .sql (.lockUserAccount id t))
      (hf : d.fault = false) (h : a'.lockedUntil = some t) : LockStep q d a a'

/-- **One request of a call.** -/
theorem attempt_row (ha : w.db.userByEmail email = some a) (hq : attemptRequest env email q log)
    (hreads : ∀ r, authUser log = some r → r.id = a.id) :
    ∃ a', (respond q d w).2.db.userByEmail email = some a' ∧ a'.id = a.id ∧ LockStep q d a a' := by
  have hacc : Account email a w.db (w.wait d.wait) := ⟨ha, fun _ _ => rfl⟩
  cases q with
  | sql q =>
    cases hf : d.fault with
    | true =>
      rw [respond_sql_fault q hf]
      exact ⟨a, ha, rfl, .same a rfl fun _ _ _ => hf⟩
    | false =>
      rw [respond_sql q hf]
      cases q with
      | getUserByEmailForAuth e => exact ⟨a, ha, rfl, .same a rfl nofun⟩
      | createAuditLogEntry e => exact ⟨a, ha, rfl, .same a rfl nofun⟩
      | resetLoginAttempts id =>
        obtain ⟨r, hr, rfl, _⟩ := hq
        rw [hreads r hr]
        obtain ⟨db, hexec, hacc'⟩ := exec_resetLoginAttempts d.uuid hacc
        have hrow := (congrArg (fun p => Store.userByEmail p.2 email) hexec).trans hacc'.self
        exact ⟨a.withLockout .clear (w.wait d.wait).now, hrow, rfl, .cleared _ _ rfl⟩
      | updateLastLogin id t =>
        obtain ⟨r, hr, rfl, _⟩ := hq
        rw [hreads r hr]
        obtain ⟨db, hexec, hacc'⟩ := exec_updateLastLogin d.uuid hacc t
        have hrow := (congrArg (fun p => Store.userByEmail p.2 email) hexec).trans hacc'.self
        exact ⟨{ a with lastLoginAt := t, updatedAt := (w.wait d.wait).now }, hrow, rfl,
          .same _ rfl nofun⟩
      | incrementFailedLoginAttempts id =>
        obtain ⟨r, hr, rfl, _⟩ := hq
        rw [hreads r hr]
        by_cases hmax : maxInt32 ≤ a.failedLoginAttempts
        · have hexec := exec_increment_overflow d.uuid hacc hmax
          exact ⟨a, (congrArg (fun p => Store.userByEmail p.2 email) hexec).trans ha, rfl,
            .same a rfl nofun⟩
        · obtain ⟨db, hexec, hacc'⟩ := exec_increment d.uuid hacc hmax
          have hrow := (congrArg (fun p => Store.userByEmail p.2 email) hexec).trans hacc'.self
          exact ⟨a.withLockout (a.lockout.count (w.wait d.wait).now) (w.wait d.wait).now, hrow, rfl,
            .same _ rfl nofun⟩
      | lockUserAccount id t =>
        obtain ⟨r, _, _, hr, rfl, _⟩ := hq
        rw [hreads r hr]
        obtain ⟨db, hexec, hacc'⟩ := exec_lockUserAccount d.uuid hacc t
        have hrow := (congrArg (fun p => Store.userByEmail p.2 email) hexec).trans hacc'.self
        exact ⟨a.withLockout { a.lockout with lockedUntil := some t } (w.wait d.wait).now, hrow, rfl,
          .set _ _ t rfl hf rfl⟩
      | _ => exact hq.elim
  | now => exact ⟨a, ha, rfl, .same a rfl nofun⟩
  | _ => exact hq.elim

end Row

/-! ### The run -/

section Run

variable {ι : Type}

/-- The statement that clears the lockout columns. -/
def Request.resets : Request → Bool
  | .sql (.resetLoginAttempts _) => true
  | _ => false

/-- The end of the lock that the statement sets. -/
def Request.locksUntil? : Request → Option Time
  | .sql (.lockUserAccount _ t) => some t
  | _ => none

/-- Call `j` is not on its way to lift a lock that ends at `t`, or to shorten it: it is not about to clear
the columns or to set a lock that ends before `t`, and it has not read a lock that ends before `t` which
it will compare with the clock. -/
structure Harmless (t : Time) (c : Pool backend ι Verified) (j : ι) : Prop where
  resets : ∀ q ∈ c.next? j, Request.resets q = false
  locks : ∀ t' ∈ (c.next? j).bind Request.locksUntil?, t ≤ t'
  reads : ∀ t' ∈ (justRead? (c.threads j).log).bind User.lockedUntil, t ≤ t'

/-- **The condition.** When a lock is set, every other call is harmless to it. -/
def LockAlone (c : Pool backend ι Verified) (i : ι) (d : Draw) : Prop :=
  ∀ t ∈ (c.next? i).bind Request.locksUntil?, d.fault = false → ∀ j, j ≠ i → Harmless t c j

/-- The step sets a lock that ends at `t`. -/
def SetsLock (t : Time) (c : Pool backend ι Verified) (i : ι) (d : Draw) : Prop :=
  (c.next? i).bind Request.locksUntil? = some t ∧ d.fault = false

instance (t : Time) (c : Pool backend ι Verified) (j : ι) : Decidable (Harmless t c j) :=
  have : Decidable (∀ q ∈ c.next? j, Request.resets q = false) := Option.decidableForallMem _
  have : Decidable (∀ t' ∈ (c.next? j).bind Request.locksUntil?, t ≤ t') := Option.decidableForallMem _
  have : Decidable (∀ t' ∈ (justRead? (c.threads j).log).bind User.lockedUntil, t ≤ t') :=
    Option.decidableForallMem _
  decidable_of_iff
    ((∀ q ∈ c.next? j, Request.resets q = false) ∧
      (∀ t' ∈ (c.next? j).bind Request.locksUntil?, t ≤ t') ∧
      ∀ t' ∈ (justRead? (c.threads j).log).bind User.lockedUntil, t ≤ t')
    ⟨fun h => ⟨h.1, h.2.1, h.2.2⟩, fun h => ⟨h.1, h.2, h.3⟩⟩

instance [Fintype ι] [DecidableEq ι] (c : Pool backend ι Verified) (i : ι) (d : Draw) :
    Decidable (LockAlone c i d) := Option.decidableForallMem _

instance (t : Time) (c : Pool backend ι Verified) (i : ι) (d : Draw) : Decidable (SetsLock t c i d) :=
  inferInstanceAs (Decidable (_ ∧ _))

/-- What the calls have read, and when they have looked at the clock. -/
structure Attempts (email : String) (id : UUID) (c : Pool backend ι Verified) : Prop where
  row : ∃ a, c.world.db.userByEmail email = some a ∧ a.id = id
  reads : ∀ i r, authUser (c.threads i).log = some r → r.id = id
  clocks : ∀ i, ∀ now ∈ clockReadings (c.threads i).log, now ≤ c.world.now

/-- Until the time `t` the row is locked, until `t` or later, and all calls are harmless. -/
def Kept (env : Env) (email : String) (t : Time) (c : Pool backend ι Verified) : Prop :=
  c.world.now < t → ∃ a t', c.world.db.userByEmail email = some a ∧ a.lockedUntil = some t' ∧ t ≤ t' ∧
    t' ≤ add c.world.now env.lockoutDuration ∧ ∀ j, Harmless t' c j

variable [DecidableEq ι] {env : Env} {email : String} {id : UUID} {c : Pool backend ι Verified} {i : ι}
  {d : Draw} {q : Request} {k : q.Reply → Call Verified} {t : Time} {log : Log effects} {r : User}
  {reply : q.Reply} {t' : Time}

/-- **One step**, with what it does to the lock. -/
theorem Attempts.step (h : Attempts email id c) (hi : (c.threads i).prog = .call q k)
    (hq : attemptRequest env email q (c.threads i).log) :
    Attempts email id (c.step i d) ∧ ∃ a a', c.world.db.userByEmail email = some a ∧
      (c.step i d).world.db.userByEmail email = some a' ∧ LockStep q d a a' := by
  obtain ⟨a, ha, rfl⟩ := h.row
  obtain ⟨a', ha', hid', hstep⟩ := attempt_row (d := d) ha hq (h.reads i)
  rw [← step_world hi] at ha'
  refine ⟨⟨⟨a', ha', hid'⟩, ?_, ?_⟩, a, a', ha, ha', hstep⟩
  · refine Pool.forall_log_step (J := fun _ log _ => ∀ r, authUser log = some r → r.id = a.id) hi ?_
      (fun _ _ h => h) h.reads
    intro hold r hr
    rcases authUser_respond hr with hr | ⟨e, rfl, hmem, hmail⟩
    · exact hold r hr
    · -- the row that is read is the row of the table
      have hra := Store.userByEmail_of_mem hmem (hmail.trans hq.1)
      rw [Option.some.inj (ha.symm.trans hra)]
  · refine Pool.forall_log_step (J := fun _ log (w : World) => ∀ now ∈ clockReadings log, now ≤ w.now)
      hi ?_ ?_ h.clocks
    · intro hold now hnow
      rcases clockReadings_respond hnow with hold' | ⟨rfl, rfl⟩
      · exact (hold now hold').trans (le_now_respond q d c.world)
      · exact le_refl _
    · exact fun j _ hold now hnow => (hold now hnow).trans (le_now_respond q d c.world)

/-- A call that has looked at the clock just now had read the row before. -/
theorem justRead?_of_justLooked? {now : Time} (h : justLooked? (⟨q, reply⟩ :: log) = some (r, now)) :
    (⟨q, reply⟩ : Event effects) = ⟨.now, now⟩ ∧ justRead? log = some r := by
  unfold justLooked? at h
  split at h
  · next heq =>
    obtain ⟨hhead, rfl⟩ := List.cons.inj heq
    obtain ⟨rfl, rfl⟩ := Prod.mk.inj (Option.some.inj h)
    exact ⟨hhead, rfl⟩
  · cases h

theorem event_of_justRead? (h : justRead? (⟨q, reply⟩ :: log) = some r) :
    ∃ e, (⟨q, reply⟩ : Event effects) = ⟨.sql (.getUserByEmailForAuth e), .ok r⟩ := by
  unfold justRead? at h
  split at h
  · next e r' heq =>
    obtain rfl := Option.some.inj h
    exact ⟨e, (List.cons.inj heq).1⟩
  · cases h

omit [DecidableEq ι] in
/-- A reading of the clock is the time of the step. -/
theorem now_of_event {now : Time} (h : (⟨q, (respond q d c.world).1⟩ : Event effects) = ⟨.now, now⟩) :
    now = (respond q d c.world).2.now := by
  obtain rfl : q = .now := congrArg Sigma.fst h
  exact (eq_of_heq (Sigma.mk.inj h).2).symm

/-- **The call that moves** is harmless to a lock in force, if what it had read of the lock, or reads now,
is not out of date. -/
theorem Harmless.moved (hi : (c.threads i).prog = .call q k)
    (hob : Pool.Obeys (fun _ => attemptProtocol env email) (c.step i d))
    (hq : q.resets = false) (hforce : (c.step i d).world.now < t')
    (hend : t' ≤ add (c.step i d).world.now env.lockoutDuration)
    (hold : ∀ s ∈ (justRead? (c.threads i).log).bind User.lockedUntil, t' ≤ s)
    (hnew : ∀ e r, (⟨q, (respond q d c.world).1⟩ : Event effects) =
      ⟨.sql (.getUserByEmailForAuth e), .ok r⟩ → ∃ s, r.lockedUntil = some s ∧ t' ≤ s) :
    Harmless t' (c.step i d) i where
  resets q' hnext := by
    by_contra hreset
    obtain ⟨k', hprog⟩ := Pool.call_of_next? hnext
    have hreq := hob.request hprog
    rw [step_log hi] at hreq
    cases q' with
    | sql q' =>
      cases q' with
      | resetLoginAttempts id =>
        obtain ⟨r, hr, _, (⟨hread, hnone⟩ | ⟨id', reply, rest, hlog⟩) | ⟨s, now, hlook, hs, hle⟩⟩ := hreq
        · -- the row it has read just now is locked
          obtain ⟨e, hevent⟩ := event_of_justRead? hread
          obtain ⟨s, hs, _⟩ := hnew e r hevent
          rw [hnone] at hs
          cases hs
        · -- it has not cleared the columns just now
          obtain rfl : q = .sql (.resetLoginAttempts id') := congrArg Sigma.fst (List.cons.inj hlog).1
          cases hq
        · -- the lock it had read is not over
          obtain ⟨hevent, hread⟩ := justRead?_of_justLooked? hlook
          have hlt := hold s (Option.bind_eq_some_iff.mpr ⟨r, hread, hs⟩)
          rw [now_of_event hevent, ← step_world hi] at hle
          exact absurd (hlt.trans hle) (not_le.mpr hforce)
      | _ => exact hreset rfl
    | _ => exact hreset rfl
  locks s hs := by
    obtain ⟨q', hnext, hlocks⟩ := Option.bind_eq_some_iff.mp hs
    obtain ⟨k', hprog⟩ := Pool.call_of_next? hnext
    have hreq := hob.request hprog
    rw [step_log hi] at hreq
    cases q' with
    | sql q' =>
      cases q' with
      | lockUserAccount id s' =>
        obtain rfl := Option.some.inj hlocks
        obtain ⟨_, now, rest, _, _, hlog, _, rfl⟩ := hreq
        rw [now_of_event (List.cons.inj hlog).1, ← step_world hi]
        exact hend
      | _ => cases hlocks
    | _ => cases hlocks
  reads s hs := by
    obtain ⟨r, hread, hlocked⟩ := Option.bind_eq_some_iff.mp hs
    rw [step_log hi] at hread
    obtain ⟨e, hevent⟩ := event_of_justRead? hread
    obtain ⟨s', hs', hle⟩ := hnew e r hevent
    rw [Option.some.inj (hlocked.symm.trans hs')]
    exact hle

/-- A call that does not move stays harmless. -/
theorem Harmless.other {j : ι} (hj : j ≠ i) (h : Harmless t' c j) : Harmless t' (c.step i d) j := by
  have hsame : (c.step i d).threads j = c.threads j := Pool.step_threads_of_ne hj
  have hnext : (c.step i d).next? j = c.next? j := by
    unfold Pool.next?
    rw [hsame]
  refine ⟨?_, ?_, ?_⟩
  · rw [hnext]
    exact h.resets
  · rw [hnext]
    exact h.locks
  · rw [hsame]
    exact h.reads

/-- The end of a lock that starts at the reading `now` of a clock that goes on. -/
theorem add_mono {now now' : Time} (h : now ≤ now') (dur : Duration) : add now dur ≤ add now' dur :=
  Int.add_le_add_right h _

omit [DecidableEq ι] in
/-- The lock that a step sets starts at a reading of the clock. -/
theorem lock_end_le (h : Attempts email id c) {id' : UUID} {s : Time}
    (hq : attemptRequest env email (.sql (.lockUserAccount id' s)) (c.threads i).log) :
    s ≤ add c.world.now env.lockoutDuration := by
  obtain ⟨_, now, rest, _, _, hlog, _, rfl⟩ := hq
  refine add_mono (h.clocks i now ?_) _
  rw [hlog]
  exact List.mem_cons_self

/-- **A lock that is set alone** is kept from then on. -/
theorem Kept.of_set (hat : Attempts email id c) (hob : Pool.Obeys (fun _ => attemptProtocol env email) c)
    (hset : SetsLock t c i d) (halone : LockAlone c i d) : Kept env email t (c.step i d) := by
  intro hforce
  obtain ⟨hlocks, hf⟩ := hset
  obtain ⟨q, hnext, hq⟩ := Option.bind_eq_some_iff.mp hlocks
  obtain ⟨k, hi⟩ := Pool.call_of_next? hnext
  have hreq := hob.request hi
  obtain ⟨_, a, a', _, ha', hstep⟩ := hat.step (d := d) hi hreq
  cases q with
  | sql q =>
    cases q with
    | lockUserAccount id' s =>
      obtain rfl := Option.some.inj hq
      have hlocked : a'.lockedUntil = some s := by
        cases hstep with
        | same _ hno =>
          rw [hno id' s rfl] at hf
          cases hf
        | cleared _ h => cases h
        | set _ _ h _ hlocked =>
          cases h
          exact hlocked
      have hend : s ≤ add (c.step i d).world.now env.lockoutDuration :=
        (lock_end_le hat hreq).trans (add_mono (le_now_step c i d) _)
      refine ⟨a', s, ha', hlocked, le_refl s, hend, fun j => ?_⟩
      by_cases hj : j = i
      · subst hj
        -- the call that has set the lock goes on with the audit log
        refine Harmless.moved hi (hob.step j d) rfl hforce hend ?_ ?_
        · obtain ⟨_, _, rest, _, _, hlog, hlen, _⟩ := hreq
          intro s' hs'
          have hlen' : 2 ≤ (c.threads j).log.length := by
            rw [hlog]
            exact Nat.le_succ_of_le hlen
          rw [justRead?_of_length hlen'] at hs'
          cases hs'
        · intro e r hevent
          cases congrArg Sigma.fst hevent
      · exact (halone s hlocks hf j hj).other hj
    | _ => cases hq
  | _ => cases hq

omit [DecidableEq ι] in
/-- A row that is read is the row of the table. -/
theorem read_row {a : User} {e : String} (ha : c.world.db.userByEmail email = some a)
    (hreq : attemptRequest env email q (c.threads i).log)
    (hevent : (⟨q, (respond q d c.world).1⟩ : Event effects) = ⟨.sql (.getUserByEmailForAuth e), .ok r⟩) :
    r = a := by
  obtain rfl : q = .sql (.getUserByEmailForAuth e) := congrArg Sigma.fst hevent
  have hreply := eq_of_heq (Sigma.mk.inj hevent).2
  obtain ⟨hmem, hmail⟩ := respond_getUserByEmailForAuth hreply
  have hra := Store.userByEmail_of_mem hmem (hmail.trans hreq.1)
  exact Option.some.inj (hra.symm.trans ha)

/-- **One step** while the lock is in force. -/
theorem Kept.step (h : Kept env email t c) (hat : Attempts email id c)
    (hob : Pool.Obeys (fun _ => attemptProtocol env email) c)
    (hi : (c.threads i).prog = .call q k) (halone : LockAlone c i d) :
    Kept env email t (c.step i d) := by
  intro hforce
  have hreq := hob.request hi
  have hle : c.world.now ≤ (c.step i d).world.now := le_now_step c i d
  obtain ⟨a, t', ha, hlocked, htt', hend, hharmless⟩ := h (lt_of_le_of_lt hle hforce)
  obtain ⟨_, b, a', hb, ha', hstep⟩ := hat.step (d := d) hi hreq
  obtain rfl := Option.some.inj (ha.symm.trans hb)
  have hresets : q.resets = false := (hharmless i).resets q (Pool.next?_of_call hi)
  cases hstep with
  | same hsame hno =>
    refine ⟨a', t', ha', hsame.trans hlocked, htt', hend.trans (add_mono hle _), fun j => ?_⟩
    by_cases hj : j = i
    · subst hj
      refine Harmless.moved hi (hob.step j d) hresets (lt_of_lt_of_le hforce htt')
        (hend.trans (add_mono hle _)) (hharmless j).reads ?_
      intro e r hevent
      rw [read_row ha hreq hevent]
      exact ⟨t', hlocked, le_refl t'⟩
    · exact (hharmless j).other hj
  | cleared id' hreset =>
    -- no call is about to clear the columns
    rw [hreset] at hresets
    cases hresets
  | set id' s hset hf hlocked' =>
    subst hset
    have hlocks : (c.next? i).bind Request.locksUntil? = some s := by
      rw [Pool.next?_of_call hi]
      rfl
    -- the new lock ends no earlier, and is kept for the same reasons
    have hlater : t' ≤ s := (hharmless i).locks s hlocks
    have hnew : Kept env email s (c.step i d) := Kept.of_set hat hob ⟨hlocks, hf⟩ halone
    obtain ⟨a'', s', ha'', hs', hss', hrest⟩ :=
      hnew (lt_of_lt_of_le hforce (htt'.trans hlater))
    exact ⟨a'', s', ha'', hs', htt'.trans (hlater.trans hss'), hrest⟩

/-! ### Calls that start while the lock is in force -/

/-- Call `j` has got no further than the check of the lock. -/
inductive ShutOut (email : String) (t : Time) : Log effects → Prop
  | waiting : ShutOut email t []
  | failed (e : DBError) : ShutOut email t [⟨.sql (.getUserByEmailForAuth email), .error e⟩]
  | read (r : User) (s : Time) (hs : r.lockedUntil = some s) (hle : t ≤ s) :
      ShutOut email t [⟨.sql (.getUserByEmailForAuth email), .ok r⟩]
  | refused (r : User) (s now : Time) (hs : r.lockedUntil = some s) (hle : t ≤ s) (hlt : now < s) :
      ShutOut email t [⟨.now, now⟩, ⟨.sql (.getUserByEmailForAuth email), .ok r⟩]

/-- The requests of a call that has done no more than two things. -/
theorem attemptRequest_short (hlog : log.length ≤ 2) (h : attemptRequest env email q log) :
    (q = .sql (.getUserByEmailForAuth email) ∧ log = []) ∨
      (∃ r, authUser log = some r ∧ q = .now ∧ justLooked? log = none) ∨
      ∃ r, authUser log = some r ∧ (PastLock log r ∨ SawExpired log r) := by
  cases q with
  | sql q =>
    cases q with
    | getUserByEmailForAuth e =>
      obtain ⟨rfl, hnil⟩ := h
      exact Or.inl ⟨rfl, hnil⟩
    | resetLoginAttempts id =>
      obtain ⟨r, hr, _, hpast⟩ := h
      exact Or.inr (Or.inr ⟨r, hr, hpast⟩)
    | incrementFailedLoginAttempts id =>
      obtain ⟨r, hr, _, hpast⟩ := h
      exact Or.inr (Or.inr ⟨r, hr, Or.inl hpast⟩)
    | updateLastLogin id t =>
      obtain ⟨_, _, _, hlen⟩ := h
      exact absurd hlen (not_lt.mpr hlog)
    | lockUserAccount id t =>
      obtain ⟨_, now, rest, _, _, rfl, hlen, _⟩ := h
      exact absurd (Nat.lt_succ_of_le hlen) (not_lt.mpr hlog)
    | createAuditLogEntry e => exact absurd h (not_lt.mpr hlog)
    | _ => exact h.elim
  | now =>
    obtain ⟨r, hr, hlook⟩ := h
    exact Or.inr (Or.inl ⟨r, hr, rfl, hlook⟩)
  | _ => exact h.elim

/-- What a call does next that has got no further. -/
theorem ShutOut.request (h : ShutOut email t log) (hreq : attemptRequest env email q log) :
    (q = .sql (.getUserByEmailForAuth email) ∧ log = []) ∨ q = .now ∧ ∃ r s, r.lockedUntil = some s ∧ t ≤ s ∧
        log = [⟨.sql (.getUserByEmailForAuth email), .ok r⟩] := by
  have hlen : log.length ≤ 2 := by
    cases h <;> simp
  rcases attemptRequest_short hlen hreq with hread | ⟨r', hr', rfl, hlook⟩ | ⟨r', hr', hpast⟩
  · exact Or.inl hread
  · cases h with
    | waiting => cases hr'
    | failed e => cases hr'
    | read r s hs hle => exact Or.inr ⟨rfl, r, s, hs, hle, rfl⟩
    | refused r s now hs hle hlt => cases hlook
  · cases h with
    | waiting => cases hr'
    | failed e => cases hr'
    | read r s hs hle =>
      rcases hpast with (⟨hread, hnone⟩ | ⟨_, _, _, hlog⟩) | ⟨_, _, hlook, _⟩
      · obtain rfl := Option.some.inj hread
        rw [hs] at hnone
        cases hnone
      · cases hlog
      · cases hlook
    | refused r s now hs hle hlt =>
      rcases hpast with (⟨hread, _⟩ | ⟨_, _, _, hlog⟩) | ⟨s', now', hlook, hs', hle'⟩
      · cases hread
      · cases hlog
      · obtain ⟨rfl, rfl⟩ := Prod.mk.inj (Option.some.inj hlook)
        obtain rfl := Option.some.inj (hs.symm.trans hs')
        exact absurd hlt (not_lt.mpr hle')

/-- **One step** of a call that has started while the lock is in force. -/
theorem ShutOut.step {j : ι} (h : ShutOut email t (c.threads j).log) (hkept : Kept env email t c)
    (hob : Pool.Obeys (fun _ => attemptProtocol env email) c) (hi : (c.threads i).prog = .call q k)
    (hforce : (c.step i d).world.now < t) : ShutOut email t ((c.step i d).threads j).log := by
  by_cases hj : j = i
  · subst hj
    have hreq : attemptRequest env email q (c.threads j).log := hob.request hi
    have hle : c.world.now ≤ (c.step j d).world.now := le_now_step c j d
    obtain ⟨a, t', ha, hlocked, htt', _, _⟩ := hkept (lt_of_le_of_lt hle hforce)
    rcases h.request hreq with ⟨rfl, hlog⟩ | ⟨rfl, r, s, hs, hts, hlog⟩
    · rw [step_log hi, hlog]
      cases hreply : (respond (.sql (.getUserByEmailForAuth email)) d c.world).1 with
      | error e => exact .failed e
      | ok r =>
        have hra : r = a := read_row (q := .sql (.getUserByEmailForAuth email)) (d := d) ha hreq
          (by rw [hreply])
        exact .read r t' (hra ▸ hlocked) htt'
    · -- the time that it sees is before the end of the lock
      rw [step_world hi] at hforce
      rw [step_log hi, hlog]
      exact .refused r s _ hs hts (lt_of_lt_of_le hforce hts)
  · rw [Pool.step_threads_of_ne hj]
    exact h

/-- The result of a call that has got no further. -/
theorem ShutOut.result {v : Verified} (h : ShutOut email t log) (hres : AttemptResult v log) :
    (∃ s, t ≤ s ∧ v = .locked s ∧ log.length = 2) ∨
      ∃ e, log = [⟨.sql (.getUserByEmailForAuth email), .error e⟩] := by
  cases h with
  | waiting => exact absurd rfl hres.started
  | failed e => exact Or.inr ⟨e, rfl⟩
  | read r s hs hle =>
    have hnone := hres.unlocked r rfl
    rw [hs] at hnone
    cases hnone
  | refused r s now hs hle hlt =>
    obtain ⟨s', hs', _, hv⟩ := hres.locked r now rfl
    obtain rfl := Option.some.inj (hs.symm.trans hs')
    exact Or.inl ⟨s, hle, hv, rfl⟩

/-! ### Whole runs -/

omit [DecidableEq ι] in
theorem attempts_start {w : World} {u : User} {password sourceIP : ι → String}
    (hu : w.db.userByEmail email = some u) :
    Attempts email u.id (guesses env email password sourceIP w) :=
  ⟨⟨u, hu, rfl⟩, fun _ _ h => (by cases h), fun _ _ h => (by cases h)⟩

omit [DecidableEq ι] in
theorem attempts_obey (env : Env) (email : String) (password sourceIP : ι → String) (w : World) :
    Pool.Obeys (fun _ => attemptProtocol env email) (guesses env email password sourceIP w) :=
  fun i => verifyCredentials_attempt env email (password i) (sourceIP i)

/-- The step ends before `t`. -/
def EndsBefore (t : Time) (c : Pool backend ι Verified) (i : ι) (d : Draw) : Prop :=
  (c.step i d).world.now < t

/-- All steps end before the last one does. -/
theorem endsBefore_along {schedule : List (ι × Draw)} (h : (c.run schedule).world.now < t) :
    Pool.Along (EndsBefore t) c schedule := by
  induction schedule generalizing c with
  | nil => trivial
  | cons l ls ih =>
    exact ⟨lt_of_le_of_lt (le_now_run (c.step l.1 l.2) ls) h, ih h⟩

/-- **A lock is kept.** `VerifyCredentials` calls for one user, with any passwords, in any interleaving in
which a lock is only set while the other calls are harmless to it. Once a step has set a lock until `t`,
the row is locked until `t`, or later, at all times before `t`; and a call that had not started then, and
has finished by such a time, has returned `ErrAccountLocked` after it had read the row and the clock, or
could not read the row. -/
theorem lock_is_kept {w : World} {u : User} (password sourceIP : ι → String)
    (hu : w.db.userByEmail email = some u) {before after : List (ι × Draw)}
    (halone : Pool.Along LockAlone (guesses env email password sourceIP w) (before ++ (i, d) :: after))
    (hset : SetsLock t ((guesses env email password sourceIP w).run before) i d)
    (hforce : ((guesses env email password sourceIP w).run (before ++ (i, d) :: after)).world.now < t) :
    (∃ t', t ≤ t' ∧ ((guesses env email password sourceIP w).run
        (before ++ (i, d) :: after)).world.db.lockedUntil? email = some t') ∧
      ∀ j v, (((guesses env email password sourceIP w).run (before ++ [(i, d)])).threads j).log = [] →
        ((guesses env email password sourceIP w).run (before ++ (i, d) :: after)).result? j = some v →
        (∃ t', t ≤ t' ∧ v = .locked t' ∧ (((guesses env email password sourceIP w).run
          (before ++ (i, d) :: after)).threads j).log.length = 2) ∨
        ∃ e, (((guesses env email password sourceIP w).run (before ++ (i, d) :: after)).threads j).log =
          [⟨.sql (.getUserByEmailForAuth email), .error e⟩] := by
  have hob := attempts_obey env email password sourceIP w
  have hstart : Attempts email u.id (guesses env email password sourceIP w) := attempts_start hu
  generalize guesses env email password sourceIP w = c₀ at *
  obtain ⟨hbefore, hone, hafter⟩ := Pool.along_append.mp halone
  have hat : Attempts email u.id (c₀.run before) :=
    Pool.invariant_of_step (fun c i d q k hi hq h => (h.step hi hq).1) hob hstart before
  have hob' := hob.run before
  rw [Pool.run_append, Pool.run_cons] at hforce ⊢
  rw [Pool.run_append, Pool.run_cons, Pool.run_nil]
  generalize c₀.run before = c at *
  -- the step that sets the lock
  obtain ⟨q, hnext, _⟩ := Option.bind_eq_some_iff.mp hset.1
  obtain ⟨k, hi⟩ := Pool.call_of_next? hnext
  have hat' : Attempts email u.id (c.step i d) := (hat.step hi (hob'.request hi)).1
  have hkept : Kept env email t (c.step i d) := Kept.of_set hat hob' hset hone
  have hob'' := hob'.step i d
  generalize c.step i d = c₁ at *
  -- the rest of the run
  have hrun : ∀ P : Pool backend ι Verified → Prop, P c₁ →
      (∀ c i d q k, (c.threads i).prog = .call q k → Pool.Obeys (fun _ => attemptProtocol env email) c →
        Kept env email t c → EndsBefore t c i d → P c → P (c.step i d)) →
      (Kept env email t (c₁.run after) ∧ P (c₁.run after)) := by
    intro P hP hstep
    have hinv := Pool.invariant (P := fun _ => attemptProtocol env email)
      (I := fun c => Pool.Obeys (fun _ => attemptProtocol env email) c ∧ Attempts email u.id c ∧
        Kept env email t c ∧ P c)
      (fun c i d q k hi hq hC hI => ⟨hI.1.step i d, (hI.2.1.step hi hq).1,
        hI.2.2.1.step hI.2.1 hI.1 hi hC.1, hstep c i d q k hi hI.1 hI.2.2.1 hC.2 hI.2.2.2⟩)
      hob'' ⟨hob'', hat', hkept, hP⟩ (hafter.and (endsBefore_along hforce))
    exact hinv.2.2
  constructor
  · obtain ⟨a, t', ha, hlocked, hle, _⟩ := (hrun (fun _ => True) trivial fun _ _ _ _ _ _ _ _ _ _ => trivial).1
      hforce
    refine ⟨t', hle, ?_⟩
    unfold Store.lockedUntil?
    rw [ha]
    exact hlocked
  · intro j v hnew hv
    have hout := (hrun (fun c => ShutOut email t (c.threads j).log) (hnew ▸ .waiting)
      fun c i d q k hi hob hkept hend h => h.step hkept hob hi hend).2
    exact hout.result ((hob''.run after).result hv)

end Run

section Examples

open Deployment

/-- `ann` was locked until time 0. -/
def onceLockedStore : Store :=
  { store with
    users := ⟨[{ ann with lockedUntil := some 0, lastFailedLoginAt := some 0 }], List.pairwise_singleton _ _⟩ }

/-- Three calls with wrong passwords for `ann`, at time 0. -/
def strictGuesses : Pool backend (Fin 3) Verified :=
  guesses strictEnv "ann@example.com" (fun _ => "wrong") (fun _ => "10.0.0.1") ⟨0, onceLockedStore⟩

/-- Call 1 locks the account, and call 2 is refused. -/
theorem lock_is_kept_ann :
    ∃ t, 900000000000 ≤ t ∧ (strictGuesses.run (guessTurns 6 1 ++ (1, draw 7 20) ::
      guessTurns 2 2)).world.db.lockedUntil? "ann@example.com" = some t := by
  refine (lock_is_kept (w := ⟨0, onceLockedStore⟩) (t := 900000000000) (i := (1 : Fin 3)) (d := draw 7 20)
    (fun _ => "wrong") (fun _ => "10.0.0.1") (u := { ann with lockedUntil := some 0, lastFailedLoginAt := some 0 })
    rfl ?_ ?_ ?_).1
  · decide +kernel
  · decide +kernel
  · decide +kernel

/-- **The flaw.** Call 0 has read the expired lock and looked at the clock, when call 1 fails and locks the
account until 900 s. Then call 0 clears the lockout columns, and call 2, which starts after that, has its
password checked: all at time 0. -/
theorem stale_reset_lifts_lock :
    SetsLock 900000000000 (strictGuesses.run (guessTurns 2 0 ++ guessTurns 6 1)) 1 (draw 7 20) ∧
      (strictGuesses.run (guessTurns 2 0 ++ guessTurns 7 1)).world.db.lockedUntil? "ann@example.com" =
        some 900000000000 ∧
      (strictGuesses.run (guessTurns 2 0 ++ guessTurns 7 1 ++ guessTurns 1 0)).world.db.lockedUntil?
        "ann@example.com" = none ∧
      ((strictGuesses.run (guessTurns 2 0 ++ guessTurns 7 1 ++ guessTurns 1 0)).threads 2).log = [] ∧
      (strictGuesses.run (guessTurns 2 0 ++ guessTurns 7 1 ++ guessTurns 1 0 ++ guessTurns 3 2)).result? 2 =
        some (.failed .invalidCredentials) ∧
      (strictGuesses.run (guessTurns 2 0 ++ guessTurns 7 1 ++ guessTurns 1 0 ++ guessTurns 3 2)).world.now =
        0 := by
  decide +kernel

end Examples

end GoauthServer
