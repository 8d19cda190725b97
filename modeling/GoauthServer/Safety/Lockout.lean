import GoauthServer.Service.Deployment
import GoauthServer.Spec.Lockout
import Mathlib.Data.List.Induction

/-!
# The lockout policy, call after call

Sequential runs of `VerifyCredentials`, each call at one instant.

*Completeness.* `MaxAttempts` wrong passwords within the window should lock the account.
`nth_failure_locks_iff` says exactly when they do. The window test looks at the last failure before
the call, so there has to be one: with a threshold of one, the first failure of a fresh account never
locks it (`first_failure_does_not_lock`). The other two conditions are about the width of numbers: the
counter is a 32-bit column, and a duration in seconds is multiplied into 64 bits.

*Soundness.* An account should be locked only for `MaxAttempts` failures inside the window. The
counter is never reset by the passing of time, and the window test looks at the last failure only, so
old failures do count (`lock_counts_old_failures`). `lock_sound` says when they do not: if the
failures that the counter stands for are all inside the window.
-/

namespace GoauthServer

open Interact GoTime

/-- One call of `VerifyCredentials`. -/
structure Guess where
  time : Time
  email : String
  password : String
  sourceIP : String
  draws : ℕ → Draw

/-- The answer of the call, and the database after it. -/
def Guess.on (g : Guess) (env : Env) (s : Store) : Verified × Store :=
  let r := (verifyCredentials env g.email g.password g.sourceIP).run backend g.draws ⟨g.time, s⟩
  (r.1, r.2.db)

/-- The database after a run of calls. -/
def guessAll (env : Env) (s : Store) (gs : List Guess) : Store :=
  gs.foldl (fun s g => (g.on env s).2) s

theorem guessAll_append (env : Env) (s : Store) (gs gs' : List Guess) :
    guessAll env s (gs ++ gs') = guessAll env (guessAll env s gs) gs' := List.foldl_append

/-- The end of the lock of an account. -/
def Store.lockedUntil? (s : Store) (email : String) : Option Time :=
  (s.userByEmail email).bind User.lockedUntil

/-! ### Wrong passwords, one after the other -/

/-- What holds of the first call of a run holds of the first call of a part of it. -/
theorem head_of_append {α : Type} {P : α → Prop} {as bs : List α}
    (h : ∀ a ∈ (as ++ bs).head?, P a) : ∀ a ∈ as.head?, P a := by
  cases as with
  | nil =>
    intro a ha
    cases ha
  | cons b as => exact h

namespace Lockout

variable {env : Env} {l : Lockout} {now : Time}

@[simp] theorem cleared_lockedUntil (l : Lockout) : l.cleared.lockedUntil = none := by
  unfold cleared
  split
  · rfl
  · next h => simpa using h

theorem cleared_eq_self (h : l.lockedUntil = none) : l.cleared = l := by
  simp [cleared, h]

theorem lockedAt?_eq_none (h : l.lockedUntil = none) (now : Time) : l.lockedAt? now = none := by
  simp [lockedAt?, h]

theorem attempt_wrong (h : l.lockedAt? now = none) : l.attempt env .wrong now = l.failure env now := by
  unfold attempt
  rw [h]

/-- Wrong passwords at the times `ts`. -/
def guesses (env : Env) (l : Lockout) (ts : List Time) : Lockout :=
  ts.foldl (fun l t => (l.attempt env .wrong t).2) l

theorem guesses_snoc (ts : List Time) (t : Time) :
    guesses env l (ts ++ [t]) = ((guesses env l ts).attempt env .wrong t).2 := by
  unfold guesses
  rw [List.foldl_append]
  rfl

/-- The machine after `n` failures that did not lock the account, the last of them at `last`. -/
structure Counting (l : Lockout) (n : ℕ) (last : Option Time) : Prop where
  attempts : l.cleared.attempts = min (n : ℤ) maxInt32
  lastFailed : (n : ℤ) ≤ maxInt32 → l.lastFailed = last

/-- **One more failure**, below the threshold. -/
theorem Counting.failure {n : ℕ} {last : Option Time} (h : Counting l n last) (now : Time)
    (hn : (n : ℤ) + 1 < env.cfg.lockout.maxAttempts.toInt) :
    Counting (l.failure env now).2 (n + 1) (some now) ∧ (l.failure env now).2.lockedUntil = none := by
  have hattempts := h.attempts
  unfold Lockout.failure
  by_cases hmax : maxInt32 ≤ l.cleared.attempts
  · -- the counter stays at its largest value
    rw [if_pos hmax]
    have hclear : l.cleared.cleared = l.cleared := cleared_eq_self (cleared_lockedUntil l)
    refine ⟨⟨?_, fun hle => ?_⟩, cleared_lockedUntil l⟩
    · rw [hclear]
      push_cast
      omega
    · push_cast at hle
      omega
  · rw [if_neg hmax]
    have hcount : (l.cleared.count now).attempts = n + 1 := by
      show l.cleared.attempts + 1 = n + 1
      omega
    have hbelow : ¬ env.cfg.lockout.maxAttempts.toInt ≤ (l.cleared.count now).attempts := by
      rw [hcount]
      omega
    simp only [decide_eq_false hbelow, Bool.false_and, Bool.false_eq_true, if_false]
    have hnone : (l.cleared.count now).lockedUntil = none := cleared_lockedUntil l
    refine ⟨⟨?_, fun _ => rfl⟩, hnone⟩
    rw [cleared_eq_self hnone, hcount]
    push_cast
    omega

theorem recent_iff : l.recent env now = true ↔ ∃ t ∈ l.lastFailed, sub now t ≤ env.lockoutWindow := by
  unfold recent
  rcases l.lastFailed with _ | last
  · rw [Option.any_none]
    exact ⟨fun h => absurd h Bool.false_ne_true, fun ⟨_, ht, _⟩ => by cases ht⟩
  · rw [Option.any_some, decide_eq_true_iff]
    refine ⟨fun h => ⟨last, rfl, h⟩, fun ⟨t, ht, h⟩ => ?_⟩
    rw [Option.some.inj ht]
    exact h

/-- **The failure that reaches the threshold.** -/
theorem Counting.failure_locks_iff {n : ℕ} {last : Option Time} (h : Counting l n last)
    (hn : (n : ℤ) + 1 = env.cfg.lockout.maxAttempts.toInt) {t : Time} :
    ((l.failure env now).1 = .locked t ∧ (l.failure env now).2.lockedUntil = some t) ↔
      env.cfg.lockout.maxAttempts.toInt ≤ maxInt32 ∧
        (∃ t ∈ last, sub now t ≤ env.lockoutWindow) ∧ t = add now env.lockoutDuration := by
  have hattempts := h.attempts
  unfold Lockout.failure
  by_cases hmax : maxInt32 ≤ l.cleared.attempts
  · rw [if_pos hmax]
    constructor
    · rintro ⟨hlocked, _⟩
      cases hlocked
    · rintro ⟨hle, _⟩
      omega
  · rw [if_neg hmax]
    have hthreshold : env.cfg.lockout.maxAttempts.toInt ≤ (l.cleared.count now).attempts := by
      show _ ≤ l.cleared.attempts + 1
      omega
    have hrecent : l.recent env now = true ↔ ∃ t ∈ last, sub now t ≤ env.lockoutWindow := by
      rw [← h.lastFailed (by omega)]
      exact recent_iff
    simp only [decide_eq_true hthreshold, Bool.true_and]
    split
    · next hyes =>
      have hle : env.cfg.lockout.maxAttempts.toInt ≤ maxInt32 := by omega
      simp only [Reaction.locked.injEq, Option.some.injEq, and_self, hle, hrecent.mp hyes, true_and]
      exact eq_comm
    · next hno =>
      constructor
      · rintro ⟨hlocked, _⟩
        cases hlocked
      · rintro ⟨_, hlast, _⟩
        exact absurd (hrecent.mpr hlast) hno

/-- **Fewer failures than the threshold** do not lock the account. -/
theorem counting_guesses (env : Env) (hzero : l.attempts = 0) (ts : List Time)
    (hopen : ∀ t ∈ ts.head?, l.lockedAt? t = none)
    (hlen : (ts.length : ℤ) < env.cfg.lockout.maxAttempts.toInt) :
    Counting (guesses env l ts) ts.length (ts.getLast?.or l.lastFailed) ∧
      (ts ≠ [] → (guesses env l ts).lockedUntil = none) := by
  induction ts using List.reverseRecOn with
  | nil =>
    refine ⟨⟨?_, fun _ => rfl⟩, fun h => absurd rfl h⟩
    have hcleared : l.cleared.attempts = 0 := by
      unfold cleared
      split
      · rfl
      · exact hzero
    show l.cleared.attempts = _
    rw [hcleared]
    decide
  | append_singleton ts t ih =>
    rw [List.length_append, List.length_singleton] at hlen
    push_cast at hlen
    have hopen' : ∀ t ∈ ts.head?, l.lockedAt? t = none := head_of_append hopen
    obtain ⟨hcount, hnone⟩ := ih hopen' (by omega)
    -- the account is open: it was at the start, and no failure has locked it
    have hnow : (guesses env l ts).lockedAt? t = none := by
      by_cases hts : ts = []
      · subst hts
        exact hopen t rfl
      · exact lockedAt?_eq_none (hnone hts) t
    rw [guesses_snoc, attempt_wrong hnow]
    have hstep := hcount.failure t (by omega)
    refine ⟨?_, fun _ => hstep.2⟩
    simpa using hstep.1

end Lockout

/-! ### Completeness -/

section Complete

variable {env : Env} {email : String} {s : Store} {u : User}

theorem Verified.reaction_eq_locked {v : Verified} {t : Time} : v.reaction = .locked t ↔ v = .locked t := by
  cases v <;> simp [Verified.reaction]

/-- A call for `email` at one instant, without faults, with a wrong password. -/
structure Guess.Wrong (env : Env) (email : String) (u : User) (g : Guess) : Prop where
  email : g.email = email
  instant : Instant g.draws
  sound : Sound g.draws
  wrong : env.passwordCheck g.password u.passwordHash = .wrong

/-- Without faults, a call on an open account gets to the password check. -/
theorem Lockout.reaches_of_sound {l : Lockout} {ds : ℕ → Draw} {now : Time} (hs : Sound ds)
    (hopen : l.lockedAt? now = none) : l.reaches ds now = true := by
  unfold reaches
  rw [hs 0]
  cases hl : l.lockedUntil with
  | none => rfl
  | some t =>
    have hlt : ¬ now < t := by simpa [lockedAt?, hl] using hopen
    simp [hs 2, hlt]

/-- One wrong password is one step of the machine. -/
theorem Guess.Wrong.reacts {g : Guess} (hg : g.Wrong env email u) {a : User}
    (ha : s.userByEmail email = some a) (hp : a.passwordHash = u.passwordHash)
    (hopen : a.lockout.lockedAt? g.time = none) :
    Reacts email a s (a.lockout.failure env g.time) ((g.on env s).1, ⟨g.time, (g.on env s).2⟩) := by
  obtain ⟨rfl, hinst, hsound, hwrong⟩ := hg
  have hreach := Lockout.reaches_of_sound hsound hopen
  obtain ⟨_, hends⟩ := verifyCredentials_reaches env g.password g.sourceIP (w := ⟨g.time, s⟩) hinst ha hreach
  rw [hp, hwrong, Lockout.attempt_wrong hopen] at hends
  rcases hends with hr | ⟨hfault, _⟩
  · exact ⟨hr.reaction, hr.account, hr.others⟩
  · exact absurd hsound hfault

/-- **Fewer wrong passwords than the threshold**: the account is where the machine is. -/
theorem guessAll_wrong (hu : s.userByEmail email = some u) (hzero : u.failedLoginAttempts = 0)
    {gs : List Guess} (hgs : ∀ g ∈ gs, g.Wrong env email u)
    (hopen : ∀ g ∈ gs.head?, u.lockout.lockedAt? g.time = none)
    (hlen : (gs.length : ℤ) < env.cfg.lockout.maxAttempts.toInt) :
    ∃ a, (guessAll env s gs).userByEmail email = some a ∧ a.passwordHash = u.passwordHash ∧
      a.lockout = Lockout.guesses env u.lockout (gs.map Guess.time) := by
  induction gs using List.reverseRecOn with
  | nil => exact ⟨u, hu, rfl, rfl⟩
  | append_singleton gs g ih =>
    have hopen' : ∀ g ∈ gs.head?, u.lockout.lockedAt? g.time = none := head_of_append hopen
    rw [List.length_append, List.length_singleton] at hlen
    push_cast at hlen
    obtain ⟨a, ha, hp, hlock⟩ := ih (fun g' hg' => hgs g' (List.mem_append_left _ hg')) hopen' (by omega)
    have hcount := Lockout.counting_guesses (l := u.lockout) env hzero
      (gs.map Guess.time) (by simpa using hopen') (by simpa using by omega)
    have hnow : a.lockout.lockedAt? g.time = none := by
      rw [hlock]
      by_cases hnil : gs = []
      · subst hnil
        exact hopen g rfl
      · exact Lockout.lockedAt?_eq_none (hcount.2 (by simpa using hnil)) g.time
    have hr := (hgs g (List.mem_append_right _ (List.mem_singleton_self g))).reacts ha hp hnow
    obtain ⟨a', ha', hlock', hp'⟩ := hr.account
    refine ⟨a', ?_, hp'.trans hp, ?_⟩
    · rw [guessAll_append]
      exact ha'
    · rw [hlock', List.map_append, List.map_singleton, Lockout.guesses_snoc, ← hlock,
        Lockout.attempt_wrong hnow]

/-- The configured duration, as Go computes it, is the configured number of seconds exactly if that
number of nanoseconds fits in 64 bits. -/
theorem lockoutDuration_toInt_iff (hcfg : env.cfg.lockout.Accepted) :
    env.lockoutDuration.toInt = env.cfg.lockout.durationSeconds.toInt * 10 ^ 9 ↔
      env.cfg.lockout.durationSeconds.toInt * 10 ^ 9 ≤ 2 ^ 63 - 1 := by
  have hpos := Int64.lt_iff_toInt_lt.mp hcfg.durationSeconds_pos
  have hsecond : second.toInt = 10 ^ 9 := by decide
  constructor
  · intro h
    rw [← h]
    exact toInt_le_max _
  · intro h
    unfold Env.lockoutDuration
    rw [toInt_mul_of_le, hsecond]
    · rw [hsecond]
      rw [Int64.toInt_zero] at hpos
      omega
    · rw [hsecond]
      exact h

/-- The last failure before the last call: of the calls before it, or from before the run. -/
def lastFailure (u : User) (gs : List Guess) : Option Time :=
  (gs.map Guess.time).getLast?.or u.lastFailedLoginAt

/-- **When the threshold locks the account.** After a zeroed counter, `MaxAttempts` wrong passwords
in a row lock the account for the configured time exactly if the counter can hold the threshold, the
duration fits in 64 bits, and there was a failure before the last one that the window test accepts.
(Whether all failures are inside the window plays no role.) -/
theorem nth_failure_locks_iff (hcfg : env.cfg.lockout.Accepted)
    (hu : s.userByEmail email = some u) (hzero : u.failedLoginAttempts = 0)
    {gs : List Guess} {g : Guess} (hgs : ∀ h ∈ gs ++ [g], h.Wrong env email u)
    (hopen : ∀ h ∈ (gs ++ [g]).head?, u.lockout.lockedAt? h.time = none)
    (hlen : (gs.length : ℤ) + 1 = env.cfg.lockout.maxAttempts.toInt) :
    ((g.on env (guessAll env s gs)).1 =
          .locked (g.time + env.cfg.lockout.durationSeconds.toInt * 10 ^ 9) ∧
        (guessAll env s (gs ++ [g])).lockedUntil? email =
          some (g.time + env.cfg.lockout.durationSeconds.toInt * 10 ^ 9) ∧
        g.time < g.time + env.cfg.lockout.durationSeconds.toInt * 10 ^ 9) ↔
      env.cfg.lockout.maxAttempts.toInt ≤ maxInt32 ∧
        env.cfg.lockout.durationSeconds.toInt * 10 ^ 9 ≤ 2 ^ 63 - 1 ∧
        ∃ t ∈ lastFailure u gs, sub g.time t ≤ env.lockoutWindow := by
  have hgs' : ∀ h ∈ gs, h.Wrong env email u := fun h hh => hgs h (List.mem_append_left _ hh)
  have hopen' : ∀ h ∈ gs.head?, u.lockout.lockedAt? h.time = none := head_of_append hopen
  obtain ⟨a, ha, hp, hlock⟩ := guessAll_wrong hu hzero hgs' hopen' (by omega)
  have hcount := Lockout.counting_guesses (l := u.lockout) env hzero
    (gs.map Guess.time) (by simpa using hopen') (by rw [List.length_map]; omega)
  rw [← hlock, List.length_map] at hcount
  have hnow : a.lockout.lockedAt? g.time = none := by
    by_cases hnil : gs = []
    · subst hnil
      rw [hlock]
      exact hopen g rfl
    · exact Lockout.lockedAt?_eq_none (hcount.2 (by simpa using hnil)) g.time
  -- the last call is one step of the machine
  have hr := (hgs g (List.mem_append_right _ (List.mem_singleton_self g))).reacts ha hp hnow
  obtain ⟨a', ha', hlock', _⟩ := hr.account
  have hafter : (guessAll env s (gs ++ [g])).lockedUntil? email =
      (a.lockout.failure env g.time).2.lockedUntil := by
    rw [← hlock', guessAll_append]
    unfold Store.lockedUntil?
    show Option.bind (Store.userByEmail (g.on env (guessAll env s gs)).2 email) _ = _
    rw [ha']
    rfl
  have hanswer : ∀ t, (g.on env (guessAll env s gs)).1 = .locked t ↔
      (a.lockout.failure env g.time).1 = .locked t := by
    intro t
    rw [← hr.reaction]
    exact Verified.reaction_eq_locked.symm
  have hpos := Int64.lt_iff_toInt_lt.mp hcfg.durationSeconds_pos
  rw [Int64.toInt_zero] at hpos
  have hfuture : g.time < g.time + env.cfg.lockout.durationSeconds.toInt * 10 ^ 9 :=
    lt_add_of_pos_right _ (Int.mul_pos hpos (by decide))
  have hadd : g.time + env.cfg.lockout.durationSeconds.toInt * 10 ^ 9 =
      add g.time env.lockoutDuration ↔
        env.cfg.lockout.durationSeconds.toInt * 10 ^ 9 ≤ 2 ^ 63 - 1 := by
    rw [← lockoutDuration_toInt_iff hcfg]
    unfold add
    rw [add_right_inj, eq_comm]
  rw [hanswer, hafter, ← and_assoc, hcount.1.failure_locks_iff hlen, hadd]
  constructor
  · rintro ⟨⟨hmax, hlast, hfit⟩, _⟩
    exact ⟨hmax, hfit, hlast⟩
  · rintro ⟨hmax, hfit, hlast⟩
    exact ⟨⟨hmax, hlast, hfit⟩, hfuture⟩

end Complete

section Examples

open Deployment

/-- A wrong password for `ann` at the second `t`. -/
def annGuess (t : Time) : Guess where
  time := t * 1000000000
  email := "ann@example.com"
  password := "wrong"
  sourceIP := "10.0.0.1"
  draws := fun _ => draw 7 20

theorem annGuess_wrong {e : Env} (he : e.passwordCheck "wrong" ann.passwordHash = .wrong)
    (t : Time) : (annGuess t).Wrong e "ann@example.com" ann :=
  ⟨rfl, fun _ => rfl, fun _ => rfl, he⟩

theorem deployment_accepted : env.cfg.lockout.Accepted :=
  ⟨by decide, by decide, by decide⟩

theorem store_ann : store.userByEmail "ann@example.com" = some ann := rfl

theorem annGuesses_wrong :
    ∀ g ∈ [annGuess 0, annGuess 5] ++ [annGuess 10], g.Wrong env "ann@example.com" ann := by
  intro g hg
  simp only [List.cons_append, List.nil_append, List.mem_cons, List.not_mem_nil, or_false] at hg
  rcases hg with rfl | rfl | rfl <;> exact annGuess_wrong (by decide +kernel) _

/-- Three failures within ten seconds lock `ann` out. -/
theorem nth_failure_locks_iff_ann :
    ((annGuess 10).on env (guessAll env store [annGuess 0, annGuess 5])).1 =
        .locked 910000000000 ∧
      (guessAll env store [annGuess 0, annGuess 5, annGuess 10]).lockedUntil? "ann@example.com" =
        some 910000000000 := by
  have h := (nth_failure_locks_iff deployment_accepted store_ann rfl annGuesses_wrong ?_
    (by decide)).mpr ⟨by decide, by decide, 5000000000, rfl, by decide⟩
  · exact ⟨h.1, h.2.1⟩
  · intro g hg
    obtain rfl := Option.some.inj hg
    rfl

/-- The deployment with a threshold of one. -/
def strictEnv : Env :=
  { env with cfg := { env.cfg with lockout := { env.cfg.lockout with maxAttempts := 1 } } }

/-- **With a threshold of one** the first failure does not lock the account. -/
theorem first_failure_does_not_lock :
    strictEnv.cfg.lockout.Accepted ∧ store.userByEmail "ann@example.com" = some ann ∧
      ann.failedLoginAttempts = 0 ∧ ann.lockedUntil = none ∧
      (annGuess 0).Wrong strictEnv "ann@example.com" ann ∧
      ((annGuess 0).on strictEnv store).1 = .failed .invalidCredentials ∧
      (guessAll strictEnv store [annGuess 0]).lockedUntil? "ann@example.com" = none :=
  ⟨⟨by decide, by decide, by decide⟩, rfl, rfl, rfl, annGuess_wrong (by decide +kernel) 0,
    by decide +kernel, by decide +kernel⟩

end Examples

/-! ### Soundness -/

/-- The password check of the call fails: the call gets to it, and the password is wrong. -/
def Guess.fails (g : Guess) (env : Env) (s : Store) (email : String) : Bool :=
  g.email == email && (s.userByEmail email).any fun u =>
    u.lockout.reaches g.draws g.time && decide (env.passwordCheck g.password u.passwordHash = .wrong)

/-- The call locks the account of `email`: the account was not locked, and the answer is that it
is. -/
def Guess.locks (g : Guess) (env : Env) (s : Store) (email : String) : Bool :=
  g.email == email && ((s.userByEmail email).any fun u =>
    decide (u.lockout.lockedAt? g.time = none)) &&
    match (g.on env s).1 with
    | .locked _ => true
    | _ => false

/-- The times of the failed password checks for `email` in a run, newest first, after those in
`past`. -/
def failures (env : Env) (email : String) : Store → List Time → List Guess → List Time
  | _, past, [] => past
  | s, past, g :: gs =>
    failures env email (g.on env s).2 (if g.fails env s email then g.time :: past else past) gs

/-- The number of failures that the counter stands for when the password is checked: an expired lock
is cleared before. -/
def Store.countedFailures (s : Store) (email : String) : ℕ :=
  ((s.userByEmail email).map fun u => u.lockout.cleared.attempts.toNat).getD 0

section Sound

variable {env : Env} {email : String} {s : Store} {u : User} {past : List Time} {g : Guess}

theorem failures_append (past : List Time) (gs gs' : List Guess) : failures env email s past (gs ++ gs') =
      failures env email (guessAll env s gs) (failures env email s past gs) gs' := by
  induction gs generalizing s past with
  | nil => rfl
  | cons g gs ih => exact ih _

/-- A call leaves the accounts of the other addresses alone. -/
theorem verifyCredentials_others {email' password sourceIP : String} {ds : ℕ → Draw} {w : World}
    (hds : Instant ds) (hne : email ≠ email') :
    ((verifyCredentials env email' password sourceIP).run backend ds w).2.db.userByEmail email =
      w.db.userByEmail email := by
  cases hu : w.db.userByEmail email' with
  | none => rw [verifyCredentials_unknown env _ _ hds hu]
  | some u =>
    cases hreach : u.lockout.reaches ds w.now with
    | false =>
      obtain ⟨_, _, hr⟩ := verifyCredentials_stops env password sourceIP hds hu hreach
      exact hr.others email hne
    | true =>
      obtain ⟨_, hr | ⟨_, _, _, hr⟩⟩ := verifyCredentials_reaches env password sourceIP hds hu hreach
      · exact hr.others email hne
      · exact hr.others email hne

namespace Lockout

variable {l : Lockout} {check : PasswordCheck} {now : Time} {n : ℤ}

theorem cleared_attempts_le (hn : 0 ≤ n) (h : l.attempts ≤ n) : l.cleared.attempts ≤ n := by
  unfold cleared
  split
  · exact hn
  · exact h

theorem failure_attempts_le (h : l.cleared.attempts ≤ n) : (l.failure env now).2.attempts ≤ n + 1 := by
  unfold failure
  split
  · exact h.trans (by omega)
  · have hcount : (l.cleared.count now).attempts ≤ n + 1 := Int.add_le_add_right h 1
    dsimp only
    split <;> exact hcount

/-- **The counter goes up only where a password check fails.** -/
theorem attempts_le (hn : 0 ≤ n) (h : l.attempts ≤ n) (hopen : l.lockedAt? now = none) {l' : Lockout}
    (hl' : l' = (l.attempt env check now).2 ∨ l' ∈ l.interrupted check now) :
    l'.attempts ≤ if check = .wrong then n + 1 else n := by
  have hcleared := cleared_attempts_le hn h
  unfold attempt interrupted at hl'
  rw [hopen] at hl'
  cases check with
  | right =>
    have hl : l' = clear ∨ l' = l.cleared ∨ l' = clear := by simpa using hl'
    rcases hl with rfl | rfl | rfl
    · exact hn
    · exact hcleared
    · exact hn
  | unusable =>
    have hl : l' = l.cleared := by simpa using hl'
    rw [hl]
    exact hcleared
  | wrong =>
    rw [if_pos rfl]
    rcases hl' with rfl | hl'
    · exact failure_attempts_le hcleared
    · dsimp only at hl'
      have hl : l' = l.cleared ∨ l' = l.cleared.count now := by
        split at hl'
        · exact Or.inl (List.mem_singleton.mp hl')
        · simpa using hl'
      rcases hl with rfl | rfl
      · exact hcleared.trans (by omega)
      · exact Int.add_le_add_right hcleared 1

/-- The failure that locks the account reaches the threshold. -/
theorem threshold_of_failure {t : Time} (h : (l.failure env now).1 = .locked t) :
    env.cfg.lockout.maxAttempts.toInt ≤ l.cleared.attempts + 1 := by
  unfold failure at h
  split at h
  · cases h
  · dsimp only at h
    split at h
    · next hlock =>
      rw [Bool.and_eq_true, decide_eq_true_iff] at hlock
      exact hlock.1
    · cases h

end Lockout

/-- The account of `email` counts no more failures than there were. -/
def Accounted (email : String) (s : Store) (past : List Time) : Prop :=
  ∃ a, s.userByEmail email = some a ∧ a.lockout.attempts ≤ past.length

/-- **One call.** -/
theorem Accounted.step (h : Accounted email s past) (hg : Instant g.draws) :
    Accounted email (g.on env s).2 (if g.fails env s email then g.time :: past else past) := by
  obtain ⟨a, ha, hle⟩ := h
  have hgrow : ∀ b : Bool, (past.length : ℤ) ≤ (if b then g.time :: past else past).length := by
    intro b
    cases b <;> simp
  by_cases hmail : g.email = email
  · subst hmail
    cases hreach : a.lockout.reaches g.draws g.time with
    | false =>
      obtain ⟨_, _, hr⟩ := verifyCredentials_stops env g.password g.sourceIP (w := ⟨g.time, s⟩) hg ha hreach
      obtain ⟨a', ha', hlock, _⟩ := hr.account
      refine ⟨a', ha', ?_⟩
      rw [hlock]
      exact hle.trans (hgrow _)
    | true =>
      obtain ⟨hopen, hends⟩ := verifyCredentials_reaches env g.password g.sourceIP (w := ⟨g.time, s⟩) hg ha hreach
      have hfails : g.fails env s g.email =
          decide (env.passwordCheck g.password a.passwordHash = .wrong) := by
        unfold Guess.fails
        rw [ha, Option.any_some, hreach, beq_self_eq_true, Bool.true_and, Bool.true_and]
      -- in both cases the call leaves a state of which the bound is known
      obtain ⟨l', hl', a', ha', hlock⟩ : ∃ l', (l' = (a.lockout.attempt env
          (env.passwordCheck g.password a.passwordHash) g.time).2 ∨
          l' ∈ a.lockout.interrupted (env.passwordCheck g.password a.passwordHash) g.time) ∧
          ∃ a', (g.on env s).2.userByEmail g.email = some a' ∧ a'.lockout = l' := by
        rcases hends with hr | ⟨_, l', hl', hr⟩
        · obtain ⟨a', ha', hlock, _⟩ := hr.account
          exact ⟨_, Or.inl rfl, a', ha', hlock⟩
        · obtain ⟨a', ha', hlock, _⟩ := hr.account
          exact ⟨l', Or.inr hl', a', ha', hlock⟩
      refine ⟨a', ha', ?_⟩
      have hbound := Lockout.attempts_le (Int.natCast_nonneg past.length) hle hopen hl'
      rw [hlock, hfails]
      refine hbound.trans (le_of_eq ?_)
      by_cases hwrong : env.passwordCheck g.password a.passwordHash = .wrong
      · simp [hwrong]
      · simp [hwrong]
  · refine ⟨a, ?_, hle.trans (hgrow _)⟩
    exact (verifyCredentials_others (w := ⟨g.time, s⟩) hg (Ne.symm hmail)).trans ha

/-- **A run of calls.** -/
theorem Accounted.run (h : Accounted email s past) {gs : List Guess} (hgs : ∀ g ∈ gs, Instant g.draws) :
    Accounted email (guessAll env s gs) (failures env email s past gs) := by
  induction gs generalizing s past with
  | nil => exact h
  | cons g gs ih =>
    exact ih (h.step (hgs g List.mem_cons_self)) fun g' hg' => hgs g' (List.mem_cons_of_mem _ hg')

/-- What a call that locks the account has found. -/
theorem Guess.locks_iff_account (hg : Instant g.draws)
    (hlock : g.locks env s email = true) {a : User} (ha : s.userByEmail email = some a) :
    g.fails env s email = true ∧ env.cfg.lockout.maxAttempts.toInt ≤ a.lockout.cleared.attempts + 1 := by
  unfold Guess.locks at hlock
  rw [Bool.and_eq_true, Bool.and_eq_true, beq_iff_eq, ha, Option.any_some, decide_eq_true_iff]
    at hlock
  obtain ⟨⟨rfl, hopen⟩, hanswer⟩ := hlock
  obtain ⟨t, ht⟩ : ∃ t, (g.on env s).1 = .locked t := by
    split at hanswer
    · next t ht => exact ⟨t, ht⟩
    · cases hanswer
  have hreaction : ((verifyCredentials env g.email g.password g.sourceIP).run backend g.draws
      ⟨g.time, s⟩).1.reaction = .locked t := Verified.reaction_eq_locked.mpr ht
  cases hreach : a.lockout.reaches g.draws g.time with
  | false =>
    obtain ⟨r, hr, hreacts⟩ := verifyCredentials_stops env g.password g.sourceIP (w := ⟨g.time, s⟩) hg ha hreach
    have hlocked := hr t (hreacts.reaction.symm.trans hreaction)
    rw [hopen] at hlocked
    cases hlocked
  | true =>
    obtain ⟨_, hends⟩ := verifyCredentials_reaches env g.password g.sourceIP (w := ⟨g.time, s⟩) hg ha hreach
    rcases hends with hr | ⟨_, _, _, hr⟩
    · have hp := hr.reaction.symm.trans hreaction
      unfold Lockout.attempt at hp
      rw [hopen] at hp
      cases hcheck : env.passwordCheck g.password a.passwordHash with
      | right => rw [hcheck] at hp; cases hp
      | unusable => rw [hcheck] at hp; cases hp
      | wrong =>
        rw [hcheck] at hp
        refine ⟨?_, Lockout.threshold_of_failure hp⟩
        unfold Guess.fails
        rw [ha, Option.any_some, hreach, hcheck, beq_self_eq_true]
        rfl
    · cases hr.reaction.symm.trans hreaction

/-- **When a lock is for failures inside the window**: if all failures that the counter stands for are
inside the window when the account is locked, there are `MaxAttempts` of them, with the last one. -/
theorem lock_sound (hcfg : env.cfg.lockout.Accepted) (hu : s.userByEmail email = some u)
    {past : List Time} (hpast : u.failedLoginAttempts ≤ past.length) {gs : List Guess} {g : Guess}
    (hgs : ∀ h ∈ gs ++ [g], Instant h.draws)
    (hlock : g.locks env (guessAll env s gs) email = true)
    (hwindow : ∀ t ∈ (failures env email s past gs).take
        ((guessAll env s gs).countedFailures email),
      g.time - t ≤ env.cfg.lockout.windowSeconds.toInt * 10 ^ 9) :
    env.cfg.lockout.maxAttempts.toInt ≤
      ((failures env email s past (gs ++ [g])).filter fun t =>
        decide (g.time - t ≤ env.cfg.lockout.windowSeconds.toInt * 10 ^ 9)).length := by
  have hstart : Accounted email s past := ⟨u, hu, hpast⟩
  obtain ⟨a, ha, hle⟩ := hstart.run fun h hh => hgs h (List.mem_append_left _ hh)
  obtain ⟨hfails, hthreshold⟩ := Guess.locks_iff_account
    (hgs g (List.mem_append_right _ (List.mem_singleton_self g))) hlock ha
  have hcounted : (guessAll env s gs).countedFailures email = a.lockout.cleared.attempts.toNat := by
    unfold Store.countedFailures
    rw [ha]
    rfl
  rw [hcounted] at hwindow
  have hclear := Lockout.cleared_attempts_le (Int.natCast_nonneg _) hle
  rw [failures_append]
  show _ ≤ ((List.filter _ (if g.fails env (guessAll env s gs) email then
    g.time :: failures env email s past gs else _)).length : ℤ)
  rw [if_pos hfails]
  generalize failures env email s past gs = fs at *
  generalize a.lockout.cleared.attempts = k at *
  have hself : g.time - g.time ≤ env.cfg.lockout.windowSeconds.toInt * 10 ^ 9 := by
    have hpos := Int64.lt_iff_toInt_lt.mp hcfg.windowSeconds_pos
    rw [Int64.toInt_zero] at hpos
    rw [sub_self]
    exact (Int.mul_pos hpos (by decide)).le
  -- the failures that are counted are all kept by the filter
  have hkeep : (fs.take k.toNat).length ≤ (fs.filter fun t =>
      decide (g.time - t ≤ env.cfg.lockout.windowSeconds.toInt * 10 ^ 9)).length := by
    have hall : (fs.take k.toNat).filter (fun t =>
        decide (g.time - t ≤ env.cfg.lockout.windowSeconds.toInt * 10 ^ 9)) = fs.take k.toNat :=
      List.filter_eq_self.mpr fun t ht => decide_eq_true (hwindow t ht)
    rw [← hall]
    exact ((List.take_sublist _ _).filter _).length_le
  rw [List.filter_cons_of_pos (by exact decide_eq_true hself), List.length_cons, Nat.cast_succ]
  rw [List.length_take] at hkeep
  omega

end Sound

section Examples

open Deployment

/-- Three failures within ten seconds, seen from the other side. -/
theorem lock_sound_ann :
    (3 : ℤ) ≤ ((failures env "ann@example.com" store []
      [annGuess 0, annGuess 5, annGuess 10]).filter fun t =>
        decide (10000000000 - t ≤ 600 * 10 ^ 9)).length := by
  have hpast : ann.failedLoginAttempts ≤ ([] : List Time).length := by decide
  exact lock_sound deployment_accepted store_ann hpast (fun g hg => (annGuesses_wrong g hg).instant)
    (by decide +kernel) (by decide +kernel)

/-- **Old failures count.** One failure, and nearly three hours later two more, one second apart: the
account is locked, with two failures inside the window of ten minutes. -/
theorem lock_counts_old_failures :
    (annGuess 10001).locks env (guessAll env store [annGuess 0, annGuess 10000])
        "ann@example.com" = true ∧
      ((failures env "ann@example.com" store []
        [annGuess 0, annGuess 10000, annGuess 10001]).filter fun t =>
          decide (10001000000000 - t ≤ 600 * 10 ^ 9)).length = 2 ∧
      env.cfg.lockout.maxAttempts = 3 ∧ env.cfg.lockout.windowSeconds = 600 :=
  ⟨by decide +kernel, by decide +kernel, rfl, rfl⟩

end Examples

end GoauthServer
