import GoauthServer.Repository.Revocation
import GoauthServer.Service.Deployment
import GoauthServer.Spec.Audit

/-!
# The audit trail

An administrator reads the audit log to learn what was done to an account: which refresh tokens were revoked,
which logins failed, when an account was locked and when the lock went away. For operations that run in any
interleaving, with an audit service whose writes succeed, the trail would be complete if each of these left
its entry (`CompletelyAudited`). It does not: a logout revokes in silence, an unknown email is rejected in
silence, a lock that has expired is cleared in silence, and a rotation that fails half-way has revoked its
token in silence.

`AccountedStep` names these steps, on the state before them, and `audit_trail_complete` is the result: a run
without them leaves a complete trail. What each call asks for is a fact about its text (`Spec/Audit.lean`).
Here it meets the tables, and the point is whom an entry names: the rows that a statement revokes
belong to the user of the token that the call has read (`Truthful`), for refresh tokens never change hands.
-/

namespace GoauthServer

open Interact

/-! ### The law -/

/-- The entry that was written. -/
def Event.entry? : Event effects → Option CreateAuditLogEntryParams
  | ⟨.sql (.createAuditLogEntry p), .ok _⟩ => some p
  | _ => none

/-- The call has written the entry `p`. -/
def Written (log : Log effects) (p : CreateAuditLogEntryParams) : Prop :=
  ∃ e ∈ log, Event.entry? e = some p

/-- The entries for a failed login that the call has written. -/
def loginEntriesWritten (log : Log effects) : ℕ :=
  (log.filterMap Event.entry?).countP CreateAuditLogEntryParams.forLogin

variable {ι : Type} [DecidableEq ι] {c : Pool backend ι AuditedReply} {i : ι}
  {ops : ι → AuditedOperation} {q : Request}

/-- The step revokes the refresh token `t`. -/
def RevokesRow (c : Pool backend ι AuditedReply) (i : ι) (d : Draw) (t : RefreshToken) : Prop :=
  t ∈ c.world.db.refreshTokens.rows ∧ t.isRevoked = false ∧
    ∃ t' ∈ (c.step i d).world.db.refreshTokens.rows, t'.id = t.id ∧ t'.isRevoked = true

/-- The step lifts the lock of the account `u`. -/
def UnlocksRow (c : Pool backend ι AuditedReply) (i : ι) (d : Draw) (u : User) : Prop :=
  u ∈ c.world.db.users.rows ∧ u.lockedUntil ≠ none ∧
    ∃ u' ∈ (c.step i d).world.db.users.rows, u'.id = u.id ∧ u'.lockedUntil = none

/-- **A complete trail.** Each operation that has finished has left its entries. -/
structure CompletelyAudited (ops : ι → AuditedOperation) (c : Pool backend ι AuditedReply)
    (ls : List (ι × Draw)) : Prop where
  /-- A revocation is followed by an entry that names the user of the row. -/
  revoked : ∀ before l after t, ls = before ++ l :: after → RevokesRow (c.run before) l.1 l.2 t →
    ((c.run ls).result? l.1).isSome = true →
    ∃ p, Written ((c.run ls).threads l.1).log p ∧ p.userID = t.userID
  /-- A login that rejects the credentials, or locks the account, has written one entry. -/
  verified : ∀ i email password sourceIP r,
    ops i = .server (.auth (.login email password sourceIP)) → (c.run ls).result? i = some r →
    r = .server (.auth (.login .rejected)) ∨ locked ((c.run ls).threads i).log = true →
    loginEntriesWritten ((c.run ls).threads i).log = 1
  /-- An unlock is followed by an entry that says so. -/
  unlocked : ∀ before l after u, ls = before ++ l :: after → UnlocksRow (c.run before) l.1 l.2 u →
    ((c.run ls).result? l.1).isSome = true →
    ∃ p, Written ((c.run ls).threads l.1).log p ∧ p.eventType = .accountUnlocked ∧ p.userID = u.id

/-- The writes to the audit log succeed. -/
def AuditWrites (c : Pool backend ι AuditedReply) (i : ι) (d : Draw) : Prop :=
  ∀ p, c.next? i = some (.sql (.createAuditLogEntry p)) →
    ∃ row, (respond (.sql (.createAuditLogEntry p)) d c.world).1 = .ok row

/-- **A step that will be accounted for.** -/
structure AccountedStep (ops : ι → AuditedOperation) (c : Pool backend ι AuditedReply) (i : ι) (d : Draw) :
    Prop where
  /-- A logout finds no refresh token of the user that is still good. -/
  logout : (ops i).Silent → d.fault = false → ∀ userID reason,
    c.next? i = some (.sql (.revokeRefreshTokensByUser userID reason)) →
    ∀ t ∈ c.world.db.refreshTokens.rows, t.userID = userID → t.isRevoked = true
  /-- A lock is lifted by the administrator's handler only: elsewhere there is none. -/
  unlock : (ops i).Silent → d.fault = false → ∀ userID,
    c.next? i = some (.sql (.unlockUserAccount userID)) →
    ∀ u ∈ c.world.db.users.rows, u.id = userID → u.lockedUntil = none
  /-- The failures of an account are reset while it is not locked. -/
  reset : d.fault = false → ∀ userID, c.next? i = some (.sql (.resetLoginAttempts userID)) →
    ∀ u ∈ c.world.db.users.rows, u.id = userID → u.lockedUntil = none
  /-- The refresh tokens of a family belong to one user. -/
  family : d.fault = false → ∀ tokenFamilyID reason,
    c.next? i = some (.sql (.revokeRefreshTokenFamily tokenFamilyID reason)) →
    ∀ t ∈ c.world.db.refreshTokens.rows, ∀ t' ∈ c.world.db.refreshTokens.rows,
      t.tokenFamilyID = tokenFamilyID → t'.tokenFamilyID = tokenFamilyID → t.userID = t'.userID
  /-- A rotation that has marked its token does not fail. -/
  rotation : ∀ r, (c.step i d).result? i = some r → r.IsFailedRotation →
    marked ((c.step i d).threads i).log = false
  /-- A login looks for a user who exists and has a password. -/
  login : ∀ email, c.next? i = some (.sql (.getUserByEmailForAuth email)) →
    Event.strange ⟨.sql (.getUserByEmailForAuth email),
      (respond (.sql (.getUserByEmailForAuth email)) d c.world).1⟩ = false

/-! ### What the logs say about the tables -/

/-- What a call has read is so, and the entries it has asked for are there. -/
structure LogTruth (log : Log effects) (w : World) : Prop where
  /-- A refresh token that was read is still there, with the same user. -/
  tokens : ∀ t, HasRead log t → ∃ t' ∈ w.db.refreshTokens.rows, t.Later t'
  users : ∀ id u, HasLoaded log id u → u.id = id
  entries : ∀ e ∈ log, ∀ p, Event.asked? e = some p → Event.entry? e = some p
  known : strangeUser log = false

/-- The invariant of a run: the logs are true, and no rotation has failed half-way. -/
structure Truthful (c : Pool backend ι AuditedReply) : Prop where
  logs : ∀ i, LogTruth (c.threads i).log c.world
  rotations : ∀ i r, c.result? i = some r → r.IsFailedRotation → marked (c.threads i).log = false

theorem LogTruth.nil (w : World) : LogTruth [] w where
  tokens _ h := absurd h not_hasRead_nil
  users _ _ h := absurd h (by simp [HasLoaded])
  entries _ h := absurd h (by simp)
  known := rfl

section Step

variable {q : Request} {d : Draw} {w : World} {log : Log effects}

/-- The step of another call. -/
theorem LogTruth.other (h : LogTruth log w) : LogTruth log (respond q d w).2 where
  tokens t ht := by
    obtain ⟨t', ht', hlater⟩ := h.tokens t ht
    obtain ⟨t'', ht'', hlater'⟩ := respond_refreshTokens q d w t' ht'
    exact ⟨t'', ht'', hlater.trans hlater'⟩
  users := h.users
  entries := h.entries
  known := h.known

/-- A step of the call itself. -/
theorem LogTruth.self (h : LogTruth log w) (haudit : ∀ p, q = .sql (.createAuditLogEntry p) →
      ∃ row, (respond (.sql (.createAuditLogEntry p)) d w).1 = .ok row)
    (hknown : ∀ email, q = .sql (.getUserByEmailForAuth email) →
      Event.strange ⟨.sql (.getUserByEmailForAuth email),
        (respond (.sql (.getUserByEmailForAuth email)) d w).1⟩ = false) :
    LogTruth (⟨q, (respond q d w).1⟩ :: log) (respond q d w).2 := by
  have hother : LogTruth log (respond q d w).2 := h.other
  refine ⟨?_, ?_, ?_, ?_⟩
  · rintro t ⟨e, hmem, he⟩
    rcases List.mem_cons.mp hmem with rfl | hmem
    · -- the token is a row of the table, which persists through its own look-up
      unfold Event.record? at he
      split at he
      · next hash t₀ heq =>
        obtain rfl := Option.some.inj he
        obtain ⟨rfl, hr⟩ := Sigma.mk.inj heq
        exact respond_refreshTokens _ d w _ (respond_getRefreshTokenByHash (eq_of_heq hr)).1
      · cases he
    · exact hother.tokens t ⟨e, hmem, he⟩
  · intro id u hu
    rcases List.mem_cons.mp hu with heq | hu
    · obtain ⟨rfl, hr⟩ := Sigma.mk.inj heq
      exact (respond_getUserByID (eq_of_heq hr).symm).2
    · exact h.users id u hu
  · intro e he p hp
    rcases List.mem_cons.mp he with rfl | he
    · unfold Event.asked? at hp
      split at hp
      · next p' r heq =>
        obtain rfl := Option.some.inj hp
        obtain ⟨rfl, hr⟩ := Sigma.mk.inj heq
        obtain ⟨row, hrow⟩ := haudit p' rfl
        rw [hrow]
        rfl
      · cases hp
    · exact h.entries e he p hp
  · have hhead : Event.strange ⟨q, (respond q d w).1⟩ = false := by
      cases q with
      | sql q =>
        cases q with
        | getUserByEmailForAuth email => exact hknown email rfl
        | _ => rfl
      | _ => rfl
    have hold := h.known
    unfold strangeUser at hold ⊢
    rw [List.any_cons, hhead, hold]
    rfl

end Step

/-- **The step lemma.** -/
theorem Truthful.step {d : Draw} {k : q.Reply → Call AuditedReply} (hi : (c.threads i).prog = .call (S := effects) q k)
    (haudit : AuditWrites c i d) (hstep : AccountedStep ops c i d) (h : Truthful c) :
    Truthful (c.step i d) := by
  have hnext := Pool.next?_of_call hi
  refine ⟨?_, ?_⟩
  · refine Pool.forall_log_step (J := fun _ log w => LogTruth log w) hi ?_ (fun j _ hj => hj.other) h.logs
    intro hself
    refine hself.self ?_ ?_
    · rintro p rfl
      exact haudit p hnext
    · rintro email rfl
      exact hstep.login email hnext
  · intro j r hr hfailed
    by_cases hij : j = i
    · subst hij
      exact hstep.rotation r hr hfailed
    · unfold Pool.result? at hr
      rw [Pool.step_threads_of_ne hij] at hr ⊢
      exact h.rotations j r hr hfailed

/-- What is in a log stays there. -/
theorem mem_log_run {e : Event effects}
    (h : e ∈ (c.threads i).log) (ls : List (ι × Draw)) : e ∈ ((c.run ls).threads i).log := by
  induction ls generalizing c with
  | nil => exact h
  | cons l ls ih => exact ih (Pool.mem_log_step h)

/-! ### Whom an entry names -/

section Named

variable {q : Query} {d : Draw} {w : World} {log log' : Log effects} {silent : Prop} {t : RefreshToken}

/-- The user of the one row with this id, as the call has read it. -/
theorem LogTruth.userID_eq (h : LogTruth log w) (ht : t ∈ w.db.refreshTokens.rows) {t₀ : RefreshToken}
    (hread : HasRead log t₀) (hid : t₀.id = t.id) : t.userID = t₀.userID := by
  obtain ⟨t', ht', hlater⟩ := h.tokens t₀ hread
  have heq : t' = t := Store.refreshToken_eq ht' ht (Or.inl (hlater.id.trans hid))
  rw [← heq]
  exact hlater.userID

/-- **A revocation is entered under the user of the row.** `log` is the log of the call before the
statement, `log'` its log at the end. -/
theorem names_of_revokes (hf : d.fault = false) (hrev : q.Revokes t) (ht : t ∈ w.db.refreshTokens.rows)
    (hlive : t.isRevoked = false) (hread : auditRequest (.sql q) log)
    (hold : ∀ e ∈ log, e ∈ log') (htruth : LogTruth log w)
    (husers : ∀ id u, HasLoaded log' id u → u.id = id)
    (hacc : Event.Accounted silent log' ⟨.sql q, (respond (.sql q) d w).1⟩)
    (hsilent : silent → ∀ userID reason, q = .revokeRefreshTokensByUser userID reason →
      ∀ t ∈ w.db.refreshTokens.rows, t.userID = userID → t.isRevoked = true)
    (hfamily : ∀ tokenFamilyID reason, q = .revokeRefreshTokenFamily tokenFamilyID reason →
      ∀ t ∈ w.db.refreshTokens.rows, ∀ t' ∈ w.db.refreshTokens.rows,
        t.tokenFamilyID = tokenFamilyID → t'.tokenFamilyID = tokenFamilyID → t.userID = t'.userID) :
    Names log' t.userID := by
  -- what the call had read it still has
  have hreads : ∀ t₀, HasRead log t₀ → HasRead log' t₀ := by
    rintro t₀ ⟨e, hmem, he⟩
    exact ⟨e, hold e hmem, he⟩
  rw [respond_sql q hf] at hacc
  cases q with
  | revokeRefreshToken id reason =>
    obtain ⟨t₀, ht₀, hid⟩ := hread
    rw [htruth.userID_eq ht ht₀ (hid.trans (Eq.symm hrev))]
    exact hacc t₀ (hreads t₀ ht₀) hid
  | markRefreshTokenUsed id =>
    obtain ⟨t₀, ht₀, hid⟩ := hread
    rw [htruth.userID_eq ht ht₀ (hid.trans (Eq.symm hrev))]
    obtain ⟨u, hu, hn⟩ := hacc t₀ (hreads t₀ ht₀) hid
    rw [← husers _ u hu]
    exact hn
  | revokeRefreshTokenFamily tokenFamilyID reason =>
    obtain ⟨t₀, ht₀, hid⟩ := hread
    -- the row that was read and the row at hand are in one family
    obtain ⟨t', ht', hlater⟩ := htruth.tokens t₀ ht₀
    have hsame := hfamily _ _ rfl t ht t' ht' hrev (hlater.tokenFamilyID.trans hid)
    rw [hsame, hlater.userID]
    exact hacc t₀ (hreads t₀ ht₀) hid
  | revokeRefreshTokensByUser userID reason =>
    rcases hacc with hs | hn
    · rw [hsilent hs userID reason rfl t ht hrev] at hlive
      cases hlive
    · rw [show t.userID = userID from hrev]
      exact hn
  | _ => exact absurd hrev id

end Named

/-! ### The trail of a run -/

section Run

variable {ops : ι → AuditedOperation} {c : Pool backend ι AuditedReply} {ls : List (ι × Draw)}
  {i : ι} {d : Draw}

/-- What is known of a run all of whose steps are accounted for. -/
structure RunFacts (ops : ι → AuditedOperation) (c : Pool backend ι AuditedReply) : Prop where
  obeys : Pool.Obeys (fun i => (ops i).audit id) c
  truthful : Truthful c

theorem RunFacts.run (h : RunFacts ops c)
    (haudit : Pool.Along AuditWrites c ls) (hsteps : Pool.Along (AccountedStep ops) c ls) :
    RunFacts ops (c.run ls) := by
  refine ⟨h.obeys.run ls, ?_⟩
  refine Pool.invariant (I := Truthful) ?_ h.obeys h.truthful (haudit.and hsteps)
  intro c i d q k hi _ hC hI
  exact hI.step hi hC.1 hC.2

omit [DecidableEq ι] in
/-- A call that has finished has paid. -/
theorem RunFacts.settled (h : RunFacts ops c) {r : AuditedReply}
    (hr : c.result? i = some r) : DebtFree (ops i).Silent (c.threads i).log := by
  have hpays : (ops i).Pays r (c.threads i).log := h.obeys.result hr
  rcases hpays.settled with hsettled | ⟨hfailed, hmarked⟩
  · exact hsettled
  · rw [h.truthful.rotations i r hr hfailed] at hmarked
    cases hmarked

omit [DecidableEq ι] in
/-- What a call has asked for is written. -/
theorem RunFacts.written (h : RunFacts ops c)
    {p : CreateAuditLogEntryParams} (hp : Asked (c.threads i).log p) : Written (c.threads i).log p := by
  obtain ⟨e, he, hask⟩ := hp
  exact ⟨e, he, (h.truthful.logs i).entries e he p hask⟩

/-- All entries for failed logins that a call has asked for are written. -/
theorem loginEntriesWritten_eq {log : Log effects}
    (h : ∀ e ∈ log, ∀ p, Event.asked? e = some p → Event.entry? e = some p) :
    loginEntriesWritten log = loginEntries log := by
  -- an entry that was written was asked for
  have hasked : ∀ e ∈ log, Event.entry? e = Event.asked? e := by
    intro e he
    cases ha : Event.asked? e with
    | some p => exact h e he p ha
    | none =>
      unfold Event.entry?
      split
      · cases ha
      · rfl
  unfold loginEntriesWritten loginEntries
  rw [List.countP_filterMap]
  refine List.countP_congr fun e he => ?_
  rw [hasked e he]
  cases Event.asked? e <;> rfl

/-- The event of a step is in the log from then on. -/
theorem mem_log_after {q : Request}
    {k : q.Reply → Call AuditedReply} (hi : (c.threads i).prog = .call (S := effects) q k)
    (ls : List (ι × Draw)) :
    (⟨q, (respond q d c.world).1⟩ : Event effects) ∈ (((c.step i d).run ls).threads i).log := by
  refine mem_log_run ?_ ls
  rw [Pool.step_threads_self hi]
  exact List.mem_cons_self

/-- A revocation, and the end of its call. -/
theorem RunFacts.revoked (h : RunFacts ops c)
    {t : RefreshToken} (hstep : AccountedStep ops c i d) (hrow : RevokesRow c i d t)
    (hend : RunFacts ops ((c.step i d).run ls)) (hdone : (((c.step i d).run ls).result? i).isSome = true) :
    ∃ p, Written (((c.step i d).run ls).threads i).log p ∧ p.userID = t.userID := by
  obtain ⟨ht, hlive, t', ht', hid, hrev⟩ := hrow
  obtain ⟨r, hr⟩ := Option.isSome_iff_exists.mp hdone
  cases hi : (c.threads i).prog with
  | ret a =>
    -- nothing happens in such a step
    rw [Pool.step_of_ret hi] at ht'
    rw [Store.refreshToken_eq ht' ht (Or.inl hid), hlive] at hrev
    cases hrev
  | call q k =>
    rw [Pool.step_world_of_call hi] at ht'
    obtain ⟨q', rfl, hf, hstmt⟩ := respond_revoked ht hlive ht' hid hrev
    have hnext := Pool.next?_of_call hi
    have hacc := hend.settled hr _ (mem_log_after hi ls)
    have hnames := names_of_revokes hf hstmt ht hlive (h.obeys.request hi)
      (fun e he => mem_log_run (Pool.mem_log_step he) ls) (h.truthful.logs i) (hend.truthful.logs i).users
      hacc ?_ ?_
    · obtain ⟨p, hp, hu⟩ := hnames
      exact ⟨p, hend.written hp, hu⟩
    · rintro hs userID reason rfl
      exact hstep.logout hs hf userID reason hnext
    · rintro tokenFamilyID reason rfl
      exact hstep.family hf tokenFamilyID reason hnext

/-- The end of a lock, and of its call. -/
theorem RunFacts.unlocked {u : User} (hstep : AccountedStep ops c i d) (hrow : UnlocksRow c i d u)
    (hend : RunFacts ops ((c.step i d).run ls)) (hdone : (((c.step i d).run ls).result? i).isSome = true) :
    ∃ p, Written (((c.step i d).run ls).threads i).log p ∧ p.eventType = .accountUnlocked ∧
      p.userID = u.id := by
  obtain ⟨hu, hlock, u', hu', hid, hopen⟩ := hrow
  obtain ⟨r, hr⟩ := Option.isSome_iff_exists.mp hdone
  cases hi : (c.threads i).prog with
  | ret a =>
    rw [Pool.step_of_ret hi] at hu'
    rw [Store.user_eq hu' hu hid] at hopen
    exact absurd hopen hlock
  | call q k =>
    rw [Pool.step_world_of_call hi] at hu'
    have hnext := Pool.next?_of_call hi
    obtain ⟨hf, rfl | rfl⟩ := respond_unlocked hu hlock hu' hid hopen
    · exact absurd (hstep.reset hf u.id hnext u hu rfl) hlock
    · have hacc := hend.settled hr _ (mem_log_after hi ls)
      obtain ⟨row, hrow⟩ := respond_unlockUserAccount hu hf
      rw [hrow] at hacc
      rcases hacc with hs | ⟨p, hp, htype, huser⟩
      · exact absurd (hstep.unlock hs hf u.id hnext u hu rfl) hlock
      · exact ⟨p, hend.written hp, htype, huser⟩

end Run

/-- **The audit trail is complete**, in every run without the steps that `AccountedStep` excludes, if there is
an audit service and its writes succeed. -/
theorem audit_trail_complete (env : WebEnv) (admin : AdminEnv) (ops : ι → AuditedOperation) (w : World)
    (ls : List (ι × Draw)) (haud : env.auth.audited = true)
    (hwrites : Pool.Along AuditWrites (auditedOperations env admin ops w) ls)
    (hsteps : Pool.Along (AccountedStep ops) (auditedOperations env admin ops w) ls) :
    CompletelyAudited ops (auditedOperations env admin ops w) ls := by
  have hstart : RunFacts ops (auditedOperations env admin ops w) :=
    { obeys := fun i => (ops i).obeys env admin haud
      truthful := ⟨fun i => LogTruth.nil w, fun i r _ _ => rfl⟩ }
  have hend := hstart.run hwrites hsteps
  refine ⟨?_, ?_, ?_⟩
  · rintro before ⟨i, d⟩ after t rfl hrow hdone
    obtain ⟨hw₁, hw₂⟩ := Pool.along_append.mp hwrites
    obtain ⟨hs₁, hs₂⟩ := Pool.along_append.mp hsteps
    rw [Pool.run_append] at hend hdone ⊢
    exact (hstart.run hw₁ hs₁).revoked hs₂.1 hrow hend hdone
  · intro i email password sourceIP r hop hr hcase
    have hpays : (ops i).Pays r _ := hend.obeys.result hr
    have htruth := hend.truthful.logs i
    rw [loginEntriesWritten_eq htruth.entries]
    rcases hpays.login email password sourceIP hop hcase with hstrange | hone
    · rw [htruth.known] at hstrange
      cases hstrange
    · exact hone
  · rintro before ⟨i, d⟩ after u rfl hrow hdone
    obtain ⟨_, hs₂⟩ := Pool.along_append.mp hsteps
    rw [Pool.run_append] at hend hdone ⊢
    exact RunFacts.unlocked hs₂.1 hrow hend hdone

/-! ### Examples -/

section Example

open Deployment

/-- The deployment with an audit service. -/
def auditedEnv : WebEnv where
  auth := { env with audited := true }
  scheme := "https"
  hostName := "auth.example"
  port := "443"
  marshalSession _ := []
  unmarshalSession _ := none
  authCodeURL p _ _ := p.authURL
  redirectWithCode _ _ := none

/-- One operation alone, in this database. -/
def alone (op : AuditedOperation) (db : Store) : Pool backend Unit AuditedReply :=
  auditedOperations auditedEnv admin (fun _ => op) { now := 5, db := db }

/-- Its first `n` requests. -/
def firstSteps (n : ℕ) : List (Unit × Draw) := List.replicate n ((), draw 7 20)

/-- `ann`, whose lock has expired. -/
def lockedAnn : User := { ann with lockedUntil := some 1 }

/-- The database of the deployment, with that lock. -/
def lockedStore : Store := { store with users := ⟨[lockedAnn], List.pairwise_singleton _ _⟩ }

/-- A login of `ann` with a wrong password. -/
def wrongLogin : AuditedOperation := .server (.auth (.login "ann@example.com" "wrong" "10.0.0.1"))

instance (c : Pool backend ι AuditedReply) (i : ι) (d : Draw) : Decidable (AuditWrites c i d) :=
  decidable_of_iff
    ((match c.next? i with
      | some (.sql (.createAuditLogEntry p)) => (respond (.sql (.createAuditLogEntry p)) d c.world).1.isOk
      | _ => true) = true) <| by
    unfold AuditWrites
    split
    · next p hnext =>
      constructor
      · intro hok p' hp'
        rw [hnext] at hp'
        cases hp'
        cases hr : (respond (.sql (.createAuditLogEntry p)) d c.world).1 with
        | ok row => exact ⟨row, rfl⟩
        | error e =>
          rw [hr] at hok
          cases hok
      · intro h
        obtain ⟨row, hrow⟩ := h p hnext
        rw [hrow]
        rfl
    · next hother => exact ⟨fun _ p hp => absurd hp (hother p), fun _ => rfl⟩

/-- The revocation of a logout. -/
def logoutRevocation : AuditedOperation := .server (.auth (.revokeUserRefreshTokens 2 "logout"))

theorem mem_entries {log : Log effects} {p : CreateAuditLogEntryParams} (h : Written log p) :
    p ∈ log.filterMap Event.entry? := by
  obtain ⟨e, he, hp⟩ := h
  exact List.mem_filterMap.mpr ⟨e, he, hp⟩

/-- Three events that leave no trace: the rejection of an unknown email, the revocation of a logout, and the
end of a lock that has expired. In each run the audit service is there, and what it is asked to write is
written. -/
theorem silent_events :
    auditedEnv.auth.audited = true ∧
    (Pool.Along AuditWrites (alone wrongLogin Store.empty) (firstSteps 1) ∧
      ¬ CompletelyAudited (fun _ => wrongLogin) (alone wrongLogin Store.empty) (firstSteps 1)) ∧
    (Pool.Along AuditWrites (alone logoutRevocation store) (firstSteps 1) ∧
      ¬ CompletelyAudited (fun _ => logoutRevocation) (alone logoutRevocation store) (firstSteps 1)) ∧
    (Pool.Along AuditWrites (alone wrongLogin lockedStore) (firstSteps 6) ∧
      ¬ CompletelyAudited (fun _ => wrongLogin) (alone wrongLogin lockedStore) (firstSteps 6)) := by
  refine ⟨rfl, ⟨by decide +kernel, ?_⟩, ⟨by decide +kernel, ?_⟩, ⟨by decide +kernel, ?_⟩⟩
  · intro h
    have hone := h.verified () _ _ _ _ rfl rfl (Or.inl rfl)
    exact absurd hone (by decide +kernel)
  · intro h
    have hrow : RevokesRow (alone logoutRevocation store) () (draw 7 20) annRefreshToken :=
      ⟨by decide +kernel, rfl, _, List.mem_cons_self, by decide +kernel, by decide +kernel⟩
    obtain ⟨p, hp, _⟩ := h.revoked [] ((), draw 7 20) [] annRefreshToken rfl hrow (by decide +kernel)
    have hnone : (((alone logoutRevocation store).run (firstSteps 1)).threads ()).log.filterMap
        Event.entry? = [] := by decide +kernel
    exact absurd (hnone ▸ mem_entries hp) (by simp)
  · intro h
    have hrow : UnlocksRow ((alone wrongLogin lockedStore).run (firstSteps 2)) () (draw 7 20) lockedAnn :=
      ⟨by decide +kernel, by decide, _, List.mem_cons_self, by decide +kernel, by decide +kernel⟩
    obtain ⟨p, hp, htype, _⟩ :=
      h.unlocked (firstSteps 2) ((), draw 7 20) (firstSteps 3) lockedAnn rfl hrow (by decide +kernel)
    -- what is written is about the wrong password
    have hother : ∀ p ∈ (((alone wrongLogin lockedStore).run (firstSteps 6)).threads ()).log.filterMap
        Event.entry?, p.eventType ≠ .accountUnlocked := by decide +kernel
    exact hother p (mem_entries hp) htype

/-- A step of an operation that is not silent, for a request that is not one of the critical ones. -/
theorem AccountedStep.of_next {d : Draw} (hnext : c.next? i = some q) (hloud : ¬ (ops i).Silent)
    (hreset : ∀ userID, q ≠ .sql (.resetLoginAttempts userID))
    (hfamily : ∀ tokenFamilyID reason, q ≠ .sql (.revokeRefreshTokenFamily tokenFamilyID reason))
    (hlogin : ∀ email, q ≠ .sql (.getUserByEmailForAuth email))
    (hend : ∀ e, (c.step i d).result? i ≠ some (.server (.auth (.tokens (.error e))))) :
    AccountedStep ops c i d where
  logout hs := absurd hs hloud
  unlock hs := absurd hs hloud
  reset _ userID hq := absurd (Option.some.inj (hnext.symm.trans hq)) (hreset userID)
  family _ tokenFamilyID reason hq :=
    absurd (Option.some.inj (hnext.symm.trans hq)) (hfamily tokenFamilyID reason)
  rotation r hr hfailed := by
    obtain ⟨e, rfl⟩ := hfailed
    exact absurd hr (hend e)
  login email hq := absurd (Option.some.inj (hnext.symm.trans hq)) (hlogin email)

/-- The two handlers of an administrator for `ann`: the unlock, and the revocation of the sessions. -/
def adminOperations : Bool → AuditedOperation
  | true => .unlockUser annText none
  | false => .server (.auth (.revokeUserSessions annText none))

/-- Both handlers, interleaved. -/
def adminSchedule : List (Bool × Draw) :=
  [(true, draw 7 20), (false, draw 7 21), (false, draw 7 22), (true, draw 7 23), (false, draw 7 24)]

/-- The administrator's work leaves its trail: the lock of `ann` ends with an entry, and so does the refresh
token. -/
theorem audit_trail_complete_example :
    let c := auditedOperations auditedEnv admin adminOperations { now := 5, db := lockedStore }
    (c.run adminSchedule).world.db.refreshTokens.rows.all RefreshToken.isRevoked = true ∧
      (c.run adminSchedule).world.db.users.rows.all (fun u => u.lockedUntil.isNone) = true ∧
      CompletelyAudited adminOperations c adminSchedule := by
  refine ⟨by decide +kernel, by decide +kernel, ?_⟩
  refine audit_trail_complete auditedEnv admin adminOperations _ adminSchedule rfl (by decide +kernel) ?_
  -- no step of the two handlers is one of those that `AccountedStep` excludes
  refine ⟨?_, ?_, ?_, ?_, ?_, trivial⟩
  all_goals
    refine AccountedStep.of_next rfl id ?_ ?_ ?_ ?_
    · exact fun _ => nofun
    · exact fun _ _ => nofun
    · exact fun _ => nofun
    · exact fun _ => nofun

end Example

end GoauthServer
