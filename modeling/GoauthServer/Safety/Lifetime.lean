import GoauthServer.Safety.Families

/-!
# The lifetime of a session

`RefreshTokenConfig.MaxLifetimeDays` is read by `config.Load` and by nothing else. An exchange and a
rotation both give the token they store `ExpiryDays` from now, so a session that is rotated in time has
no end.

What the configuration asks for is that no token of a family outlives the deadline, which is
`MaxLifetimeDays` after the first token was created, and that no rotation succeeds after it.
`session_within_lifetime_iff` says when a run of the server keeps to this: exactly if every call that
issues a token of the family reads the clock `ExpiryDays` before the deadline at the latest.

The second half follows from the first. A rotation compares the clock with `expires_at` of the token it
is given, and if that is not after the deadline, then a rotation after the deadline is refused.
-/

namespace GoauthServer

open Interact GoTime Relational

variable {log : Log effects}

/-! ### The deadline -/

/-- Nanoseconds of a day. -/
def day : ℤ := 86400000000000

/-- `MaxLifetimeDays` after `first`, the first token of a session, was created. -/
def Env.sessionDeadline (env : Env) (first : RefreshToken) : Time :=
  first.createdAt + env.cfg.refreshTokenMaxLifetimeDays.toInt * day

/-- No token of the family outlives the deadline. -/
def Store.WithinLifetime (s : Store) (tokenFamilyID : UUID) (deadline : Time) : Prop :=
  ∀ t ∈ s.family tokenFamilyID, t.expiresAt ≤ deadline

instance (s : Store) (F : UUID) (deadline : Time) : Decidable (s.WithinLifetime F deadline) :=
  inferInstanceAs (Decidable (∀ t ∈ s.family F, t.expiresAt ≤ deadline))

namespace Operation

/-- The operation adds a token to the family. -/
def Issues (env : Env) (tokenFamilyID : UUID) (op : Operation) (ds : ℕ → Draw) (w : World) : Prop :=
  ∃ t ∈ (op.run env ds w).2.db.family tokenFamilyID, ∀ t₀ ∈ w.db.family tokenFamilyID, t₀.id ≠ t.id

/-- When the operation reads the clock for the last time. -/
def lastReading (env : Env) (op : Operation) (ds : ℕ → Draw) (w : World) : Option Time :=
  (clockReadings ((op.call env).trace backend ds w [])).head?

/-- If the operation issues a token of the family, then the lifetime of a token still fits in between
its last reading of the clock and the deadline. -/
def InTime (env : Env) (tokenFamilyID : UUID) (deadline : Time) (op : Operation) (ds : ℕ → Draw)
    (w : World) : Prop :=
  op.Issues env tokenFamilyID ds w →
    ∀ now ∈ op.lastReading env ds w, add now env.refreshTokenLifetime ≤ deadline

/-- A rotation of a token of the family that begins after the deadline does not succeed. -/
def RefusedAfter (env : Env) (tokenFamilyID : UUID) (deadline : Time) (op : Operation)
    (ds : ℕ → Draw) (w : World) : Prop :=
  ∀ rawToken clientID clientSecret, op = .rotateRefreshToken rawToken clientID clientSecret →
    deadline < w.now → ∀ t ∈ w.db.family tokenFamilyID, t.tokenHash = env.lib.sha256Hex rawToken →
      ∀ resp, (op.run env ds w).1 ≠ .tokens (.ok resp)

instance (env : Env) (F : UUID) (op : Operation) (ds : ℕ → Draw) (w : World) :
    Decidable (op.Issues env F ds w) :=
  inferInstanceAs (Decidable (∃ t ∈ (op.run env ds w).2.db.family F, ∀ t₀ ∈ w.db.family F,
    t₀.id ≠ t.id))

instance (env : Env) (F : UUID) (deadline : Time) (op : Operation) (ds : ℕ → Draw) (w : World) :
    Decidable (op.InTime env F deadline ds w) :=
  inferInstanceAs (Decidable (op.Issues env F ds w →
    ∀ now ∈ op.lastReading env ds w, add now env.refreshTokenLifetime ≤ deadline))

end Operation

/-! ### Expiry in the text of the calls -/

/-- How an exchange and a rotation come to the expiry of what they store: from the last reading of the
clock. A record is looked up before, and the clock is not read again. -/
def expiryRequest (env : Env) (tokenHash : String) : Request → Log effects → Prop
  | .sql (.getRefreshTokenByHash h), log => h = tokenHash ∧ created log = false
  | .sql (.createRefreshToken p), log =>
    ∃ now, (clockReadings log).head? = some now ∧ p.expiresAt = add now env.refreshTokenLifetime
  | .now, log => created log = false
  | _, _ => True

/-- A rotation that succeeds has found its token unexpired. -/
def unexpiredResult (r : Except AuthError TokenResponse) (log : Log effects) : Prop :=
  ∀ resp, r = .ok resp → ∃ t now, readRecord log = some t ∧ now ∈ clockReadings log ∧ now ≤ t.expiresAt

def rotationExpiry (env : Env) (tokenHash : String) :
    Protocol effects (Except AuthError TokenResponse) :=
  ⟨expiryRequest env tokenHash, unexpiredResult⟩

def exchangeExpiry (env : Env) : Protocol effects (Except AuthError TokenResponse) :=
  ⟨expiryRequest env "", fun _ _ => True⟩

theorem unexpiredResult_error {e : AuthError} : unexpiredResult (.error e) log := by
  intro resp h
  cases h

section Text

variable {env : Env} {tokenHash : String} {log : Log effects} {user : User} {token : String}

theorem issueSuccessor_expiry {cid : UUID} {record : RefreshToken}
    {checked : Time} (hnew : created log = false) (hread : readRecord log = some record)
    (hclock : checked ∈ clockReadings log) (hlive : checked ≤ record.expiresAt) :
    (issueSuccessor env cid record user token).Obeys (rotationExpiry env tokenHash) log := by
  refine ⟨hnew, fun now => ⟨trivial, ?_⟩⟩
  rintro (e | a)
  · exact unexpiredResult_error
  refine ⟨trivial, ?_⟩
  rintro (_ | bytes)
  · exact unexpiredResult_error
  refine ⟨hnew, fun now' => ⟨⟨now', rfl, rfl⟩, ?_⟩⟩
  rintro (e | t)
  · exact unexpiredResult_error
  -- the reading of the check is still in the log, below the two that followed
  have hmem : checked ∈ now' :: now :: clockReadings log :=
    List.mem_cons_of_mem _ (List.mem_cons_of_mem _ hclock)
  exact logEvent_obeys trivial (fun _ _ => ⟨record, checked, hread, hmem, hlive⟩)
    fun _ _ _ => ⟨record, checked, hread, hmem, hlive⟩

theorem rotateRefreshToken_expiry (env : Env) (rawToken clientID clientSecret : String) :
    (rotateRefreshToken env rawToken clientID clientSecret).Obeys
      (rotationExpiry env (env.lib.sha256Hex rawToken)) [] := by
  unfold rotateRefreshToken
  split
  · exact unexpiredResult_error
  refine ⟨trivial, ?_⟩
  rintro (e | client)
  · cases e <;> exact unexpiredResult_error
  dsimp only
  split
  · exact unexpiredResult_error
  split
  · exact unexpiredResult_error
  refine ⟨⟨rfl, rfl⟩, ?_⟩
  rintro (e | record)
  · cases e <;> exact unexpiredResult_error
  dsimp only
  unfold checkRecord
  split
  · -- a replay
    have hlast : ∀ entry log, (env.logEvent entry (.ret (.error .invalidGrant))).Obeys
        (rotationExpiry env (env.lib.sha256Hex rawToken)) log :=
      fun entry log => logEvent_obeys trivial unexpiredResult_error fun _ => unexpiredResult_error
    exact ⟨trivial, fun _ => logEvent_obeys trivial (hlast _ _) fun _ => hlast _ _⟩
  refine ⟨rfl, fun checked => ?_⟩
  dsimp only
  split
  · exact unexpiredResult_error
  next hlive =>
  split
  · exact unexpiredResult_error
  refine ⟨trivial, ?_⟩
  rintro (e | _)
  · exact unexpiredResult_error
  refine ⟨trivial, ?_⟩
  rintro (e | user)
  · exact unexpiredResult_error
  refine Prog.Obeys.bind ⟨rfl, fun now => ⟨trivial, ?_⟩⟩
  rintro (_ | entropy)
  · exact unexpiredResult_error
  dsimp only
  split
  · exact unexpiredResult_error
  · exact issueSuccessor_expiry rfl rfl (List.mem_cons_of_mem _ List.mem_cons_self) (not_lt.mp hlive)

theorem issueRefreshToken_expiry {clientID : UUID} {authCode : AuthorizationCode}
    {a : AccessToken} (hnew : created log = false) :
    (issueRefreshToken env clientID authCode user a token).Obeys (exchangeExpiry env) log := by
  refine ⟨trivial, ?_⟩
  rintro (_ | bytes)
  · trivial
  refine ⟨trivial, fun F => ⟨hnew, fun now => ⟨⟨now, rfl, rfl⟩, ?_⟩⟩⟩
  rintro (e | t)
  · trivial
  · exact logEvent_obeys trivial trivial fun _ => trivial

theorem exchangeCodeForToken_expiry (env : Env) (code : String) (clientID : UUID)
    (clientSecret redirectURI : String) :
    (exchangeCodeForToken env code clientID clientSecret redirectURI).Obeys (exchangeExpiry env) [] := by
  refine ⟨trivial, ?_⟩
  rintro (e | client)
  · cases e <;> trivial
  dsimp only
  split
  · trivial
  split
  · trivial
  refine ⟨trivial, ?_⟩
  rintro (e | authCode)
  · cases e <;> trivial
  dsimp only
  split
  · trivial
  split
  · trivial
  refine ⟨rfl, fun now => ?_⟩
  dsimp only
  split
  · trivial
  refine ⟨trivial, ?_⟩
  rintro (e | _)
  · trivial
  refine ⟨trivial, ?_⟩
  rintro (e | user)
  · trivial
  refine Prog.Obeys.bind ⟨rfl, fun now => ⟨trivial, ?_⟩⟩
  rintro (_ | entropy)
  · trivial
  dsimp only
  split
  · trivial
  refine ⟨rfl, fun now => ⟨trivial, ?_⟩⟩
  rintro (e | a)
  · trivial
  dsimp only
  split
  · exact issueRefreshToken_expiry rfl
  · trivial

end Text

/-! ### What a call issues -/

/-- Where the refresh tokens come from while a call runs that began in `w₀`: they were there, or the
call has issued them, with the lifetime of a token from its last reading of the clock. -/
structure Issued (env : Env) (w₀ : World) (log : Log effects) (w : World) : Prop where
  kept : Table.Evolves RefreshToken.Later w₀.db.refreshTokens w.db.refreshTokens
  origin : ∀ t ∈ w.db.refreshTokens.rows, (∃ t₀ ∈ w₀.db.refreshTokens.rows, t₀.Later t) ∨
    created log = true ∧ (∀ t₀ ∈ w₀.db.refreshTokens.rows, t₀.id ≠ t.id) ∧
      ∃ now, (clockReadings log).head? = some now ∧ t.expiresAt = add now env.refreshTokenLifetime

/-- The same with what the call has read: the record of its token is one that was there, and the clock
has not gone back. -/
structure Issuing (env : Env) (tokenHash : String) (w₀ : World) (log : Log effects) (w : World) : Prop
    extends Issued env w₀ log w where
  record : ∀ t, readRecord log = some t → t.tokenHash = tokenHash ∧
    ∃ t₀ ∈ w₀.db.refreshTokens.rows, t₀.Later t
  now : w₀.now ≤ w.now
  clock : ∀ t ∈ clockReadings log, w₀.now ≤ t

theorem clockReadings_of_ne {q : Request} {r : q.Reply} (hq : q ≠ .now) :
    clockReadings (⟨q, r⟩ :: log) = clockReadings log := by
  cases q with
  | now => exact absurd rfl hq
  | _ => rfl

theorem created_cons (e : Event effects) (h : created log = true) : created (e :: log) = true := by
  unfold created at h ⊢
  rw [List.any_cons, h, Bool.or_true]

namespace Issuing

variable {env : Env} {tokenHash : String} {w₀ w : World} {log : Log effects} {q : Request} {d : Draw}

theorem start (env : Env) (tokenHash : String) (w : World) : Issuing env tokenHash w [] w where
  kept := Table.Evolves.refl .refl _
  origin t ht := Or.inl ⟨t, ht, .refl t⟩
  record t h := by cases h
  now := le_refl w.now
  clock t h := by cases h

/-- What was there, or was issued, is still so after the step. -/
theorem origin_step (h : Issuing env tokenHash w₀ log w) (hq : expiryRequest env tokenHash q log)
    {t t' : RefreshToken} (ht : t ∈ w.db.refreshTokens.rows) (hlater : t.Later t') (r : q.Reply) :
    (∃ t₀ ∈ w₀.db.refreshTokens.rows, t₀.Later t') ∨
      created (⟨q, r⟩ :: log) = true ∧ (∀ t₀ ∈ w₀.db.refreshTokens.rows, t₀.id ≠ t'.id) ∧
        ∃ now, (clockReadings (⟨q, r⟩ :: log)).head? = some now ∧
          t'.expiresAt = add now env.refreshTokenLifetime := by
  rcases h.origin t ht with ⟨t₀, ht₀, hlater₀⟩ | ⟨hnew, hid, now, hnow, hexp⟩
  · exact Or.inl ⟨t₀, ht₀, hlater₀.trans hlater⟩
  · -- the clock is not read after a token was issued
    have hne : q ≠ .now := by
      rintro rfl
      have hold : created log = false := hq
      rw [hnew] at hold
      cases hold
    refine Or.inr ⟨created_cons _ hnew, ?_, now, ?_, ?_⟩
    · intro t₀ ht₀
      rw [hlater.id]
      exact hid t₀ ht₀
    · rw [clockReadings_of_ne hne]
      exact hnow
    · rw [hlater.expiresAt]
      exact hexp

theorem step (hq : expiryRequest env tokenHash q log) (h : Issuing env tokenHash w₀ log w) :
    Issuing env tokenHash w₀ (⟨q, (respond q d w).1⟩ :: log) (respond q d w).2 where
  kept := Table.Evolves.trans (R := RefreshToken.Later) (fun _ _ _ h h' => h.trans h') h.kept
    (respond_refreshTokens q d w)
  origin t' ht' := by
    by_cases hcreate : ∃ p, q = .sql (.createRefreshToken p)
    · obtain ⟨p, rfl⟩ := hcreate
      rcases respond_createRefreshToken d w p with ⟨e, _, hdb⟩ | ⟨table, hins, hr, hdb⟩
      · rw [hdb] at ht'
        exact h.origin_step hq ht' (.refl t') _
      · rw [hdb] at ht'
        rcases (Table.mem_of_insert hins).mp ht' with hold | rfl
        · exact h.origin_step hq hold (.refl t') _
        · -- the row that was inserted
          obtain ⟨now, hnow, hexp⟩ := hq
          refine Or.inr ⟨by rw [hr]; rfl, fun t₀ ht₀ hid => ?_, now, hnow, hexp⟩
          obtain ⟨t, ht, hlater⟩ := h.kept t₀ ht₀
          have hclash := (Table.insert_eq_some hins).2 t ht
          simp [Keyed.clash, Keyed.key, hlater.id, hid] at hclash
    · obtain ⟨t, ht, hlater⟩ := respond_refreshToken_old (fun p hp => absurd ⟨p, hp⟩ hcreate) ht'
      exact h.origin_step hq ht hlater _
  record t ht := by
    rcases readRecord_respond ht with hold | ⟨hash, rfl, hmem, hhash⟩
    · exact h.record t hold
    · obtain ⟨rfl, hnew⟩ := hq
      refine ⟨hhash, ?_⟩
      rcases h.origin t hmem with hold | ⟨hcreated, _⟩
      · exact hold
      · rw [hnew] at hcreated
        cases hcreated
  now := h.now.trans (le_now_respond q d w)
  clock t ht := by
    rcases clockReadings_respond ht with hold | ⟨_, rfl⟩
    · exact h.clock t hold
    · refine h.now.trans ?_
      simp [World.wait]

end Issuing

/-! ### Operations -/

section Operations

variable {env : Env} {w : World} {ds : ℕ → Draw} {F : UUID} {deadline : Time}

/-- **A rotation**: what it issues, and, if it succeeds, that its token had not expired. -/
theorem rotation_issuing (env : Env) (rawToken clientID clientSecret : String) (ds : ℕ → Draw) (w : World) :
    let op : Operation := .rotateRefreshToken rawToken clientID clientSecret
    Issuing env (env.lib.sha256Hex rawToken) w ((op.call env).trace backend ds w []) (op.run env ds w).2 ∧
      ∃ r, (op.run env ds w).1 = .tokens r ∧ unexpiredResult r ((op.call env).trace backend ds w []) := by
  intro op
  have hobeys := (rotateRefreshToken_expiry env rawToken clientID clientSecret).map
    (P := ⟨expiryRequest env (env.lib.sha256Hex rawToken),
      fun o log => ∃ r, o = Outcome.tokens r ∧ unexpiredResult r log⟩)
    (f := Outcome.tokens) (fun _ _ h => h) fun r _ h => ⟨r, rfl, h⟩
  obtain ⟨hres, hend⟩ := hobeys.run_trace (B := backend) (fun q log d w hq _ hJ => hJ.step hq)
    (Prog.along_of_forall (fun _ _ _ => trivial) _ ds w) (Issuing.start env _ w)
  exact ⟨hend, hres⟩

/-- **What an operation issues.** -/
theorem Operation.issued (env : Env) (op : Operation) (ds : ℕ → Draw) (w : World) :
    Issued env w ((op.call env).trace backend ds w []) (op.run env ds w).2 := by
  by_cases hrot : ∃ rawToken clientID clientSecret, op = .rotateRefreshToken rawToken clientID clientSecret
  · obtain ⟨rawToken, clientID, clientSecret, rfl⟩ := hrot
    exact (rotation_issuing env rawToken clientID clientSecret ds w).1.toIssued
  by_cases hex : ∃ code clientID clientSecret redirectURI,
      op = .exchangeCodeForToken code clientID clientSecret redirectURI
  · obtain ⟨code, clientID, clientSecret, redirectURI, rfl⟩ := hex
    have hobeys := (exchangeCodeForToken_expiry env code clientID clientSecret redirectURI).map
      (P := ⟨expiryRequest env "", fun _ _ => True⟩) (f := Outcome.tokens)
      (fun _ _ h => h) fun _ _ _ => trivial
    exact (hobeys.run_trace (B := backend) (J := Issuing env "" w)
      (fun q log d w hq _ hJ => hJ.step hq) (Prog.along_of_forall (fun _ _ _ => trivial) _ ds w)
      (Issuing.start env _ w)).2.toIssued
  · -- no other operation creates a refresh token
    obtain ⟨_, hkept, hold⟩ := (op.obeys env).run_trace (B := backend)
      (J := fun _ w' => Table.Evolves RefreshToken.Later w.db.refreshTokens w'.db.refreshTokens ∧
        ∀ t ∈ w'.db.refreshTokens.rows, ∃ t₀ ∈ w.db.refreshTokens.rows, t₀.Later t)
      (fun q log d w' hq _ hJ => by
        refine ⟨hJ.1.trans (fun _ _ _ h h' => h.trans h') (respond_refreshTokens q d w'), ?_⟩
        intro t' ht'
        have hnone : ∀ p, q ≠ .sql (.createRefreshToken p) := by
          rintro p rfl
          rcases Operation.eq_of_createRefreshToken hq with h | h
          · exact hrot h
          · exact hex h
        obtain ⟨t, ht, hlater⟩ := respond_refreshToken_old (fun p hp => absurd hp (hnone p)) ht'
        obtain ⟨t₀, ht₀, hlater₀⟩ := hJ.2 t ht
        exact ⟨t₀, ht₀, hlater₀.trans hlater⟩)
      (Prog.along_of_forall (fun _ _ _ => trivial) _ ds w)
      ⟨Table.Evolves.refl .refl _, fun t ht => ⟨t, ht, .refl t⟩⟩
    exact ⟨hkept, fun t ht => Or.inl (hold t ht)⟩

/-- **One operation.** It leaves the family within its lifetime exactly if the family was, and what the
operation issues is issued in time. -/
theorem Operation.withinLifetime_iff (op : Operation) : (op.run env ds w).2.db.WithinLifetime F deadline ↔
      w.db.WithinLifetime F deadline ∧ op.InTime env F deadline ds w := by
  have hissued := op.issued env ds w
  constructor
  · intro hend
    constructor
    · intro t ht
      rw [Store.mem_family] at ht
      obtain ⟨t', ht', hlater⟩ := hissued.kept t ht.1
      rw [← hlater.expiresAt]
      exact hend t' (Store.mem_family.mpr ⟨ht', hlater.tokenFamilyID.trans ht.2⟩)
    · rintro ⟨t, ht, hfresh⟩ now hnow
      have hle := hend t ht
      rw [Store.mem_family] at ht
      rcases hissued.origin t ht.1 with ⟨t₀, ht₀, hlater⟩ | ⟨_, _, now', hnow', hexp⟩
      · have hmem := Store.mem_family.mpr ⟨ht₀, hlater.tokenFamilyID.symm.trans ht.2⟩
        exact absurd hlater.id.symm (hfresh t₀ hmem)
      · have hsame : now' = now := Option.some.inj (hnow'.symm.trans hnow)
        rw [← hsame, ← hexp]
        exact hle
  · rintro ⟨hstart, hintime⟩ t ht
    have htF := (Store.mem_family.mp ht).2
    rcases hissued.origin t (Store.mem_family.mp ht).1 with
      ⟨t₀, ht₀, hlater⟩ | ⟨_, hfresh, now, hnow, hexp⟩
    · rw [hlater.expiresAt]
      exact hstart t₀ (Store.mem_family.mpr ⟨ht₀, hlater.tokenFamilyID.symm.trans htF⟩)
    · rw [hexp]
      exact hintime ⟨t, ht, fun t₀ ht₀ => hfresh t₀ (Store.mem_family.mp ht₀).1⟩ now hnow

/-- **After the deadline.** Where no token outlives it, a rotation that begins later is refused. -/
theorem Operation.refusedAfter (op : Operation) (h : w.db.WithinLifetime F deadline) :
    op.RefusedAfter env F deadline ds w := by
  rintro rawToken clientID clientSecret rfl hlate t ht hhash resp hok
  obtain ⟨hissuing, r, hr, hunexpired⟩ := rotation_issuing env rawToken clientID clientSecret ds w
  rw [hr] at hok
  obtain ⟨t', now, hread, hnow, hle⟩ := hunexpired resp (Outcome.tokens.inj hok)
  -- the record that was read is `t`
  obtain ⟨hhash', t₀, ht₀, hlater⟩ := hissuing.record t' hread
  have hsame : t₀ = t := by
    refine Table.eq_of_clash ht₀ (Store.mem_family.mp ht).1 ?_
    rw [hlater.tokenHash] at hhash'
    simp [Keyed.clash, Keyed.key, hhash', hhash]
  have hexp : t'.expiresAt ≤ deadline := by
    rw [hlater.expiresAt, hsame]
    exact h t ht
  have hclock := hissuing.clock now hnow
  exact absurd hlate (not_lt.mpr ((hclock.trans hle).trans hexp))

/-- A run, likewise. -/
theorem runAll_withinLifetime_iff (ops : List (Operation × (ℕ → Draw))) :
    (runAll env ops w).db.WithinLifetime F deadline ↔
      w.db.WithinLifetime F deadline ∧ AlongRun env (Operation.InTime env F deadline) ops w := by
  induction ops generalizing w with
  | nil => exact ⟨fun h => ⟨h, trivial⟩, fun h => h.1⟩
  | cons op ops ih =>
    calc (runAll env ops (op.1.run env op.2 w).2).db.WithinLifetime F deadline
      _ ↔ (op.1.run env op.2 w).2.db.WithinLifetime F deadline ∧
          AlongRun env (Operation.InTime env F deadline) ops (op.1.run env op.2 w).2 := ih
      _ ↔ (w.db.WithinLifetime F deadline ∧ op.1.InTime env F deadline op.2 w) ∧
          AlongRun env (Operation.InTime env F deadline) ops (op.1.run env op.2 w).2 :=
        and_congr_left fun _ => op.1.withinLifetime_iff
      _ ↔ w.db.WithinLifetime F deadline ∧
          AlongRun env (Operation.InTime env F deadline) (op :: ops) w := and_assoc

end Operations

/-! ### Sessions -/

/-- A session: the code is exchanged, and then the operations `ops` follow. -/
def sessionRun (code : String) (clientID : UUID) (clientSecret redirectURI : String) (ds : ℕ → Draw)
    (ops : List (Operation × (ℕ → Draw))) : List (Operation × (ℕ → Draw)) :=
  (.exchangeCodeForToken code clientID clientSecret redirectURI, ds) :: ops

/-- **The lifetime of a session.** An exchange stores `first`, the first token of a family, and then any
operations follow. The tokens of the family keep to the deadline, and no rotation succeeds after it,
exactly if each of these calls that issues a token of the family reads the clock early enough. -/
theorem session_within_lifetime_iff {env : Env} {w : World} {F : UUID} {code : String} {clientID : UUID}
    {clientSecret redirectURI : String} {ds : ℕ → Draw} {ops : List (Operation × (ℕ → Draw))}
    {first : RefreshToken} (hnew : w.db.family F = [])
    (_ : first ∈ ((Operation.exchangeCodeForToken code clientID clientSecret redirectURI).run env ds
      w).2.db.family F) :
    ((runAll env (sessionRun code clientID clientSecret redirectURI ds ops) w).db.WithinLifetime F
        (env.sessionDeadline first) ∧
      AlongRun env (Operation.RefusedAfter env F (env.sessionDeadline first))
        (sessionRun code clientID clientSecret redirectURI ds ops) w) ↔
      AlongRun env (Operation.InTime env F (env.sessionDeadline first))
        (sessionRun code clientID clientSecret redirectURI ds ops) w := by
  have hstart : w.db.WithinLifetime F (env.sessionDeadline first) := by
    intro t ht
    rw [hnew] at ht
    cases ht
  constructor
  · rintro ⟨hend, _⟩
    exact ((runAll_withinLifetime_iff _).mp hend).2
  · intro hintime
    refine ⟨(runAll_withinLifetime_iff _).mpr ⟨hstart, hintime⟩, ?_⟩
    exact (hintime.invariant (I := fun w => w.db.WithinLifetime F (env.sessionDeadline first))
      (fun op ds w hop hw => ⟨op.withinLifetime_iff.mpr ⟨hw, hop⟩, op.refusedAfter hw⟩) hstart).2

section Examples

open Deployment Base64

/-- The JSON of what `ann` is issued after 30 days. -/
def monthPayload : Bytes := asciiBytes
  "\x7b\"user_id\":\"00000000-0000-0000-0000-000000000002\",\"email\":\"ann@example.com\",\"iss\":\"goauth-server\",\"exp\":2595600,\"nbf\":2592000,\"iat\":2592000\x7d"

/-- The deployment with 45 days for `MaxLifetimeDays`, and with the values of the library after 30
days. -/
def monthEnv : Env :=
  { env with
    cfg := { env.cfg with refreshTokenMaxLifetimeDays := 45 }
    lib := { lib with
      sha256Hex := fun s =>
        ((digests ++ [(Jwt.signedString headerES256 monthPayload signatureB,
          "e333d6b17da4ef028582fe5c43c3243e1d07f31bc1a077fa52c1f767a1cb4ba6")]).lookup s).getD ""
      claims := { lib.claims with
        marshal := fun c => if c.registered.issuedAt = some 2592000 then monthPayload
          else lib.claims.marshal c } } }

/-- The first token of the session. -/
def annFirstToken : RefreshToken where
  id := 20
  tokenFamilyID := 20
  tokenHash := "4a3823dd1b2833570546fcd346525b01409e90b4d56d4dd58b444e5e5333e321"
  clientID := 1
  userID := 2
  accessTokenID := some 20
  previousTokenID := none
  scope := "openid offline_access"
  expiresAt := 2592000000000000
  isRevoked := false
  revokedAt := none
  revokeReason := none
  usedAt := none
  createdAt := 0

/-- `ann`'s code is exchanged, and after 30 days, when its time is just not over, the token is
rotated. -/
def annSession : List (Operation × (ℕ → Draw)) :=
  sessionRun "auth-code" 1 "s3cret" "https://app.example/callback" (fun _ => draw 7 20)
    [(.rotateRefreshToken "BwgJCgsMDQ4PEBESExQVFhcYGRobHB0eHyAhIiMkJSY" appText "s3cret",
      fun n => { draw 9 21 with wait := if n = 0 then 2592000000000000 else 0 })]

/-- With 90 days nothing is wrong with the first token. -/
theorem session_within_lifetime_iff_ann :
    (runAll env (sessionRun "auth-code" 1 "s3cret" "https://app.example/callback" (fun _ => draw 7 20)
      []) ⟨0, store⟩).db.WithinLifetime 20 (env.sessionDeadline annFirstToken) := by
  have hfirst : annFirstToken ∈ ((Operation.exchangeCodeForToken "auth-code" 1 "s3cret"
      "https://app.example/callback").run env (fun _ => draw 7 20) ⟨0, store⟩).2.db.family 20 := by
    decide +kernel
  refine ((session_within_lifetime_iff (w := ⟨0, store⟩) rfl hfirst).mpr ?_).1
  decide +kernel

/-- **A session outlives its deadline**: with 45 days, the rotation after 30 days issues a token for
another 30. -/
theorem session_outlives_deadline :
    annFirstToken ∈ ((Operation.exchangeCodeForToken "auth-code" 1 "s3cret"
        "https://app.example/callback").run monthEnv (fun _ => draw 7 20)
          ⟨0, store⟩).2.db.family 20 ∧
      ¬ (runAll monthEnv annSession ⟨0, store⟩).db.WithinLifetime 20
        (monthEnv.sessionDeadline annFirstToken) := by
  decide +kernel

end Examples

end GoauthServer
