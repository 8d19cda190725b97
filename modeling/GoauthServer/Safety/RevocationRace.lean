import GoauthServer.Safety.RotationRace
import GoauthServer.Spec.Operations

/-!
# Revocation of many tokens under interleaving

Replay detection revokes a whole family (`RevokeRefreshTokenFamily`); logout, a change of the
password and the administrator revoke all tokens of a user (`RevokeRefreshTokensByUser`). Each is
one statement, and it reaches the rows that are in the table.

A rotation that has read its token before the revocation and stores the successor after it is not
reached: nothing in `CreateRefreshToken` looks at the family again. What has to be excluded is a
rotation in this state at the moment of the statement (`Rotating`). Then the revocation is final:
the rows are revoked, a later rotation reads a revoked row and is a replay, and no successor is
stored any more (`Swept`).

The calls are any operations but code exchanges, which start new families on purpose.
-/

namespace GoauthServer

open Interact Relational

/-! ### What is revoked at once -/

/-- The tokens that one statement revokes. -/
inductive Sweep where
  | family (tokenFamilyID : UUID)
  | user (userID : UUID)
  deriving DecidableEq

/-- The token is one of them. -/
def Sweep.Covers : Sweep → RefreshToken → Prop
  | .family tokenFamilyID, t => t.tokenFamilyID = tokenFamilyID
  | .user userID, t => t.userID = userID

instance : (sweep : Sweep) → (t : RefreshToken) → Decidable (sweep.Covers t)
  | .family tokenFamilyID, t => inferInstanceAs (Decidable (t.tokenFamilyID = tokenFamilyID))
  | .user userID, t => inferInstanceAs (Decidable (t.userID = userID))

/-- The statements that revoke a family or the tokens of a user. -/
def Request.sweep? : Request → Option Sweep
  | .sql (.revokeRefreshTokenFamily tokenFamilyID _) => some (.family tokenFamilyID)
  | .sql (.revokeRefreshTokensByUser userID _) => some (.user userID)
  | _ => none

/-- All tokens that `sweep` covers are revoked. -/
def Store.Revoked (s : Store) (sweep : Sweep) : Prop :=
  ∀ t ∈ s.refreshTokens.rows, sweep.Covers t → t.isRevoked = true

instance (s : Store) (sweep : Sweep) : Decidable (s.Revoked sweep) :=
  inferInstanceAs (Decidable (∀ t ∈ s.refreshTokens.rows, sweep.Covers t → t.isRevoked = true))

theorem Sweep.covers_later {sweep : Sweep} {t t' : RefreshToken} (h : t.Later t') :
    sweep.Covers t' ↔ sweep.Covers t := by
  cases sweep with
  | family F =>
    show t'.tokenFamilyID = F ↔ t.tokenFamilyID = F
    rw [h.tokenFamilyID]
  | user u =>
    show t'.userID = u ↔ t.userID = u
    rw [h.userID]

/-- The statement revokes what it covers. -/
theorem revoked_of_sweep {q : Request} {d : Draw} {w : World} {sweep : Sweep}
    (hq : q.sweep? = some sweep) (hf : d.fault = false) :
    (respond q d w).2.db.Revoked sweep := by
  intro t' ht' hcov
  by_contra hrev
  have hlive : t'.isRevoked = false := by simpa using hrev
  rcases respond_live ht' hlive with ⟨t, _, _, hlater, hnot⟩ | ⟨p, rfl, _⟩
  · rw [Sweep.covers_later hlater] at hcov
    cases q with
    | sql q =>
      cases q with
      | revokeRefreshTokenFamily F reason =>
        cases hq
        exact hnot _ rfl hf hcov
      | revokeRefreshTokensByUser u reason =>
        cases hq
        exact hnot _ rfl hf hcov
      | _ => cases hq
    | _ => cases hq
  · cases hq

/-! ### Rotations in progress -/

/-- `RotateRefreshToken`. -/
def Operation.rotates : Operation → Bool
  | .rotateRefreshToken _ _ _ => true
  | _ => false

/-- `ExchangeCodeForToken`. -/
def Operation.exchanges : Operation → Bool
  | .exchangeCodeForToken _ _ _ _ => true
  | _ => false

section Race

variable {ι : Type}

/-- Call `i` is a rotation that has read a token of `sweep` unrevoked, and has neither finished
nor stored the successor. -/
def Rotating (ops : ι → Operation) (c : Pool backend ι Outcome) (sweep : Sweep) (i : ι) : Prop :=
  (ops i).rotates = true ∧ (c.next? i).isSome = true ∧ created (c.threads i).log = false ∧
    ∃ t ∈ readRecord (c.threads i).log, t.isRevoked = false ∧ sweep.Covers t

instance (ops : ι → Operation) (c : Pool backend ι Outcome) (sweep : Sweep) (i : ι) :
    Decidable (Rotating ops c sweep i) :=
  have : Decidable (∃ t ∈ readRecord (c.threads i).log, t.isRevoked = false ∧ sweep.Covers t) :=
    Option.decidableExistsMem _
  inferInstanceAs (Decidable (_ ∧ _ ∧ _ ∧ _))

/-- Every rotation knows what it has read. -/
def RotationsSeen (env : Env) (ops : ι → Operation) (c : Pool backend ι Outcome) : Prop :=
  ∀ i rawToken clientID clientSecret, ops i = .rotateRefreshToken rawToken clientID clientSecret →
    Seen (env.lib.sha256Hex rawToken) (c.threads i).log c.world

/-- The revocation is done and nobody is about to undo it. -/
structure Swept (env : Env) (ops : ι → Operation) (sweep : Sweep) (c : Pool backend ι Outcome) :
    Prop where
  seen : RotationsSeen env ops c
  revoked : c.world.db.Revoked sweep
  idle : ∀ i, ¬ Rotating ops c sweep i

variable {env : Env} {ops : ι → Operation} {sweep : Sweep} {c : Pool backend ι Outcome} {i : ι}
  {d : Draw} {q : Request} {k : q.Reply → Call Outcome}

/-- A rotation that is about to store a successor is in progress, and the successor is covered
like the token it succeeds. -/
theorem rotating_of_create (hseen : RotationsSeen env ops c) (hex : (ops i).exchanges = false)
    {p : CreateRefreshTokenParams} (hi : c.next? i = some (.sql (.createRefreshToken p)))
    (hq : (ops i).request env (.sql (.createRefreshToken p)) (c.threads i).log) {now : Time}
    {fresh : UUID} (hcov : sweep.Covers (p.row now fresh)) : Rotating ops c sweep i := by
  rcases Operation.eq_of_createRefreshToken hq with ⟨raw, cid, secret, hop⟩ | ⟨_, _, _, _, hop⟩
  · rw [hop] at hq
    obtain ⟨t, u, a, hread, hlive, _, hnew, huser, _, hp⟩ := hq
    refine ⟨by rw [hop]; rfl, by rw [hi]; rfl, hnew, t, hread, hlive, ?_⟩
    cases sweep with
    | family F => exact hp.tokenFamilyID.symm.trans hcov
    | user userID =>
      -- the owner of the successor is the user that was loaded, which is that of the token
      have hown : u.id = t.userID := (hseen i raw cid secret hop).user t u hread huser
      exact hown.symm.trans (hp.userID.symm.trans hcov)
  · rw [hop] at hex
    cases hex

variable [DecidableEq ι]

theorem RotationsSeen.step (h : RotationsSeen env ops c) (hi : (c.threads i).prog = .call q k)
    (hq : (ops i).request env q (c.threads i).log) : RotationsSeen env ops (c.step i d) := by
  intro j raw cid secret hop
  rw [step_world hi]
  by_cases hij : j = i
  · subst hij
    rw [step_log hi]
    rw [hop] at hq
    exact (h j raw cid secret hop).self (sessionRequest_of_rotation hq)
  · rw [Pool.step_threads_of_ne hij]
    exact (h j raw cid secret hop).other

/-- A rotation in progress after a step was in progress before it, or has just read its token. -/
theorem rotating_step (hi : (c.threads i).prog = .call q k) {j : ι} (h : Rotating ops (c.step i d) sweep j) :
    Rotating ops c sweep j ∨ ∃ hash, q = .sql (.getRefreshTokenByHash hash) ∧
        ∃ t ∈ c.world.db.refreshTokens.rows, t.isRevoked = false ∧ sweep.Covers t := by
  by_cases hij : j = i
  · subst hij
    obtain ⟨hrot, _, hnew, t, hread, hlive, hcov⟩ := h
    rw [step_log hi] at hnew hread
    rcases readRecord_respond hread with hread | ⟨hash, rfl, ht, _⟩
    · refine Or.inl ⟨hrot, ?_, (created_respond hnew).1, t, hread, hlive, hcov⟩
      rw [Pool.next?_of_call hi]
      rfl
    · exact Or.inr ⟨hash, rfl, t, ht, hlive, hcov⟩
  · obtain ⟨hrot, hnext, hnew, hread⟩ := h
    unfold Pool.next? at hnext
    rw [Pool.step_threads_of_ne hij] at hnext hnew hread
    exact Or.inl ⟨hrot, hnext, hnew, hread⟩

/-- **The revocation itself**, with no rotation in progress. -/
theorem Swept.of_revocation (hseen : RotationsSeen env ops c) (hi : (c.threads i).prog = .call q k)
    (hq : (ops i).request env q (c.threads i).log) (hsweep : q.sweep? = some sweep) (hf : d.fault = false)
    (hidle : ∀ j, ¬ Rotating ops c sweep j) : Swept env ops sweep (c.step i d) where
  seen := hseen.step hi hq
  revoked := by
    rw [step_world hi]
    exact revoked_of_sweep hsweep hf
  idle j hj := by
    rcases rotating_step hi hj with hj | ⟨hash, rfl, _⟩
    · exact hidle j hj
    · cases hsweep

/-- **One step after the revocation.** -/
theorem Swept.step (h : Swept env ops sweep c) (hex : (ops i).exchanges = false)
    (hi : (c.threads i).prog = .call q k) (hq : (ops i).request env q (c.threads i).log) :
    Swept env ops sweep (c.step i d) where
  seen := h.seen.step hi hq
  revoked := by
    rw [step_world hi]
    intro t' ht' hcov
    by_contra hrev
    have hlive' : t'.isRevoked = false := by simpa using hrev
    rcases respond_live ht' hlive' with ⟨t, ht, hlive, hlater, _⟩ | ⟨p, rfl, _, rfl⟩
    · rw [Sweep.covers_later hlater] at hcov
      rw [h.revoked t ht hcov] at hlive
      cases hlive
    · exact h.idle i (rotating_of_create h.seen hex (Pool.next?_of_call hi) hq hcov)
  idle j hj := by
    rcases rotating_step hi hj with hj | ⟨hash, _, t, ht, hlive, hcov⟩
    · exact h.idle j hj
    · -- the token that was read is covered, hence revoked
      rw [h.revoked t ht hcov] at hlive
      cases hlive

theorem rotationsSeen_run (env : Env) (ops : ι → Operation) (w : World) (schedule : List (ι × Draw)) :
    RotationsSeen env ops ((operations env ops w).run schedule) :=
  Pool.invariant_of_step (fun _ _ _ _ _ hi hq hI => hI.step hi hq) (operations_obeys env ops w)
    (fun _ _ _ _ _ => Seen.nil _ w) schedule

/-- **A revocation is final**, if no rotation of one of its tokens is in progress when the
statement executes: at no later step is there an unrevoked token of the family, or of the user. -/
theorem revocation_final {w : World} (hops : ∀ j, (ops j).exchanges = false)
    (before after : List (ι × Draw))
    (hnext : (((operations env ops w).run before).next? i).bind Request.sweep? = some sweep)
    (hf : d.fault = false)
    (hidle : ∀ j, ¬ Rotating ops ((operations env ops w).run before) sweep j) :
    ((operations env ops w).run (before ++ (i, d) :: after)).world.db.Revoked sweep := by
  have hobeys := (operations_obeys env ops w).run before
  have hseen := rotationsSeen_run env ops w before
  rw [Pool.run_append, Pool.run_cons]
  generalize (operations env ops w).run before = c at hobeys hseen hnext hidle
  cases hi : (c.threads i).prog with
  | ret r =>
    unfold Pool.next? at hnext
    rw [hi] at hnext
    cases hnext
  | call q k =>
    rw [Pool.next?_of_call hi] at hnext
    have hswept := Swept.of_revocation hseen hi (hobeys.request hi) hnext hf hidle
    have hend : Swept env ops sweep ((c.step i d).run after) :=
      Pool.invariant_of_step (fun c j _ _ _ hj hq hI => hI.step (hops j) hj hq)
        (hobeys.step i d) hswept after
    exact hend.revoked

end Race

open Deployment (draw turns)

/-- A rotation and the revocation of the same user's tokens by a logout. -/
def rotationAndLogout : Bool → Operation
  | true => .rotateRefreshToken "old-refresh-token" Deployment.appText "s3cret"
  | false => .revokeUserRefreshTokens 2 "logout"

/-- The rotation has ended when the revocation executes, and its successor is revoked as well. -/
theorem revocation_final_after_rotation :
    (∃ t ∈ ((operations Deployment.env rotationAndLogout ⟨0, Deployment.store⟩).run
        (turns 12 true)).world.db.refreshTokens.rows, t.userID = 2 ∧ t.isRevoked = false) ∧
      ((operations Deployment.env rotationAndLogout ⟨0, Deployment.store⟩).run
        (turns 12 true ++ (false, draw 9 21) :: turns 2 true)).world.db.Revoked (.user 2) := by
  refine ⟨by decide +kernel, revocation_final (fun j => ?_) _ _ ?_ rfl ?_⟩
  · cases j <;> rfl
  · decide +kernel
  · decide +kernel

/-- **A rotation in progress undoes the revocation**: it has read its token before the tokens of
the user are revoked, and stores the successor afterwards. -/
theorem revocation_undone_by_rotation :
    ((operations Deployment.env rotationAndLogout ⟨0, Deployment.store⟩).run
        (turns 11 true ++ turns 1 false)).world.db.Revoked (.user 2) ∧
      ¬ ((operations Deployment.env rotationAndLogout ⟨0, Deployment.store⟩).run
        (turns 11 true ++ turns 1 false ++ turns 1 true)).world.db.Revoked (.user 2) := by
  decide +kernel

end GoauthServer
