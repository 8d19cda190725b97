import GoauthServer.Framework.Exclusive
import GoauthServer.Service.Deployment
import GoauthServer.Spec.Rotation

/-!
# Rotation under interleaving

Every token family has a baton: its unrevoked refresh token or, between `MarkRefreshTokenUsed` and
`CreateRefreshToken`, the rotation that has marked it (`FamilyHolder`). Likewise a single refresh
token is held by nobody but itself while it is unrevoked, and by the rotation that marked it from
then on (`TokenHolder`). If both are exclusive, then a token is rotated at most once and a family
has at most one unrevoked token.

`MarkRefreshTokenUsed` is an update by primary key that does not look at `is_revoked`. Two rotations
that have both read the row before either marks it both go on, and both are answered with a new
token. What the statement would have to check is the condition under which the property holds:
whenever it executes, the row is not yet revoked (`MarksUnrevoked`).
-/

namespace GoauthServer

open Interact Relational

/-! ### Calls that rotate -/

/-- What the two results need to know of a call: a refresh token is looked up once, marked only
if it was read unrevoked, and a successor is stored only after that. -/
def sessionRequest (tokenHash : String) : Request → Log effects → Prop
  | .sql (.getRefreshTokenByHash h), log =>
    h = tokenHash ∧ readRecord log = none ∧ readUser log = none ∧ marked log = false
  | .sql (.getUserByID id), log => ∀ t, readRecord log = some t → id = t.userID
  | .sql (.markRefreshTokenUsed id), log =>
    ∃ t, readRecord log = some t ∧ t.isRevoked = false ∧ id = t.id ∧ marked log = false
  | .sql (.createRefreshToken p), log =>
    ∃ t u, readRecord log = some t ∧ readUser log = some u ∧ t.isRevoked = false ∧
      marked log = true ∧ created log = false ∧ p.tokenFamilyID = t.tokenFamilyID ∧
      p.userID = u.id
  | _, _ => True

theorem sessionRequest_of_rotation {env : Env} {tokenHash : String} {q : Request}
    {log : Log effects} (h : rotationRequest env tokenHash q log) :
    sessionRequest tokenHash q log := by
  cases q with
  | sql q =>
    cases q with
    | getRefreshTokenByHash hash =>
      obtain ⟨hhash, hread, huser, hmark, _⟩ := h
      exact ⟨hhash, hread, huser, hmark⟩
    | getUserByID id =>
      obtain ⟨t, hread, hid, _⟩ := h
      intro t' ht'
      rw [hread] at ht'
      obtain rfl := Option.some.inj ht'
      exact hid
    | markRefreshTokenUsed id =>
      obtain ⟨t, hread, hlive, hid, hmark, _⟩ := h
      exact ⟨t, hread, hlive, hid, hmark⟩
    | createRefreshToken p =>
      obtain ⟨t, u, a, hread, hlive, hmark, hnew, huser, _, hp⟩ := h
      exact ⟨t, u, hread, huser, hlive, hmark, hnew, hp.tokenFamilyID, hp.userID⟩
    | _ => trivial
  | _ => trivial

/-- What a call has read is in the table, in a later state of the row, and it is the token the
call was given. -/
structure Seen (tokenHash : String) (log : Log effects) (w : World) : Prop where
  record : ∀ t, readRecord log = some t →
    t.tokenHash = tokenHash ∧ ∃ t' ∈ w.db.refreshTokens.rows, t.Later t'
  user : ∀ t u, readRecord log = some t → readUser log = some u → u.id = t.userID

section Seen

variable {tokenHash : String} {log : Log effects} {q : Request} {d : Draw} {w : World}

theorem Seen.nil (tokenHash : String) (w : World) : Seen tokenHash [] w :=
  ⟨fun _ h => (by cases h), fun _ _ h => (by cases h)⟩

theorem Seen.other (h : Seen tokenHash log w) : Seen tokenHash log (respond q d w).2 := by
  refine ⟨fun t ht => ?_, h.user⟩
  obtain ⟨hhash, t', ht', hlater⟩ := h.record t ht
  obtain ⟨t'', ht'', hlater'⟩ := respond_refreshTokens q d w t' ht'
  exact ⟨hhash, t'', ht'', hlater.trans hlater'⟩

theorem Seen.self (hq : sessionRequest tokenHash q log) (h : Seen tokenHash log w) :
    Seen tokenHash (⟨q, (respond q d w).1⟩ :: log) (respond q d w).2 := by
  refine ⟨fun t ht => ?_, fun t u ht hu => ?_⟩
  · rcases readRecord_respond ht with hold | ⟨hash, rfl, hmem, hhash⟩
    · exact (h.other (q := q) (d := d)).record t hold
    · obtain ⟨t', ht', hlater⟩ := respond_refreshTokens (.sql (.getRefreshTokenByHash hash)) d w t hmem
      exact ⟨hhash.trans hq.1, t', ht', hlater⟩
  · rcases readRecord_respond ht with hold | ⟨hash, rfl, _, _⟩
    · rcases readUser_respond hu with hold' | ⟨id, rfl, _, hid⟩
      · exact h.user t u hold hold'
      · exact hid.trans (hq t hold)
    · -- the user is loaded after the token, so there is none yet
      rcases readUser_respond hu with hold' | ⟨id, hid, _, _⟩
      · rw [hq.2.2.1] at hold'
        cases hold'
      · cases hid

end Seen

/-! ### Holders -/

section Holders

variable {ι α : Type}

/-- `tokenFamilyID` is held by its unrevoked token, or by a rotation that has marked one and has
not stored the successor. -/
def FamilyHolder (c : Pool backend ι α) (tokenFamilyID : UUID) : UUID ⊕ ι → Prop
  | .inl id => ∃ t ∈ c.world.db.refreshTokens.rows,
      t.id = id ∧ t.isRevoked = false ∧ t.tokenFamilyID = tokenFamilyID
  | .inr i => ∃ t, readRecord (c.threads i).log = some t ∧ marked (c.threads i).log = true ∧
      created (c.threads i).log = false ∧ t.tokenFamilyID = tokenFamilyID

/-- The token `id` is held by itself while it is unrevoked, and by the rotation that marked it. -/
def TokenHolder (c : Pool backend ι α) (id : UUID) : UUID ⊕ ι → Prop
  | .inl id' => id' = id ∧ ∃ t ∈ c.world.db.refreshTokens.rows, t.id = id' ∧ t.isRevoked = false
  | .inr i => ∃ t, readRecord (c.threads i).log = some t ∧ marked (c.threads i).log = true ∧
      t.id = id

/-- The refresh token a request marks as used. -/
def Request.marks? : Request → Option UUID
  | .sql (.markRefreshTokenUsed id) => some id
  | _ => none

/-- The condition on a step: where it executes `MarkRefreshTokenUsed`, the row is not revoked. -/
def MarksUnrevoked (c : Pool backend ι α) (i : ι) (d : Draw) : Prop :=
  ∀ id ∈ (c.next? i).bind Request.marks?, d.fault = false →
    ∀ t ∈ c.world.db.refreshTokens.rows, t.id = id → t.isRevoked = false

instance (c : Pool backend ι α) (i : ι) (d : Draw) : Decidable (MarksUnrevoked c i d) :=
  Option.decidableForallMem _

/-- Each family has at most one unrevoked refresh token. -/
def Store.SingleLive (s : Store) : Prop :=
  ∀ t ∈ s.refreshTokens.rows, ∀ t' ∈ s.refreshTokens.rows, t.isRevoked = false →
    t'.isRevoked = false → t.tokenFamilyID = t'.tokenFamilyID → t = t'

instance (s : Store) : Decidable s.SingleLive :=
  inferInstanceAs (Decidable (∀ t ∈ s.refreshTokens.rows, ∀ t' ∈ s.refreshTokens.rows, _))

theorem singleLive_of_exclusive {c : Pool backend ι α} (h : Exclusive (FamilyHolder c)) :
    c.world.db.SingleLive := by
  intro t ht t' ht' hlive hlive' hfam
  have hid := h t.tokenFamilyID (.inl t.id) (.inl t'.id) ⟨t, ht, rfl, hlive, rfl⟩
    ⟨t', ht', rfl, hlive', hfam.symm⟩
  exact Store.refreshToken_eq ht ht' (Or.inl (Sum.inl.inj hid))

/-- The calls know what they have read, and families and tokens have at most one holder. -/
structure RotationInv (tokenHash : ι → String) (c : Pool backend ι α) : Prop where
  seen : ∀ i, Seen (tokenHash i) (c.threads i).log c.world
  family : Exclusive (FamilyHolder c)
  token : Exclusive (TokenHolder c)

variable {tokenHash : ι → String} {c : Pool backend ι α} {i : ι} {d : Draw} {q : Request}
  {k : q.Reply → Call α}

/-- The row that a call is about to mark is in the table and, by the guard, unrevoked. -/
theorem RotationInv.unrevoked_of_mark (h : RotationInv tokenHash c) {t : RefreshToken}
    (hi : c.next? i = some (.sql (.markRefreshTokenUsed t.id)))
    (hread : readRecord (c.threads i).log = some t) (hguard : MarksUnrevoked c i d) (hf : d.fault = false) :
    ∃ t' ∈ c.world.db.refreshTokens.rows, t.Later t' ∧ t'.isRevoked = false := by
  obtain ⟨_, t', ht', hlater⟩ := (h.seen i).record t hread
  refine ⟨t', ht', hlater, hguard t.id ?_ hf t' ht' hlater.id⟩
  rw [hi]
  rfl

/-- Nobody holds an identifier that is about to be inserted. -/
theorem RotationInv.free_of_insert (h : RotationInv tokenHash c) {r : RefreshToken} {t : Table RefreshToken}
    (hins : c.world.db.refreshTokens.insert r = some t) (z : UUID ⊕ ι) : ¬ TokenHolder c r.id z := by
  have hno : ∀ a ∈ c.world.db.refreshTokens.rows, a.id ≠ r.id := by
    intro a ha heq
    have hclash := (Table.insert_eq_some hins).2 a ha
    simp [Keyed.clash, Keyed.key, heq] at hclash
  intro hz
  cases z with
  | inl id =>
    obtain ⟨rfl, t, ht, hid, _⟩ := hz
    exact hno t ht hid
  | inr i =>
    obtain ⟨t, hread, _, hid⟩ := hz
    obtain ⟨_, t', ht', hlater⟩ := (h.seen i).record t hread
    exact hno t' ht' (hlater.id.trans hid)

variable [DecidableEq ι]

/-- An unrevoked row after a step: it was there and was not marked, or the call has just stored
it. -/
theorem live_step (hi : (c.threads i).prog = .call q k) {t' : RefreshToken}
    (h : t' ∈ (c.step i d).world.db.refreshTokens.rows) (hlive : t'.isRevoked = false) :
    (∃ t ∈ c.world.db.refreshTokens.rows, t.isRevoked = false ∧ t.Later t' ∧
      ∀ id, q = .sql (.markRefreshTokenUsed id) → d.fault = false → t.id ≠ id) ∨
    ∃ p, q = .sql (.createRefreshToken p) ∧ created ((c.step i d).threads i).log = true ∧
      t' = p.row (c.world.wait d.wait).now d.uuid := by
  rw [Pool.step_world_of_call hi] at h
  rw [Pool.step_threads_self hi]
  rcases respond_live h hlive with ⟨t, ht, hl, hlater, hrev⟩ | ⟨p, rfl, hf, rfl⟩
  · exact Or.inl ⟨t, ht, hl, hlater, fun id hq hf => hrev _ hq hf⟩
  · cases hc : created (⟨.sql (.createRefreshToken p),
        (respond (.sql (.createRefreshToken p)) d c.world).1⟩ :: (c.threads i).log) with
    | true => exact Or.inr ⟨p, rfl, rfl, rfl⟩
    | false =>
      -- the statement failed, and the row was there before
      have hrows := (created_respond hc).2 p rfl
      rw [show (backend.respond (.sql (.createRefreshToken p)) d c.world).2.db.refreshTokens =
        c.world.db.refreshTokens from hrows] at h
      exact Or.inl ⟨_, h, hlive, .refl _, fun id hq => by cases hq⟩

/-- A call that holds a marked token after a step held it before, or has just marked it. -/
theorem spent_step (hi : (c.threads i).prog = .call q k)
    (hq : sessionRequest (tokenHash i) q (c.threads i).log) {t : RefreshToken}
    (hread : readRecord ((c.step i d).threads i).log = some t)
    (hmark : marked ((c.step i d).threads i).log = true) :
    readRecord (c.threads i).log = some t ∧ (marked (c.threads i).log = true ∨
        q = .sql (.markRefreshTokenUsed t.id) ∧ d.fault = false) := by
  rw [Pool.step_threads_self hi] at hread hmark
  rcases marked_respond hmark with hold | ⟨id, rfl, hf⟩
  · rcases readRecord_respond hread with hold' | ⟨hash, rfl, _, _⟩
    · exact ⟨hold', Or.inl hold⟩
    · rw [hq.2.2.2] at hold
      cases hold
  · obtain ⟨t', hread', _, rfl, _⟩ := hq
    have ht : readRecord (c.threads i).log = some t := hread
    rw [hread'] at ht
    obtain rfl := Option.some.inj ht
    exact ⟨hread', Or.inr ⟨rfl, hf⟩⟩

/-! ### The baton of a family -/

theorem familyHolder_row_step (hi : (c.threads i).prog = .call q k) {F id : UUID}
    (h : FamilyHolder (c.step i d) F (.inl id)) :
    (FamilyHolder c F (.inl id) ∧ ∀ id', q = .sql (.markRefreshTokenUsed id') → d.fault = false → id ≠ id') ∨
    ∃ p, q = .sql (.createRefreshToken p) ∧ created ((c.step i d).threads i).log = true ∧
      id = d.uuid ∧ p.tokenFamilyID = F := by
  obtain ⟨t', ht', rfl, hlive, rfl⟩ := h
  rcases live_step hi ht' hlive with ⟨t, ht, hl, hlater, hne⟩ | ⟨p, hp, hc, rfl⟩
  · refine Or.inl ⟨⟨t, ht, hlater.id.symm, hl, hlater.tokenFamilyID.symm⟩, ?_⟩
    intro id' hid' hf
    rw [hlater.id]
    exact hne id' hid' hf
  · exact Or.inr ⟨p, hp, hc, rfl, rfl⟩

theorem familyHolder_other_step {F : UUID} {j : ι} (hij : j ≠ i)
    (h : FamilyHolder (c.step i d) F (.inr j)) : FamilyHolder c F (.inr j) := by
  obtain ⟨t, hj⟩ := h
  rw [Pool.step_threads_of_ne hij] at hj
  exact ⟨t, hj⟩

theorem familyHolder_self_step (hi : (c.threads i).prog = .call q k)
    (hq : sessionRequest (tokenHash i) q (c.threads i).log) {F : UUID}
    (h : FamilyHolder (c.step i d) F (.inr i)) :
    FamilyHolder c F (.inr i) ∨ ∃ t, readRecord (c.threads i).log = some t ∧
      q = .sql (.markRefreshTokenUsed t.id) ∧ d.fault = false ∧ t.tokenFamilyID = F := by
  obtain ⟨t, hread, hmark, hnew, rfl⟩ := h
  obtain ⟨hread', hmark' | ⟨hmark', hf⟩⟩ := spent_step hi hq hread hmark
  · rw [Pool.step_threads_self hi] at hnew
    exact Or.inl ⟨t, hread', hmark', (created_respond hnew).1, rfl⟩
  · exact Or.inr ⟨t, hread', hmark', hf, rfl⟩

/-- A step hands the baton of a family from the marked token to the call, or from the call to the
token it stores, or drops it. -/
theorem RotationInv.family_step (h : RotationInv tokenHash c) (hi : (c.threads i).prog = .call q k)
    (hq : sessionRequest (tokenHash i) q (c.threads i).log) (hguard : MarksUnrevoked c i d) :
    Exclusive (FamilyHolder (c.step i d)) := by
  by_cases hm : ∃ id, q = .sql (.markRefreshTokenUsed id) ∧ d.fault = false
  · -- from the marked token to the call
    obtain ⟨id, rfl, hf⟩ := hm
    have hreq := hq
    obtain ⟨t, hread, _, rfl, _⟩ := hreq
    obtain ⟨t', ht', hlater, hlive⟩ := h.unrevoked_of_mark (Pool.next?_of_call hi) hread hguard hf
    refine h.family.handOver (.inl t.id) (.inr i) fun F z hz => ?_
    cases z with
    | inl id' =>
      rcases familyHolder_row_step hi hz with ⟨hold, hne⟩ | ⟨p, hp, _⟩
      · exact Or.inl ⟨hold, fun heq => hne t.id rfl hf (Sum.inl.inj heq)⟩
      · cases hp
    | inr j =>
      by_cases hij : j = i
      · subst hij
        rcases familyHolder_self_step hi hq hz with hold | ⟨t₂, hread₂, _, _, rfl⟩
        · exact Or.inl ⟨hold, by simp⟩
        · obtain rfl := Option.some.inj (hread.symm.trans hread₂)
          exact Or.inr ⟨rfl, t', ht', hlater.id, hlive, hlater.tokenFamilyID⟩
      · exact Or.inl ⟨familyHolder_other_step hij hz, by simp⟩
  have hself : ∀ F, FamilyHolder (c.step i d) F (.inr i) → FamilyHolder c F (.inr i) := by
    intro F hz
    rcases familyHolder_self_step hi hq hz with hold | ⟨t, _, hmark, hf, _⟩
    · exact hold
    · exact absurd ⟨t.id, hmark, hf⟩ hm
  by_cases hc : ∃ p, q = .sql (.createRefreshToken p) ∧ created ((c.step i d).threads i).log = true
  · -- from the call to the token it has stored
    obtain ⟨p, rfl, hcreated⟩ := hc
    obtain ⟨t, u, hread, _, _, hmark, hnew, hfam, _⟩ := hq
    refine h.family.handOver (.inr i) (.inl d.uuid) fun F z hz => ?_
    cases z with
    | inl id =>
      rcases familyHolder_row_step hi hz with ⟨hold, _⟩ | ⟨p', hp', _, rfl, rfl⟩
      · exact Or.inl ⟨hold, by simp⟩
      · cases hp'
        exact Or.inr ⟨rfl, t, hread, hmark, hnew, hfam.symm⟩
    | inr j =>
      by_cases hij : j = i
      · subst hij
        obtain ⟨_, _, _, hnew', _⟩ := hz
        rw [hcreated] at hnew'
        cases hnew'
      · exact Or.inl ⟨familyHolder_other_step hij hz, fun heq => hij (Sum.inr.inj heq)⟩
  · refine h.family.mono fun F z hz => ?_
    cases z with
    | inl id =>
      rcases familyHolder_row_step hi hz with ⟨hold, _⟩ | ⟨p, hp, hcreated, _⟩
      · exact hold
      · exact absurd ⟨p, hp, hcreated⟩ hc
    | inr j =>
      by_cases hij : j = i
      · subst hij
        exact hself F hz
      · exact familyHolder_other_step hij hz

/-! ### The holder of a token -/

theorem tokenHolder_row_step (hi : (c.threads i).prog = .call q k) {id id' : UUID}
    (h : TokenHolder (c.step i d) id (.inl id')) :
    (TokenHolder c id (.inl id') ∧
      ∀ id'', q = .sql (.markRefreshTokenUsed id'') → d.fault = false → id' ≠ id'') ∨
    id = d.uuid ∧ id' = d.uuid ∧ ∃ p, q = .sql (.createRefreshToken p) ∧
      created ((c.step i d).threads i).log = true := by
  obtain ⟨rfl, t', ht', rfl, hlive⟩ := h
  rcases live_step hi ht' hlive with ⟨t, ht, hl, hlater, hne⟩ | ⟨p, hp, hc, rfl⟩
  · refine Or.inl ⟨⟨rfl, t, ht, hlater.id.symm, hl⟩, ?_⟩
    intro id' hid' hf
    rw [hlater.id]
    exact hne id' hid' hf
  · exact Or.inr ⟨rfl, rfl, p, hp, hc⟩

theorem tokenHolder_call_step (hi : (c.threads i).prog = .call q k)
    (hq : sessionRequest (tokenHash i) q (c.threads i).log) {id : UUID} {j : ι}
    (h : TokenHolder (c.step i d) id (.inr j)) :
    TokenHolder c id (.inr j) ∨ j = i ∧ q = .sql (.markRefreshTokenUsed id) ∧ d.fault = false := by
  by_cases hij : j = i
  · subst hij
    obtain ⟨t, hread, hmark, rfl⟩ := h
    obtain ⟨hread', hmark' | hnow⟩ := spent_step hi hq hread hmark
    · exact Or.inl ⟨t, hread', hmark', rfl⟩
    · exact Or.inr ⟨rfl, hnow⟩
  · obtain ⟨t, hj⟩ := h
    rw [Pool.step_threads_of_ne hij] at hj
    exact Or.inl ⟨t, hj⟩

theorem RotationInv.token_step (h : RotationInv tokenHash c) (hi : (c.threads i).prog = .call q k)
    (hq : sessionRequest (tokenHash i) q (c.threads i).log) (hguard : MarksUnrevoked c i d) :
    Exclusive (TokenHolder (c.step i d)) := by
  by_cases hm : ∃ id, q = .sql (.markRefreshTokenUsed id) ∧ d.fault = false
  · obtain ⟨id, rfl, hf⟩ := hm
    have hreq := hq
    obtain ⟨t, hread, _, rfl, _⟩ := hreq
    obtain ⟨t', ht', hlater, hlive⟩ := h.unrevoked_of_mark (Pool.next?_of_call hi) hread hguard hf
    refine h.token.handOver (.inl t.id) (.inr i) fun id z hz => ?_
    cases z with
    | inl id' =>
      rcases tokenHolder_row_step hi hz with ⟨hold, hne⟩ | ⟨_, _, p, hp, _⟩
      · exact Or.inl ⟨hold, fun heq => hne t.id rfl hf (Sum.inl.inj heq)⟩
      · cases hp
    | inr j =>
      rcases tokenHolder_call_step hi hq hz with hold | ⟨rfl, hid, _⟩
      · exact Or.inl ⟨hold, by simp⟩
      · cases hid
        exact Or.inr ⟨rfl, rfl, t', ht', hlater.id, hlive⟩
  have hcall : ∀ id j, TokenHolder (c.step i d) id (.inr j) → TokenHolder c id (.inr j) := by
    intro id j hz
    rcases tokenHolder_call_step hi hq hz with hold | ⟨_, hnow⟩
    · exact hold
    · exact absurd ⟨id, hnow⟩ hm
  by_cases hc : ∃ p, q = .sql (.createRefreshToken p) ∧ created ((c.step i d).threads i).log = true
  · obtain ⟨p, rfl, hcreated⟩ := hc
    obtain ⟨_, _, _, _, _, _, hnew, _, _⟩ := hq
    rw [Pool.step_threads_self hi] at hcreated
    rcases insert_of_created_respond hcreated with hold | ⟨p', hp', hins⟩
    · rw [hnew] at hold
      cases hold
    · refine h.token.add d.uuid (.inl d.uuid) (h.free_of_insert hins) fun id z hz => ?_
      cases z with
      | inl id' =>
        rcases tokenHolder_row_step hi hz with ⟨hold, _⟩ | ⟨rfl, rfl, _⟩
        · exact Or.inl hold
        · exact Or.inr ⟨rfl, rfl⟩
      | inr j => exact Or.inl (hcall id j hz)
  · refine h.token.mono fun id z hz => ?_
    cases z with
    | inl id' =>
      rcases tokenHolder_row_step hi hz with ⟨hold, _⟩ | ⟨_, _, hp⟩
      · exact hold
      · exact absurd hp hc
    | inr j => exact hcall id j hz

/-- **One step keeps the holders exclusive.** -/
theorem RotationInv.step (h : RotationInv tokenHash c) (hi : (c.threads i).prog = .call q k)
    (hq : sessionRequest (tokenHash i) q (c.threads i).log) (hguard : MarksUnrevoked c i d) :
    RotationInv tokenHash (c.step i d) where
  seen := Pool.forall_log_step (J := fun i => Seen (tokenHash i)) hi (fun hs => hs.self hq)
    (fun _ _ hs => hs.other) h.seen
  family := h.family_step hi hq hguard
  token := h.token_step hi hq hguard

end Holders

/-! ### Concurrent rotations -/

/-- The arguments of `RotateRefreshToken`. -/
structure RotateArgs where
  rawToken : String
  clientID : String
  clientSecret : String

/-- Calls of `RotateRefreshToken` that are about to start. -/
def rotations {ι : Type} (env : Env) (args : ι → RotateArgs) (w : World) :
    Pool backend ι (Except AuthError TokenResponse) :=
  Pool.start (fun i =>
    rotateRefreshToken env (args i).rawToken (args i).clientID (args i).clientSecret) w

section Rotations

variable {ι : Type} {env : Env} {args : ι → RotateArgs} {w : World}

theorem rotations_obeys (env : Env) (args : ι → RotateArgs) (w : World) :
    Pool.Obeys (fun i => rotationProtocol env (env.lib.sha256Hex (args i).rawToken)) (rotations env args w) :=
  Pool.Obeys.start (B := backend) (fun i => rotateRefreshToken_obeys env (args i).rawToken (args i).clientID
    (args i).clientSecret) w

theorem rotationInv_start (hw : w.db.SingleLive) :
    RotationInv (fun i => env.lib.sha256Hex (args i).rawToken) (rotations env args w) where
  seen i := Seen.nil _ w
  family := by
    -- no call has started, so only rows hold a family
    intro F x y hx hy
    rcases x with id | i
    · rcases y with id' | j
      · obtain ⟨t, ht, rfl, hlive, hfam⟩ := hx
        obtain ⟨t', ht', rfl, hlive', hfam'⟩ := hy
        rw [hw t ht t' ht' hlive hlive' (hfam.trans hfam'.symm)]
      · obtain ⟨t, hread, _⟩ := hy
        cases hread
    · obtain ⟨t, hread, _⟩ := hx
      cases hread
  token := by
    intro id x y hx hy
    rcases x with id' | i
    · rcases y with id'' | j
      · rw [hx.1, hy.1]
      · obtain ⟨t, hread, _⟩ := hy
        cases hread
    · obtain ⟨t, hread, _⟩ := hx
      cases hread

variable [DecidableEq ι]

theorem rotationInv_run (hw : w.db.SingleLive) {schedule : List (ι × Draw)}
    (hguard : Pool.Along MarksUnrevoked (rotations env args w) schedule) :
    RotationInv (fun i => env.lib.sha256Hex (args i).rawToken) ((rotations env args w).run schedule) :=
  Pool.invariant (fun _ _ _ _ _ hi hq hC hI => hI.step hi (sessionRequest_of_rotation hq) hC)
    (rotations_obeys env args w) (rotationInv_start hw) hguard

/-- **A refresh token is rotated at most once**, if every `MarkRefreshTokenUsed` finds its row
unrevoked: whatever the schedule, of the calls that present one token at most one is answered with
a response, and each family has at most one unrevoked token. -/
theorem rotate_at_most_once (hw : w.db.SingleLive) (schedule : List (ι × Draw))
    (hguard : Pool.Along MarksUnrevoked (rotations env args w) schedule) :
    (∀ i j, (args i).rawToken = (args j).rawToken →
      ((rotations env args w).run schedule).Succeeded i →
      ((rotations env args w).run schedule).Succeeded j → i = j) ∧
    ((rotations env args w).run schedule).world.db.SingleLive := by
  have hinv := rotationInv_run hw hguard
  refine ⟨fun i j hraw ⟨resp, hi⟩ ⟨resp', hj⟩ => ?_, singleLive_of_exclusive hinv.family⟩
  have hobeys := (rotations_obeys env args w).run schedule
  obtain ⟨t, _, hread, _, hmark, _⟩ := hobeys.result hi resp rfl
  obtain ⟨t', _, hread', _, hmark', _⟩ := hobeys.result hj resp' rfl
  -- the two rows have one hash, so they are one row, which both calls hold
  obtain ⟨hhash, a, ha, hlater⟩ := (hinv.seen i).record t hread
  obtain ⟨hhash', a', ha', hlater'⟩ := (hinv.seen j).record t' hread'
  have hrow : a = a' := Store.refreshToken_eq ha ha' (Or.inr (by
    rw [hlater.tokenHash, hlater'.tokenHash, hhash, hhash', hraw]))
  have hid : t'.id = t.id := by rw [← hlater.id, ← hlater'.id, hrow]
  exact Sum.inr.inj (hinv.token t.id (.inr i) (.inr j) ⟨t, hread, hmark, rfl⟩
    ⟨t', hread', hmark', hid⟩)

end Rotations

open Deployment (turns)

/-- Two rotations of one refresh token, in the deployment. -/
def twoRotations : Pool backend Bool (Except AuthError TokenResponse) :=
  rotations Deployment.env (fun _ => ⟨"old-refresh-token", Deployment.appText, "s3cret"⟩)
    ⟨0, Deployment.store⟩

/-- One after the other: the first is answered, the second finds the token revoked. -/
theorem rotate_at_most_once_in_turn :
    Pool.Along MarksUnrevoked twoRotations (turns 12 true ++ turns 12 false) ∧
      (twoRotations.run (turns 12 true ++ turns 12 false)).Succeeded true ∧
      ¬ (twoRotations.run (turns 12 true ++ turns 12 false)).Succeeded false ∧
      (twoRotations.run (turns 12 true ++ turns 12 false)).world.db.SingleLive := by
  have hguard : Pool.Along MarksUnrevoked twoRotations (turns 12 true ++ turns 12 false) := by
    decide +kernel
  have hanswered : (twoRotations.run (turns 12 true ++ turns 12 false)).Succeeded true := by
    decide +kernel
  obtain ⟨honce, hlive⟩ := rotate_at_most_once (by decide) _ hguard
  exact ⟨hguard, hanswered, fun h => Bool.noConfusion (honce true false rfl hanswered h), hlive⟩

/-- **Both rotations are answered** where each has read the token before the other marks it, and
the family is left with two unrevoked tokens. -/
theorem rotate_twice_interleaved :
    Deployment.store.SingleLive ∧
      (twoRotations.run (turns 3 true ++ turns 3 false ++ turns 9 true ++
        turns 9 false)).Succeeded true ∧
      (twoRotations.run (turns 3 true ++ turns 3 false ++ turns 9 true ++
        turns 9 false)).Succeeded false ∧
      ¬ (twoRotations.run (turns 3 true ++ turns 3 false ++ turns 9 true ++
        turns 9 false)).world.db.SingleLive := by
  decide +kernel

end GoauthServer
