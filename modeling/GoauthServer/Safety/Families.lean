import GoauthServer.Framework.Lineage
import GoauthServer.Safety.RotationRace
import GoauthServer.Spec.Operations

/-!
# Token families over sequential runs

A family of refresh tokens is a lineage: the token of the code exchange, then the successors, each
created by the rotation of the one before it. `Store.FamilyWf` says that all families of a store
are of this form, that a token with a successor is spent, and that the access tokens the rows link
to are those of the same client and user. Every completed operation keeps it
(`Operation.run_familyWf`), and so every sequential run does (`runAll_familyWf`), wherever the
statements of an operation fail.

Three facts carry the proof.

* Every statement but `CreateRefreshToken` changes the rows in place and keeps the pointers
  (`Query.refreshTokens_step`), so it keeps the lineages (`Store.FamilyWf.exec`).
* An exchange inserts the first token of a family that did not exist: the family's UUID is fresh.
* A rotation inserts a successor of the token it has read. The token was unrevoked when it was
  read, so it had no successor, and nothing else runs in between (`RotationState.last`).
-/

namespace GoauthServer

open Interact Relational

/-! ### Well-formed families -/

/-- The refresh tokens of a family. -/
def Store.family (s : Store) (tokenFamilyID : UUID) : List RefreshToken :=
  s.refreshTokens.rows.filter fun t => t.tokenFamilyID == tokenFamilyID

/-- The back pointers of refresh tokens form a lineage. -/
abbrev Linked (l : List RefreshToken) : Prop :=
  Lineage RefreshToken.id RefreshToken.previousTokenID l

/-- The families of a store are well-formed. -/
structure Store.FamilyWf (s : Store) : Prop where
  /-- The tokens of a family share client, user and scope. -/
  shared : ∀ t ∈ s.refreshTokens.rows, ∀ t' ∈ s.refreshTokens.rows,
    t.tokenFamilyID = t'.tokenFamilyID →
      t.clientID = t'.clientID ∧ t.userID = t'.userID ∧ t.scope = t'.scope
  /-- A family is one chain through `previous_token_id`. -/
  chain : ∀ tokenFamilyID, ∃ l, l.Perm (s.family tokenFamilyID) ∧ Linked l
  /-- A token with a successor is revoked and used. -/
  spent : ∀ t ∈ s.refreshTokens.rows, ∀ t' ∈ s.refreshTokens.rows,
    t'.previousTokenID = some t.id → t.isRevoked = true ∧ t.usedAt.isSome = true
  /-- The linked access token is one of the same client and user. -/
  access : ∀ t ∈ s.refreshTokens.rows, ∀ id, t.accessTokenID = some id →
    ∃ a ∈ s.accessTokens.rows, a.id = id ∧ a.clientID = some t.clientID ∧ a.userID = t.userID

theorem Store.mem_family {s : Store} {F : UUID} {t : RefreshToken} :
    t ∈ s.family F ↔ t ∈ s.refreshTokens.rows ∧ t.tokenFamilyID = F := by
  simp [Store.family, List.mem_filter]

theorem Store.nodup_family_ids (s : Store) (F : UUID) : ((s.family F).map RefreshToken.id).Nodup := by
  refine List.pairwise_map.mpr ((s.refreshTokens.unique.filter _).imp fun {x y} hclash hid => ?_)
  simp [Keyed.clash, Keyed.key, hid] at hclash

namespace Store.FamilyWf

variable {s : Store} {t : RefreshToken}

/-- The predecessor of a token is in the same family. -/
theorem exists_pred (h : s.FamilyWf) (ht : t ∈ s.refreshTokens.rows) {id : UUID}
    (hprev : t.previousTokenID = some id) :
    ∃ a ∈ s.refreshTokens.rows, a.id = id ∧ a.tokenFamilyID = t.tokenFamilyID := by
  obtain ⟨l, hperm, hlinked⟩ := h.chain t.tokenFamilyID
  have htl : t ∈ l := hperm.mem_iff.mpr (Store.mem_family.mpr ⟨ht, rfl⟩)
  obtain ⟨a, ha, hid⟩ := hlinked.exists_pred htl hprev
  obtain ⟨hrow, hfam⟩ := Store.mem_family.mp (hperm.mem_iff.mp ha)
  exact ⟨a, hrow, hid, hfam⟩

/-- Exactly one token of a family has no predecessor: there is one, and no other. -/
theorem existsUnique_root (h : s.FamilyWf) (ht : t ∈ s.refreshTokens.rows) :
    ∃ r ∈ s.family t.tokenFamilyID, r.previousTokenID = none ∧
      ∀ r' ∈ s.family t.tokenFamilyID, r'.previousTokenID = none → r' = r := by
  obtain ⟨l, hperm, hlinked⟩ := h.chain t.tokenFamilyID
  have htl : t ∈ l := hperm.mem_iff.mpr (Store.mem_family.mpr ⟨ht, rfl⟩)
  cases l with
  | nil => cases htl
  | cons r l =>
    have hr : r.previousTokenID = none := hlinked.root r rfl
    refine ⟨r, hperm.mem_iff.mp List.mem_cons_self, hr, fun r' hr' hp' => ?_⟩
    exact hlinked.root_unique (hperm.mem_iff.mpr hr') List.mem_cons_self hp' hr

/-- No token is the predecessor of two. -/
theorem successor_unique (h : s.FamilyWf) {t t' : RefreshToken} (ht : t ∈ s.refreshTokens.rows)
    (ht' : t' ∈ s.refreshTokens.rows) {id : UUID} (hp : t.previousTokenID = some id)
    (hp' : t'.previousTokenID = some id) : t = t' := by
  -- both are in the family of their predecessor
  obtain ⟨a, ha, haid, hfam⟩ := h.exists_pred ht hp
  obtain ⟨a', ha', haid', hfam'⟩ := h.exists_pred ht' hp'
  have haa : a = a' := Store.refreshToken_eq ha ha' (Or.inl (haid.trans haid'.symm))
  have hff : t'.tokenFamilyID = t.tokenFamilyID := by rw [← hfam', ← hfam, haa]
  obtain ⟨l, hperm, hlinked⟩ := h.chain t.tokenFamilyID
  have hnodup : (l.map RefreshToken.id).Nodup :=
    ((hperm.map RefreshToken.id).nodup_iff).mpr (s.nodup_family_ids _)
  exact hlinked.succ_unique hnodup (hperm.mem_iff.mpr (Store.mem_family.mpr ⟨ht, rfl⟩))
    (hperm.mem_iff.mpr (Store.mem_family.mpr ⟨ht', hff⟩)) hp hp'

/-- An unrevoked token has no successor. -/
theorem no_successor (h : s.FamilyWf) (ht : t ∈ s.refreshTokens.rows)
    (hlive : t.isRevoked = false) : ∀ b ∈ s.refreshTokens.rows, b.previousTokenID ≠ some t.id := by
  intro b hb hprev
  have hrev := (h.spent t ht b hb hprev).1
  rw [hlive] at hrev
  cases hrev

/-- **At most one token of a family is unrevoked**, the last of its chain. -/
theorem singleLive (h : s.FamilyWf) : s.SingleLive := by
  intro t ht t' ht' hlive hlive' hfam
  obtain ⟨l, hperm, hlinked⟩ := h.chain t.tokenFamilyID
  have hlast : ∀ x ∈ s.refreshTokens.rows, x.isRevoked = false →
      x.tokenFamilyID = t.tokenFamilyID → l.getLast? = some x := by
    intro x hx hxlive hxfam
    refine hlinked.last (hperm.mem_iff.mpr (Store.mem_family.mpr ⟨hx, hxfam⟩)) fun b hb => ?_
    exact h.no_successor hx hxlive b (Store.mem_family.mp (hperm.mem_iff.mp hb)).1
  exact Option.some.inj ((hlast t ht hlive rfl).symm.trans (hlast t' ht' hlive' hfam.symm))

/-! #### Statements that create no refresh token -/

variable {s' : Store}

/-- Rows that changed in place are still chained, and the links lead to the same access tokens. -/
theorem map (h : s.FamilyWf) {g : RefreshToken → RefreshToken} (hg : ∀ t : RefreshToken, t.Later (g t))
    (hrows : s'.refreshTokens.rows = s.refreshTokens.rows.map g)
    (hacc : ∀ t ∈ s'.refreshTokens.rows, ∀ a ∈ s.accessTokens.rows, t.accessTokenID = some a.id →
      ∃ a' ∈ s'.accessTokens.rows, a.Later a') : s'.FamilyWf := by
  have horigin : ∀ t' ∈ s'.refreshTokens.rows, ∃ t ∈ s.refreshTokens.rows, g t = t' := by
    intro t' ht'
    rw [hrows] at ht'
    exact List.mem_map.mp ht'
  refine ⟨?_, fun F => ?_, ?_, ?_⟩
  · intro t ht t' ht' hfam
    obtain ⟨t, hr, rfl⟩ := horigin t ht
    obtain ⟨t', hr', rfl⟩ := horigin t' ht'
    rw [(hg t).tokenFamilyID, (hg t').tokenFamilyID] at hfam
    rw [(hg t).clientID, (hg t').clientID, (hg t).userID, (hg t').userID, (hg t).scope, (hg t').scope]
    exact h.shared t hr t' hr' hfam
  · obtain ⟨l, hperm, hlinked⟩ := h.chain F
    have hfam : s'.family F = (s.family F).map g := by
      unfold Store.family
      rw [hrows, List.filter_map]
      congr 1
      refine List.filter_congr fun t _ => ?_
      show ((g t).tokenFamilyID == F) = (t.tokenFamilyID == F)
      rw [(hg t).tokenFamilyID]
    rw [hfam]
    exact ⟨l.map g, hperm.map g, hlinked.map (fun t => (hg t).id) fun t => (hg t).previousTokenID⟩
  · intro t ht t' ht' hprev
    obtain ⟨t, hr, rfl⟩ := horigin t ht
    obtain ⟨t', hr', rfl⟩ := horigin t' ht'
    rw [(hg t).id, (hg t').previousTokenID] at hprev
    obtain ⟨hrev, hused⟩ := h.spent t hr t' hr' hprev
    exact ⟨(hg t).isRevoked hrev, (hg t).usedAt hused⟩
  · intro t ht id hlink
    obtain ⟨t₀, hr, heq⟩ := horigin t ht
    have hlater : t₀.Later t := by rw [← heq]; exact hg t₀
    -- a link that is still there was there before
    have hlink₀ : t₀.accessTokenID = some id := by
      rcases hlater.accessTokenID with hsame | hnull
      · rw [← hsame]; exact hlink
      · rw [hnull] at hlink
        cases hlink
    obtain ⟨a, ha, hid, hclient, huser⟩ := h.access t₀ hr id hlink₀
    obtain ⟨a', ha', hl⟩ := hacc t ht a ha (by rw [hid]; exact hlink)
    refine ⟨a', ha', hl.id.trans hid, ?_, ?_⟩
    · rw [hl.clientID, hlater.clientID]; exact hclient
    · rw [hl.userID, hlater.userID]; exact huser

/-- A linked access token survives every statement: the cleanup, which may delete it, then also
removes the link. -/
theorem linked_exec (q : Query) (now : Time) (fresh : UUID)
    (ht : t ∈ (q.exec now fresh s).2.refreshTokens.rows) {a : AccessToken}
    (ha : a ∈ s.accessTokens.rows) (hlink : t.accessTokenID = some a.id) :
    ∃ a' ∈ (q.exec now fresh s).2.accessTokens.rows, a.Later a' := by
  by_cases hq : q = .deleteExpiredAccessTokens
  · subst hq
    have hvalid : now ≤ a.expiresAt := by
      by_contra hexp
      exact unlinked_of_expired ha (not_le.mp hexp) ht hlink
    exact ⟨a, mem_deleteExpiredAccessTokens.mpr ⟨ha, hvalid⟩, .refl a⟩
  · exact (q.accessTokens_step now fresh s).evolves hq a ha

end Store.FamilyWf

/-! #### Creating a refresh token -/

/-- `r` may be added to the families of `s`: it starts a family, or it succeeds a spent token that
has no successor yet. -/
structure Store.Admits (s : Store) (r : RefreshToken) : Prop where
  shared : ∀ t ∈ s.refreshTokens.rows, t.tokenFamilyID = r.tokenFamilyID →
    t.clientID = r.clientID ∧ t.userID = r.userID ∧ t.scope = r.scope
  place : (r.previousTokenID = none ∧ s.family r.tokenFamilyID = []) ∨
    ∃ t ∈ s.refreshTokens.rows, t.tokenFamilyID = r.tokenFamilyID ∧
      r.previousTokenID = some t.id ∧ t.isRevoked = true ∧ t.usedAt.isSome = true ∧
      ∀ b ∈ s.refreshTokens.rows, b.previousTokenID ≠ some t.id
  access : ∀ id, r.accessTokenID = some id →
    ∃ a ∈ s.accessTokens.rows, a.id = id ∧ a.clientID = some r.clientID ∧ a.userID = r.userID

namespace Store.FamilyWf

variable {s s' : Store} {r : RefreshToken}

/-- The chain of the family grows by the new token; the other chains stay. -/
theorem chain_append (h : s.FamilyWf)
    (hrows : s'.refreshTokens.rows = s.refreshTokens.rows ++ [r]) (hr : s.Admits r) (F : UUID) :
    ∃ l, l.Perm (s'.family F) ∧ Linked l := by
  obtain ⟨l, hperm, hlinked⟩ := h.chain F
  by_cases hF : r.tokenFamilyID = F
  · have hfam : s'.family F = s.family F ++ [r] := by
      simp [Store.family, hrows, hF]
    rw [hfam]
    refine ⟨l ++ [r], hperm.append_right [r], ?_⟩
    rcases hr.place with ⟨hroot, hnew⟩ | ⟨t, ht, htF, hprev, _, _, hno⟩
    · -- the first token of a family that did not exist
      rw [hF] at hnew
      rw [hnew] at hperm
      rw [hperm.eq_nil]
      exact Lineage.singleton hroot
    · -- the successor of a token that nobody names, which is the last of its chain
      refine hlinked.append (hlinked.last ?_ fun b hb => ?_) hprev
      · exact hperm.mem_iff.mpr (Store.mem_family.mpr ⟨ht, htF.trans hF⟩)
      · exact hno b (Store.mem_family.mp (hperm.mem_iff.mp hb)).1
  · have hfam : s'.family F = s.family F := by
      simp [Store.family, hrows, hF]
    rw [hfam]
    exact ⟨l, hperm, hlinked⟩

/-- A token that is admitted leaves the families well-formed. -/
theorem append (h : s.FamilyWf) (hins : s.refreshTokens.insert r = some s'.refreshTokens)
    (hacc : s'.accessTokens = s.accessTokens) (hr : s.Admits r) : s'.FamilyWf := by
  obtain ⟨hrows, hclash⟩ := Table.insert_eq_some hins
  have hfresh : ∀ t ∈ s.refreshTokens.rows, t.id ≠ r.id := by
    intro t ht hid
    have hno := hclash t ht
    simp [Keyed.clash, Keyed.key, hid] at hno
  refine ⟨?_, h.chain_append hrows hr, ?_, ?_⟩
  · intro t ht t' ht' hfam
    rcases (Table.mem_of_insert hins).mp ht with ht | rfl
    · rcases (Table.mem_of_insert hins).mp ht' with ht' | rfl
      · exact h.shared t ht t' ht' hfam
      · exact hr.shared t ht hfam
    · rcases (Table.mem_of_insert hins).mp ht' with ht' | rfl
      · obtain ⟨hc, hu, hs⟩ := hr.shared t' ht' hfam.symm
        exact ⟨hc.symm, hu.symm, hs.symm⟩
      · exact ⟨rfl, rfl, rfl⟩
  · intro t ht t' ht' hprev
    rcases (Table.mem_of_insert hins).mp ht' with hold' | rfl
    · -- the predecessor of an old row is an old row, so it is not the new one
      obtain ⟨a, ha, haid, _⟩ := h.exists_pred hold' hprev
      rcases (Table.mem_of_insert hins).mp ht with hold | rfl
      · exact h.spent t hold t' hold' hprev
      · exact absurd haid (hfresh a ha)
    · rcases hr.place with ⟨hroot, _⟩ | ⟨a, ha, _, hpa, hrev, hused, _⟩
      · rw [hroot] at hprev
        cases hprev
      · have hid : a.id = t.id := Option.some.inj (hpa.symm.trans hprev)
        rcases (Table.mem_of_insert hins).mp ht with hold | rfl
        · obtain rfl := Store.refreshToken_eq ha hold (Or.inl hid)
          exact ⟨hrev, hused⟩
        · exact absurd hid (hfresh a ha)
  · intro t ht id hlink
    rw [hacc]
    rcases (Table.mem_of_insert hins).mp ht with ht | rfl
    · exact h.access t ht id hlink
    · exact hr.access id hlink

/-- **Every statement keeps the families well-formed**, if the row it creates is admitted. -/
theorem exec (h : s.FamilyWf) (q : Query) (now : Time) (fresh : UUID)
    (hnew : ∀ p, q = .createRefreshToken p → s.Admits (p.row now fresh)) :
    (q.exec now fresh s).2.FamilyWf := by
  cases q.refreshTokens_step now fresh s with
  | change g hg hrows =>
    exact h.map (fun t => (hg t).later) hrows fun t ht a ha hlink => linked_exec q now fresh ht ha hlink
  | append t _ hnew' hins =>
    obtain ⟨p, rfl, rfl⟩ := hnew'
    exact h.append hins rfl (hnew p rfl)
  | remove _ _ hdel _ => exact hdel.elim

/-- The same for one request of a call. -/
theorem respond {w : World} (h : w.db.FamilyWf) (q : Request) (d : Draw)
    (hnew : ∀ p, q = .sql (.createRefreshToken p) → w.db.Admits (p.row (w.wait d.wait).now d.uuid)) :
    (GoauthServer.respond q d w).2.db.FamilyWf := by
  refine respond_induction (P := Store.FamilyWf) h fun q' hq' _ => h.exec q' _ _ fun p hp => hnew p ?_
  rw [hq', hp]

end Store.FamilyWf

/-! ### Rotation -/

section Rotation

variable {env : Env} {tokenHash : String} {log : Log effects} {q : Request} {d : Draw} {w : World}

/-- A rotation reads, marks and creates refresh tokens and creates access tokens. It deletes no
access token. -/
theorem rotation_accessTokens (hq : rotationRequest env tokenHash q log) :
    Table.Evolves AccessToken.Later w.db.accessTokens (respond q d w).2.db.accessTokens := by
  refine respond_accessTokens ?_
  rintro rfl
  exact hq

/-- The state of a rotation that runs alone, in a store with well-formed families. -/
structure RotationState (tokenHash : String) (log : Log effects) (w : World) : Prop where
  wf : w.db.FamilyWf
  seen : Seen tokenHash log w
  /-- The token is spent once it was marked. -/
  spent : ∀ t, readRecord log = some t → marked log = true →
    ∃ t' ∈ w.db.refreshTokens.rows, t.Later t' ∧ t'.isRevoked = true ∧ t'.usedAt.isSome = true
  /-- The token that was read unrevoked has no successor until this call stores it. -/
  last : ∀ t, readRecord log = some t → t.isRevoked = false → created log = false →
    ∀ b ∈ w.db.refreshTokens.rows, b.previousTokenID ≠ some t.id
  /-- The access token that was stored is one of the token's client and user. -/
  access : ∀ a, storedAccess log = some a → ∃ t, readRecord log = some t ∧
    ∃ a' ∈ w.db.accessTokens.rows, a'.id = a.id ∧ a'.clientID = some t.clientID ∧
      a'.userID = t.userID

theorem RotationState.start (tokenHash : String) (h : w.db.FamilyWf) : RotationState tokenHash [] w where
  wf := h
  seen := Seen.nil tokenHash w
  spent _ ht := by cases ht
  last _ ht := by cases ht
  access _ ha := by cases ha

namespace RotationState

/-- The successor is admitted. -/
theorem admits (h : RotationState tokenHash log w) {p : CreateRefreshTokenParams}
    (hq : rotationRequest env tokenHash (.sql (.createRefreshToken p)) log) (now : Time)
    (fresh : UUID) : w.db.Admits (p.row now fresh) := by
  obtain ⟨t, u, a, hread, hlive, hmark, hnew, huser, hacc, hp⟩ := hq
  obtain ⟨t', ht', hlater, hrev, hused⟩ := h.spent t hread hmark
  have huid : u.id = t.userID := h.seen.user t u hread huser
  refine ⟨fun x hx hfam => ?_, Or.inr ⟨t', ht', ?_, ?_, hrev, hused, ?_⟩, fun id hid => ?_⟩
  · -- the family of the new row is that of the token, whose client, user and scope it has
    have hfam' : x.tokenFamilyID = t'.tokenFamilyID := by
      rw [hfam, hlater.tokenFamilyID]
      exact hp.tokenFamilyID
    obtain ⟨hc, hu, hs⟩ := h.wf.shared x hx t' ht' hfam'
    rw [hc, hu, hs, hlater.clientID, hlater.userID, hlater.scope, ← huid]
    exact ⟨hp.clientID.symm, hp.userID.symm, hp.scope.symm⟩
  · rw [hlater.tokenFamilyID]
    exact hp.tokenFamilyID.symm
  · rw [hlater.id]
    exact hp.previousTokenID
  · rw [hlater.id]
    exact h.last t hread hlive hnew
  · obtain ⟨t₂, hread₂, a', ha', haid, hclient, hauser⟩ := h.access a hacc
    obtain rfl := Option.some.inj (hread.symm.trans hread₂)
    obtain rfl := Option.some.inj hid
    refine ⟨a', ha', haid.trans hp.accessTokenID.symm, ?_, ?_⟩
    · show a'.clientID = some p.clientID
      rw [hclient, hp.clientID]
    · show a'.userID = p.userID
      rw [hauser, hp.userID, huid]

theorem spent_step (h : RotationState tokenHash log w) (hq : rotationRequest env tokenHash q log)
    {t : RefreshToken} (hread : readRecord (⟨q, (respond q d w).1⟩ :: log) = some t)
    (hmark : marked (⟨q, (respond q d w).1⟩ :: log) = true) :
    ∃ t' ∈ (respond q d w).2.db.refreshTokens.rows,
      t.Later t' ∧ t'.isRevoked = true ∧ t'.usedAt.isSome = true := by
  rcases marked_respond hmark with hold | ⟨id, rfl, hf⟩
  · rcases readRecord_respond hread with hread | ⟨hash, rfl, _, _⟩
    · obtain ⟨t', ht', hlater, hrev, hused⟩ := h.spent t hread hold
      obtain ⟨t'', ht'', hlater'⟩ := respond_refreshTokens q d w t' ht'
      exact ⟨t'', ht'', hlater.trans hlater', hlater'.isRevoked hrev, hlater'.usedAt hused⟩
    · -- the token is looked up before it is marked
      rw [hq.2.2.2.1] at hold
      cases hold
  · obtain ⟨t₁, hread₁, _, rfl, _⟩ := hq
    obtain rfl := Option.some.inj (hread₁.symm.trans hread)
    obtain ⟨_, t', ht', hlater⟩ := h.seen.record t₁ hread₁
    rw [respond_sql _ hf]
    refine ⟨t'.markUsed (w.wait d.wait).now, ?_, hlater.trans (.markUsed _ t'), rfl, rfl⟩
    exact List.mem_map.mpr ⟨t', ht', if_pos (by simp [hlater.id])⟩

theorem last_step (h : RotationState tokenHash log w) (hq : rotationRequest env tokenHash q log)
    {t : RefreshToken} (hread : readRecord (⟨q, (respond q d w).1⟩ :: log) = some t)
    (hlive : t.isRevoked = false) (hnew : created (⟨q, (respond q d w).1⟩ :: log) = false) :
    ∀ b ∈ (respond q d w).2.db.refreshTokens.rows, b.previousTokenID ≠ some t.id := by
  obtain ⟨hnew₀, hsame⟩ := created_respond hnew
  -- nobody names the token before the step: it was read before, or it is unrevoked now
  have hno : ∀ b ∈ w.db.refreshTokens.rows, b.previousTokenID ≠ some t.id := by
    rcases readRecord_respond hread with hread | ⟨hash, rfl, hmem, _⟩
    · exact h.last t hread hlive hnew₀
    · exact h.wf.no_successor hmem hlive
  intro b hb
  obtain ⟨b₀, hb₀, hlater⟩ := respond_refreshToken_old hsame hb
  rw [hlater.previousTokenID]
  exact hno b₀ hb₀

theorem access_step (h : RotationState tokenHash log w) (hq : rotationRequest env tokenHash q log)
    {a : AccessToken} (hacc : storedAccess (⟨q, (respond q d w).1⟩ :: log) = some a) :
    ∃ t, readRecord (⟨q, (respond q d w).1⟩ :: log) = some t ∧
      ∃ a' ∈ (respond q d w).2.db.accessTokens.rows, a'.id = a.id ∧
        a'.clientID = some t.clientID ∧ a'.userID = t.userID := by
  rcases storedAccess_respond hacc with hold | ⟨p, rfl, rfl, hins⟩
  · obtain ⟨t, hread, a', ha', hid, hclient, huser⟩ := h.access a hold
    obtain ⟨a'', ha'', hlater⟩ := rotation_accessTokens hq a' ha'
    refine ⟨t, ?_, a'', ha'', hlater.id.trans hid, hlater.clientID.trans hclient, hlater.userID.trans huser⟩
    rw [readRecord_of_ne (fun hash heq => ?_)]
    · exact hread
    · -- the token is looked up before an access token is stored
      subst heq
      rw [hq.2.2.2.2.2] at hold
      cases hold
  · obtain ⟨t, u, token, now, hread, _, _, huser, _, _, _, rfl⟩ := hq
    refine ⟨t, hread, _, (Table.mem_of_insert hins).mpr (Or.inr rfl), rfl, rfl, ?_⟩
    exact h.seen.user t u hread huser

/-- **One step of a rotation.** -/
theorem step (h : RotationState tokenHash log w) (hq : rotationRequest env tokenHash q log) :
    RotationState tokenHash (⟨q, (respond q d w).1⟩ :: log) (respond q d w).2 where
  wf := by
    refine h.wf.respond q d fun p hp => ?_
    subst hp
    exact h.admits hq _ _
  seen := h.seen.self (sessionRequest_of_rotation hq)
  spent _ hread hmark := h.spent_step hq hread hmark
  last _ hread hlive hnew := h.last_step hq hread hlive hnew
  access _ hacc := h.access_step hq hacc

end RotationState

end Rotation

/-! ### Exchange -/

/-- `uuid.New()` returns the identifier of no family. -/
def FreshFamily : Request → Draw → World → Prop
  | .newUUID, d, w => ∀ t ∈ w.db.refreshTokens.rows, t.tokenFamilyID ≠ d.uuid
  | _, _, _ => True

instance : (q : Request) → (d : Draw) → (w : World) → Decidable (FreshFamily q d w)
  | .newUUID, d, w =>
    inferInstanceAs (Decidable (∀ t ∈ w.db.refreshTokens.rows, t.tokenFamilyID ≠ d.uuid))
  | .sql _, _, _ => .isTrue trivial
  | .now, _, _ => .isTrue trivial
  | .randBytes _, _, _ => .isTrue trivial
  | .exchangeCode _ _ _, _, _ => .isTrue trivial
  | .getUserInfo _ _, _, _ => .isTrue trivial

section Exchange

variable {env : Env} {code : String} {log : Log effects} {q : Request} {d : Draw} {w : World}

theorem exchange_accessTokens_evolve (hq : exchangeRequest env code q log) :
    Table.Evolves AccessToken.Later w.db.accessTokens (respond q d w).2.db.accessTokens := by
  refine respond_accessTokens ?_
  rintro rfl
  exact hq

/-- The state of an exchange that runs alone, in a store with well-formed families. -/
structure ExchangeState (log : Log effects) (w : World) : Prop where
  wf : w.db.FamilyWf
  /-- The family that was drawn has no token until this call stores one. -/
  fresh : ∀ F, drawnUUID log = some F → created log = false →
    ∀ t ∈ w.db.refreshTokens.rows, t.tokenFamilyID ≠ F
  /-- The access token that was stored is one of the code's client and of the user. -/
  access : ∀ a, storedAccess log = some a → ∃ c u, readCode log = some c ∧ readUser log = some u ∧
    ∃ a' ∈ w.db.accessTokens.rows, a'.id = a.id ∧ a'.clientID = some c.clientID ∧ a'.userID = u.id

theorem ExchangeState.start (h : w.db.FamilyWf) : ExchangeState [] w where
  wf := h
  fresh _ hF := by cases hF
  access _ ha := by cases ha

namespace ExchangeState

/-- The first token of the family is admitted. -/
theorem admits (h : ExchangeState log w) {p : CreateRefreshTokenParams}
    (hq : exchangeRequest env code (.sql (.createRefreshToken p)) log) (now : Time) (fresh : UUID) :
    w.db.Admits (p.row now fresh) := by
  obtain ⟨c, u, a, F, hread, _, _, hnew, huser, hacc, hF, hp⟩ := hq
  have hnone : ∀ t ∈ w.db.refreshTokens.rows, t.tokenFamilyID ≠ p.tokenFamilyID := by
    rw [hp.tokenFamilyID]
    exact h.fresh F hF hnew
  refine ⟨fun t ht hfam => absurd hfam (hnone t ht), Or.inl ⟨hp.previousTokenID, ?_⟩, fun id hid => ?_⟩
  · refine List.filter_eq_nil_iff.mpr fun t ht => ?_
    simpa [CreateRefreshTokenParams.row] using hnone t ht
  · obtain ⟨c₂, u₂, hread₂, huser₂, a', ha', haid, hclient, hauser⟩ := h.access a hacc
    obtain rfl := Option.some.inj (hread.symm.trans hread₂)
    obtain rfl := Option.some.inj (huser.symm.trans huser₂)
    obtain rfl := Option.some.inj hid
    refine ⟨a', ha', haid.trans hp.accessTokenID.symm, ?_, ?_⟩
    · show a'.clientID = some p.clientID
      rw [hclient, hp.clientID]
    · show a'.userID = p.userID
      rw [hauser, hp.userID]

theorem fresh_step (h : ExchangeState log w) (hC : FreshFamily q d w) {F : UUID}
    (hF : drawnUUID (⟨q, (respond q d w).1⟩ :: log) = some F)
    (hnew : created (⟨q, (respond q d w).1⟩ :: log) = false) :
    ∀ t ∈ (respond q d w).2.db.refreshTokens.rows, t.tokenFamilyID ≠ F := by
  obtain ⟨hnew₀, hsame⟩ := created_respond hnew
  have hno : ∀ t ∈ w.db.refreshTokens.rows, t.tokenFamilyID ≠ F := by
    rcases drawnUUID_respond hF with hF | ⟨rfl, rfl⟩
    · exact h.fresh F hF hnew₀
    · exact hC
  intro t ht
  obtain ⟨t₀, ht₀, hlater⟩ := respond_refreshToken_old hsame ht
  rw [hlater.tokenFamilyID]
  exact hno t₀ ht₀

theorem access_step (h : ExchangeState log w) (hq : exchangeRequest env code q log)
    {a : AccessToken} (hacc : storedAccess (⟨q, (respond q d w).1⟩ :: log) = some a) :
    ∃ c u, readCode (⟨q, (respond q d w).1⟩ :: log) = some c ∧
      readUser (⟨q, (respond q d w).1⟩ :: log) = some u ∧
      ∃ a' ∈ (respond q d w).2.db.accessTokens.rows, a'.id = a.id ∧
        a'.clientID = some c.clientID ∧ a'.userID = u.id := by
  rcases storedAccess_respond hacc with hold | ⟨p, rfl, rfl, hins⟩
  · obtain ⟨c, u, hread, huser, a', ha', hid, hclient, hauser⟩ := h.access a hold
    -- code and user are looked up before an access token is stored
    have hc : ∀ code, q ≠ .sql (.getAuthorizationCode code) := by
      rintro code rfl
      rw [hq.2.2.2.2.1] at hold
      cases hold
    have hu : ∀ id, q ≠ .sql (.getUserByID id) := by
      rintro id rfl
      obtain ⟨_, _, _, _, hnone⟩ := hq
      rw [hnone] at hold
      cases hold
    obtain ⟨a'', ha'', hlater⟩ := exchange_accessTokens_evolve (d := d) hq a' ha'
    rw [readCode_of_ne hc, readUser_of_ne hu]
    exact ⟨c, u, hread, huser, a'', ha'', hlater.id.trans hid, hlater.clientID.trans hclient,
      hlater.userID.trans hauser⟩
  · obtain ⟨c, u, token, now, hread, _, _, huser, _, _, _, rfl⟩ := hq
    exact ⟨c, u, hread, huser, _, (Table.mem_of_insert hins).mpr (Or.inr rfl), rfl, rfl, rfl⟩

/-- **One step of an exchange.** -/
theorem step (h : ExchangeState log w) (hq : exchangeRequest env code q log)
    (hC : FreshFamily q d w) : ExchangeState (⟨q, (respond q d w).1⟩ :: log) (respond q d w).2 where
  wf := by
    refine h.wf.respond q d fun p hp => ?_
    subst hp
    exact h.admits hq _ _
  fresh _ hF hnew := h.fresh_step hC hF hnew
  access _ hacc := h.access_step hq hacc

end ExchangeState

end Exchange

/-! ### Operations and runs -/

section Runs

variable {env : Env} {w : World}

/-- The families that the operation draws are fresh. -/
def Operation.FreshFamilies (env : Env) (op : Operation) (ds : ℕ → Draw) (w : World) : Prop :=
  (op.call env).Along backend FreshFamily ds w

/-- **Every completed operation keeps the families well-formed.** -/
theorem Operation.run_familyWf (op : Operation) {ds : ℕ → Draw} (h : w.db.FamilyWf)
    (hfresh : op.FreshFamilies env ds w) : (op.run env ds w).2.db.FamilyWf := by
  have hobeys := op.obeys env
  by_cases hrot : ∃ rawToken clientID clientSecret, op = .rotateRefreshToken rawToken clientID clientSecret
  · obtain ⟨rawToken, clientID, clientSecret, rfl⟩ := hrot
    obtain ⟨_, _, hend⟩ := hobeys.run (B := backend) (J := RotationState (env.lib.sha256Hex rawToken))
      (fun _ _ _ _ hq _ hJ => hJ.step hq) hfresh (.start _ h)
    exact hend.wf
  by_cases hex : ∃ code clientID clientSecret redirectURI,
      op = .exchangeCodeForToken code clientID clientSecret redirectURI
  · obtain ⟨code, clientID, clientSecret, redirectURI, rfl⟩ := hex
    obtain ⟨_, _, hend⟩ := hobeys.run (B := backend) (J := ExchangeState)
      (fun _ _ _ _ hq hC hJ => hJ.step hq hC) hfresh (.start h)
    exact hend.wf
  · -- no other operation creates a refresh token
    obtain ⟨_, _, hend⟩ := hobeys.run (B := backend) (J := fun _ w => w.db.FamilyWf)
      (fun q log d w hq _ hJ => hJ.respond q d fun p hp => by
        subst hp
        rcases Operation.eq_of_createRefreshToken hq with h | h
        · exact absurd h hrot
        · exact absurd h hex) hfresh h
    exact hend

/-- The families that a run draws are fresh. -/
abbrev FreshFamilies (env : Env) (ops : List (Operation × (ℕ → Draw))) (w : World) : Prop :=
  AlongRun env (Operation.FreshFamilies env) ops w

instance (env : Env) (op : Operation) (ds : ℕ → Draw) (w : World) :
    Decidable (op.FreshFamilies env ds w) :=
  inferInstanceAs (Decidable ((op.call env).Along backend FreshFamily ds w))

/-- **Families stay well-formed over every sequential run**: each is one chain of tokens of one
client, user and scope, in which the tokens with a successor are spent and at most the last is
unrevoked. The statements of the operations may fail in any place. -/
theorem runAll_familyWf (ops : List (Operation × (ℕ → Draw))) (h : w.db.FamilyWf)
    (hfresh : FreshFamilies env ops w) :
    (runAll env ops w).db.FamilyWf ∧ (runAll env ops w).db.SingleLive := by
  have hwf : (runAll env ops w).db.FamilyWf :=
    (hfresh.invariant (Q := fun _ _ _ => True)
      (fun op _ _ hop hw => ⟨op.run_familyWf hw hop, trivial⟩) h).1
  exact ⟨hwf, hwf.singleLive⟩

end Runs

open Deployment (draw)

/-- In the deployment: a code is exchanged, the old refresh token is rotated, the access tokens
expire and are deleted, and the user logs out. -/
def deploymentOps : List (Operation × (ℕ → Draw)) :=
  [(.exchangeCodeForToken "auth-code" 1 "s3cret" "https://app.example/callback",
      fun _ => draw 7 20),
    (.rotateRefreshToken "old-refresh-token" Deployment.appText "s3cret", fun _ => draw 9 21),
    (.cleanupExpiredTokens, fun _ => { draw 0 0 with wait := 10 ^ 13 }),
    (.revokeUserRefreshTokens 2 "logout", fun _ => draw 0 0)]

theorem deployment_familyWf : Deployment.store.FamilyWf where
  shared := by decide
  chain F := by
    refine ⟨Deployment.store.family F, .refl _, ?_⟩
    by_cases hF : F = 9
    · subst hF
      exact Lineage.singleton (r := Deployment.annRefreshToken) rfl
    · have hnil : Deployment.store.family F = [] :=
        List.filter_eq_nil_iff.mpr fun t ht => by
          obtain rfl := List.mem_singleton.mp ht
          simpa [Deployment.annRefreshToken] using Ne.symm hF
      rw [hnil]
      exact Lineage.nil
  spent := by decide
  access t ht id hid := by
    obtain rfl := List.mem_singleton.mp ht
    cases hid

theorem runAll_familyWf_deployment :
    Deployment.store.FamilyWf ∧
      FreshFamilies Deployment.env deploymentOps ⟨0, Deployment.store⟩ ∧
      (runAll Deployment.env deploymentOps ⟨0, Deployment.store⟩).db.refreshTokens.rows.length = 3 ∧
      (runAll Deployment.env deploymentOps ⟨0, Deployment.store⟩).db.FamilyWf := by
  have hfresh : FreshFamilies Deployment.env deploymentOps ⟨0, Deployment.store⟩ := by
    decide +kernel
  refine ⟨deployment_familyWf, hfresh, by decide +kernel, ?_⟩
  exact (runAll_familyWf deploymentOps deployment_familyWf hfresh).1

end GoauthServer
