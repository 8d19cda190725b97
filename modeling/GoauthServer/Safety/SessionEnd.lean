import GoauthServer.Safety.Families
import GoauthServer.Spec.Authentication
import GoauthServer.Spec.Revoke

/-!
# Ending a session

A session is a family of refresh tokens together with the access tokens they link to. There are two
ways to end one, and both stop halfway.

*Replay detection.* A rotated token that is presented again revokes the refresh tokens of the family.
The linked access tokens are not touched (`replay_ends_session_iff`), so the last one stays good until
it expires (`replay_leaves_access_token`).

*Revocation.* `RevokeAnyToken` revokes the refresh token that is presented and its access token. If
that token was rotated before, it is already revoked, and the call returns without looking at its
descendants (`revoke_leaves_descendant`). `revoke_ends_session_iff` says exactly when a call that
reports success has ended the session; besides, the failure of the statement that revokes the access
token is not reported.
-/

namespace GoauthServer

open Interact Relational

/-! ### Replay detection -/

/-- Nothing obtained through the session is good any more: neither a refresh token of the family, nor
an access token that one of them links to. -/
structure Store.SessionDead (env : Env) (s : Store) (tokenFamilyID : UUID) : Prop where
  refresh : ∀ t ∈ s.family tokenFamilyID, t.isRevoked = true
  access : ∀ t ∈ s.family tokenFamilyID, ∀ a ∈ s.accessTokens.rows, t.accessTokenID = some a.id →
    a.isRevoked = some true
  bearer : ∀ t ∈ s.family tokenFamilyID, ∀ a ∈ s.accessTokens.rows, t.accessTokenID = some a.id →
    ∀ headers token, requestToken headers = .ok token → env.lib.sha256Hex token = a.tokenHash →
      ∀ ds now ctx, ((authMiddleware env headers).run backend ds ⟨now, s⟩).1 ≠ .ok ctx

/-- All access tokens that the family links to are revoked. -/
def Store.AccessDead (s : Store) (tokenFamilyID : UUID) : Prop :=
  ∀ t ∈ s.family tokenFamilyID, ∀ a ∈ s.accessTokens.rows, t.accessTokenID = some a.id →
    a.isRevoked = some true

/-- The client authenticates with its identifier and its secret. -/
structure Store.ClientValid (env : Env) (s : Store) (clientID clientSecret : String) (cid : UUID) :
    Prop where
  parsed : env.lib.uuidParse clientID = some cid
  registered : ∃ client ∈ s.clients.rows, client.id = cid ∧ client.isActive = some true ∧
    client.clientSecretHash = env.lib.sha256Hex clientSecret

theorem Store.sessionDead_iff {env : Env} {s : Store} {F : UUID} :
    s.SessionDead env F ↔ (∀ t ∈ s.family F, t.isRevoked = true) ∧ s.AccessDead F := by
  constructor
  · exact fun h => ⟨h.refresh, h.access⟩
  · rintro ⟨hrefresh, haccess⟩
    refine ⟨hrefresh, haccess, ?_⟩
    intro t ht a ha hlink headers token htoken hhash ds now ctx hok
    -- the middleware finds the revoked row of the token
    unfold authMiddleware at hok
    rw [htoken] at hok
    obtain ⟨_, _, _, hnot, _⟩ := authenticateToken_ok.mp hok
    exact hnot ⟨a, ha, hhash.symm, haccess t ht a ha hlink⟩

section Replay

variable {env : Env} {rawToken clientID clientSecret : String} {cid : UUID} {ds : ℕ → Draw}
  {w : World} {record : RefreshToken}

theorem selectOne_client {s : Store} {client : Client} (h : client ∈ s.clients.rows) :
    selectOne s.clients (fun c => c.id == client.id) = .ok client :=
  selectOne_eq_ok (Table.select_eq_some h (by simp) fun a ha => by
    have hid : a.id = client.id := by simpa using ha
    simp [Keyed.clash, Keyed.key, hid])

/-- What replay detection writes. -/
theorem replayDetected_run (env : Env) (record : RefreshToken) (w : World) (hs : Sound ds) :
    ∃ now reason, ((replayDetected env record).run backend ds w).1 = .error .invalidGrant ∧
      ((replayDetected env record).run backend ds w).2.db.accessTokens = w.db.accessTokens ∧
      ((replayDetected env record).run backend ds w).2.db.refreshTokens.rows =
        w.db.refreshTokens.rows.map fun t =>
          if t.tokenFamilyID == record.tokenFamilyID then t.revoke now reason else t := by
  unfold replayDetected
  rw [run_sql _ _ (hs 0)]
  dsimp only
  obtain ⟨ds₁, w₁, hrun₁, ⟨_, hdb₁⟩, _⟩ := logEvent_run env _ _ _ _
  rw [hrun₁]
  obtain ⟨ds₂, w₂, hrun₂, ⟨_, hdb₂⟩, _⟩ := logEvent_run env _ _ _ _
  rw [hrun₂, Prog.run_ret, hdb₂, hdb₁]
  exact ⟨_, _, rfl, rfl, rfl⟩

/-- A client that presents a revoked token gets to replay detection. -/
theorem rotate_replay_run (hs : Sound ds) (hclient : w.db.ClientValid env clientID clientSecret cid)
    (hrec : record ∈ w.db.refreshTokens.rows)
    (hhash : record.tokenHash = env.lib.sha256Hex rawToken) (hrev : record.isRevoked = true) :
    ∃ ds' w', Sound ds' ∧ (rotateRefreshToken env rawToken clientID clientSecret).run backend ds w =
        (replayDetected env record).run backend ds' w' ∧ w'.db = w.db := by
  obtain ⟨hparse, client, hmem, rfl, hactive, hsecret⟩ := hclient
  unfold rotateRefreshToken
  rw [hparse]
  dsimp only
  rw [run_sql _ _ (hs 0)]
  simp only [Query.exec, selectOne_client hmem, hactive, hsecret, ne_eq, not_true_eq_false, if_false]
  rw [run_sql _ _ (hs.tail 0)]
  simp only [Query.exec]
  rw [← hhash, selectOne_refreshToken hrec]
  unfold checkRecord
  dsimp only
  rw [if_pos hrev]
  exact ⟨_, _, hs.tail.tail, rfl, rfl⟩

/-- Revoking a family reaches all its refresh tokens and changes no link. -/
theorem sessionDead_of_sweep {s s' : Store} {F : UUID} {now : Time} {reason : Option String}
    (hacc : s'.accessTokens = s.accessTokens)
    (hrows : s'.refreshTokens.rows = s.refreshTokens.rows.map fun t =>
      if t.tokenFamilyID == F then t.revoke now reason else t) :
    s'.SessionDead env F ↔ s.AccessDead F := by
  have horigin : ∀ t' ∈ s'.family F, ∃ t ∈ s.family F, t.revoke now reason = t' := by
    intro t' ht'
    rw [Store.mem_family, hrows] at ht'
    obtain ⟨hmem, hfam⟩ := ht'
    obtain ⟨t, ht, rfl⟩ := List.mem_map.mp hmem
    by_cases hF : t.tokenFamilyID = F
    · rw [if_pos (by simpa using hF)]
      exact ⟨t, Store.mem_family.mpr ⟨ht, hF⟩, rfl⟩
    · rw [if_neg (by simpa using hF)] at hfam
      exact absurd hfam hF
  have himage : ∀ t ∈ s.family F, t.revoke now reason ∈ s'.family F := by
    intro t ht
    obtain ⟨hmem, hfam⟩ := Store.mem_family.mp ht
    rw [Store.mem_family, hrows]
    refine ⟨List.mem_map.mpr ⟨t, hmem, ?_⟩, hfam⟩
    rw [if_pos (by simpa using hfam)]
  rw [Store.sessionDead_iff]
  unfold Store.AccessDead
  rw [hacc]
  constructor
  · rintro ⟨_, hdead⟩ t ht a ha hlink
    exact hdead _ (himage t ht) a ha hlink
  · intro hdead
    refine ⟨fun t' ht' => ?_, fun t' ht' a ha hlink => ?_⟩
    · obtain ⟨t, _, rfl⟩ := horigin t' ht'
      rfl
    · obtain ⟨t, ht, rfl⟩ := horigin t' ht'
      exact hdead t ht a ha hlink

/-- **What replay detection achieves.** After the replay of a revoked token of a family, the session is
dead exactly if the access tokens it links to were revoked before. -/
theorem replay_ends_session_iff (hs : Sound ds)
    (hclient : w.db.ClientValid env clientID clientSecret cid)
    (hrec : record ∈ w.db.refreshTokens.rows)
    (hhash : record.tokenHash = env.lib.sha256Hex rawToken) (hrev : record.isRevoked = true) :
    ((rotateRefreshToken env rawToken clientID clientSecret).run backend ds w).2.db.SessionDead env
        record.tokenFamilyID ↔ w.db.AccessDead record.tokenFamilyID := by
  obtain ⟨ds', w', hs', hrun, hdb⟩ := rotate_replay_run hs hclient hrec hhash hrev
  obtain ⟨now, reason, _, hacc, hrows⟩ := replayDetected_run env record w' hs'
  rw [hdb] at hacc hrows
  rw [hrun]
  exact sessionDead_of_sweep hacc hrows

end Replay

section Examples

open Deployment

/-- The deployment after the rotation of `old-refresh-token`. -/
def rotatedWorld : World :=
  ((Operation.rotateRefreshToken "old-refresh-token" appText "s3cret").run env
    (fun _ => draw 7 20) ⟨0, store⟩).2

theorem rotatedWorld_familyWf : rotatedWorld.db.FamilyWf := by
  refine Operation.run_familyWf (w := ⟨0, store⟩) _ deployment_familyWf ?_
  show Prog.Along _ _ _ _ _
  decide +kernel

/-- The first token of the family, as the rotation has left it. -/
def annRotatedToken : RefreshToken := annRefreshToken.markUsed 0

theorem appValid {w : World} (h : app ∈ w.db.clients.rows) : w.db.ClientValid env appText "s3cret" 1 :=
  ⟨by decide +kernel, app, h, rfl, rfl, by decide +kernel⟩

/-- The same world after the administrator has revoked the access tokens of `ann`. -/
def rotatedRevokedWorld : World :=
  ((sessionRevokeUserSessions 2).run backend (fun _ => draw 9 21) rotatedWorld).2

/-- The replay ends the session if the access token was revoked before. -/
theorem replay_ends_session_iff_ann :
    ((rotateRefreshToken env "old-refresh-token" appText "s3cret").run backend (fun _ => draw 9 21)
      rotatedRevokedWorld).2.db.SessionDead env 9 := by
  have hclient : app ∈ rotatedRevokedWorld.db.clients.rows := by decide +kernel
  have hrec : annRotatedToken ∈ rotatedRevokedWorld.db.refreshTokens.rows := by decide +kernel
  have hdead : rotatedRevokedWorld.db.AccessDead 9 := by
    unfold Store.AccessDead
    decide +kernel
  exact (replay_ends_session_iff (fun _ => rfl) (appValid hclient) hrec (by decide +kernel) rfl).mpr
    hdead

/-- **The access token survives the replay**: the rotated token is presented again, and the access token
of its successor is still good. -/
theorem replay_leaves_access_token :
    rotatedWorld.db.FamilyWf ∧
      ((rotateRefreshToken env "old-refresh-token" appText "s3cret").run backend
        (fun _ => draw 9 21) rotatedWorld).1 = .error .invalidGrant ∧
      ¬ ((rotateRefreshToken env "old-refresh-token" appText "s3cret").run backend
        (fun _ => draw 9 21) rotatedWorld).2.db.SessionDead env 9 := by
  refine ⟨rotatedWorld_familyWf, by decide +kernel, fun h => ?_⟩
  have hdead := h.access
  revert hdead
  decide +kernel

end Examples

/-! ### Revocation of a token -/

/-- The statement that revokes an access token. -/
def Request.revokesAccess : Request → Bool
  | .sql (.revokeAccessToken _) => true
  | _ => false

/-- No statement that revokes an access token fails. -/
def AccessRevocationSound (q : Request) (d : Draw) (_ : World) : Prop :=
  q.revokesAccess = true → d.fault = false

/-- The session has ended: no refresh token of the family is unrevoked, and the access token of the one
that was unrevoked is revoked. -/
structure SessionEnded (before after : Store) (tokenFamilyID : UUID) : Prop where
  refresh : ∀ t ∈ after.family tokenFamilyID, t.isRevoked = true
  access : ∀ t ∈ before.family tokenFamilyID, t.isRevoked = false →
    ∀ a ∈ after.accessTokens.rows, t.accessTokenID = some a.id → a.isRevoked = some true

section Revocation

variable {env : Env} {rawToken hint : String} {ds : ℕ → Draw} {w : World} {rt : RefreshToken}
  {record : AccessToken}

/-- **The linked access token.** A call that succeeds leaves it revoked exactly if it was before, or it can
be reached and the statement does not fail. -/
theorem revokeLinkedAccess_run (env : Env) (ds : ℕ → Draw)
    (hok : ((revokeLinkedAccess env rt).run backend ds w).1 = .ok ()) :
    ((revokeLinkedAccess env rt).run backend ds w).2.db.refreshTokens = w.db.refreshTokens ∧
      ((∀ a ∈ ((revokeLinkedAccess env rt).run backend ds w).2.db.accessTokens.rows,
          rt.accessTokenID = some a.id → a.isRevoked = some true) ↔
        ∀ a ∈ w.db.accessTokens.rows, rt.accessTokenID = some a.id → a.isRevoked = some true ∨
          a.id ≠ 0 ∧ (revokeLinkedAccess env rt).Along backend AccessRevocationSound ds w) := by
  rcases revokeLinkedAccess_store (c := Request.revokesAccess) (fun _ => rfl) (fun _ => rfl) env rt ds w
    (Or.inl hok) with ⟨hsame, hwhy⟩ | ⟨record, hrec, hsame, _, halong⟩
  · refine ⟨hsame.refreshTokens, ?_⟩
    rw [hsame.accessTokens]
    refine forall₂_congr fun a ha => forall_congr' fun hid => ⟨Or.inl, ?_⟩
    rintro (hrev | ⟨hne, halong⟩)
    · exact hrev
    · exact (hwhy a (Store.linkedAccess_eq_some.mpr ⟨ha, hid, hne⟩)).resolve_right (not_not.mpr halong)
  · obtain ⟨_, hlink, hne⟩ := Store.linkedAccess_eq_some.mp hrec
    refine ⟨hsame.refreshTokens, iff_of_true ?_ fun a _ hid => Or.inr ⟨?_, halong⟩⟩
    · rw [hsame.accessTokens]
      intro a ha hid
      obtain ⟨b, _, rfl⟩ := List.mem_map.mp ha
      by_cases hb : b.id = record.id
      · rw [if_pos (by simpa using hb)]
        rfl
      · rw [if_neg (by simpa using hb)] at hid
        exact absurd (Option.some.inj (hid.symm.trans hlink)) hb
    · rw [Option.some.inj (hid.symm.trans hlink)]
      exact hne

/-- A call that succeeds has found the refresh token. -/
theorem revokeAnyToken_run (hhint : hint ≠ "access_token") (hrt : rt ∈ w.db.refreshTokens.rows)
    (hhash : rt.tokenHash = env.lib.sha256Hex rawToken)
    (hok : ((revokeAnyToken env rawToken hint).run backend ds w).1 = .ok ()) :
    ∃ ds' w', (revokeAnyToken env rawToken hint).run backend ds w =
        (revokeRefreshTokenAndLinkedAccess env rt).run backend ds' w' ∧ w'.db = w.db ∧
      ((revokeAnyToken env rawToken hint).Along backend AccessRevocationSound ds w ↔
        (revokeRefreshTokenAndLinkedAccess env rt).Along backend AccessRevocationSound ds' w') := by
  unfold revokeAnyToken at hok ⊢
  rw [if_pos hhint] at hok ⊢
  cases hf : (ds 0).fault with
  | true =>
    rw [run_sql_fault _ _ hf] at hok
    cases hok
  | false =>
    rw [run_sql _ _ hf, along_sql _ _ hf]
    simp only [Query.exec]
    rw [← hhash, selectOne_refreshToken hrt]
    exact ⟨_, _, rfl, rfl, and_iff_right fun h => by cases h⟩

/-- **When revocation ends the session.** A call of `RevokeAnyToken` with a refresh token of a family that
succeeds has ended the session exactly if

* the token was unrevoked, hence the last one of the family, or no token of the family was; and
* the access token of the last one was revoked before, or it can be reached and the statement that
  revokes it did not fail. -/
theorem revoke_ends_session_iff (hwf : w.db.FamilyWf) (hhint : hint ≠ "access_token")
    (hrt : rt ∈ w.db.refreshTokens.rows) (hhash : rt.tokenHash = env.lib.sha256Hex rawToken)
    (hok : ((revokeAnyToken env rawToken hint).run backend ds w).1 = .ok ()) :
    SessionEnded w.db ((revokeAnyToken env rawToken hint).run backend ds w).2.db rt.tokenFamilyID ↔
      (rt.isRevoked = true → ∀ t ∈ w.db.family rt.tokenFamilyID, t.isRevoked = true) ∧
      (rt.isRevoked = false → ∀ a ∈ w.db.accessTokens.rows, rt.accessTokenID = some a.id →
        a.isRevoked = some true ∨ a.id ≠ 0 ∧
          (revokeAnyToken env rawToken hint).Along backend AccessRevocationSound ds w) := by
  obtain ⟨ds₁, w₁, hrun₁, hdb₁, halong₁⟩ := revokeAnyToken_run hhint hrt hhash hok
  rw [hrun₁] at hok
  rw [hrun₁, halong₁]
  cases hrev : rt.isRevoked with
  | true =>
    -- the call returns at once
    have hstop : (revokeRefreshTokenAndLinkedAccess env rt).run backend ds₁ w₁ = (.ok (), w₁) := by
      unfold revokeRefreshTokenAndLinkedAccess
      rw [if_pos hrev]
      rfl
    rw [hstop, hdb₁]
    constructor
    · exact fun h => ⟨fun _ => h.refresh, fun h => (by cases h)⟩
    · intro h
      refine ⟨h.1 rfl, fun t ht hlive => ?_⟩
      rw [h.1 rfl t ht] at hlive
      cases hlive
  | false =>
    -- the call has succeeded, so the refresh token is revoked by now
    have hf : (ds₁ 0).fault = false := by
      by_contra hf
      unfold revokeRefreshTokenAndLinkedAccess at hok
      rw [hrev, if_neg Bool.false_ne_true, run_sql_fault _ _ (Bool.not_eq_false _ ▸ hf)] at hok
      cases hok
    obtain ⟨ds₂, w₂, now, reason, hrun₂, hsame, _, halong₂⟩ := revokeRefreshToken_run env hrev hf w₁
    rw [hrun₂] at hok
    have hrest := (halong₂ AccessRevocationSound (soundOn_audit (c := Request.revokesAccess) fun _ => rfl)).trans
      (and_iff_right fun h => by cases h)
    rw [hrun₂, hrest]
    rw [hdb₁] at hsame
    obtain ⟨hrefresh, hiff⟩ := revokeLinkedAccess_run env ds₂ hok
    have hacc : w₂.db.accessTokens = w.db.accessTokens := hsame.accessTokens
    have hrows : w₂.db.refreshTokens.rows = w.db.refreshTokens.rows.map fun t =>
        if t.id == rt.id then t.revoke now reason else t := by
      rw [hsame.refreshTokens]
      rfl
    rw [hacc] at hiff
    generalize ((revokeLinkedAccess env rt).run backend ds₂ w₂).2.db = s' at hrefresh hiff ⊢
    -- the token is the only one of the family that was unrevoked
    have hdead : ∀ t ∈ s'.family rt.tokenFamilyID, t.isRevoked = true := by
      intro t' ht'
      rw [Store.mem_family, hrefresh, hrows] at ht'
      obtain ⟨t, ht, rfl⟩ := List.mem_map.mp ht'.1
      by_cases hid : t.id = rt.id
      · rw [if_pos (by simpa using hid)]
        rfl
      · rw [if_neg (by simpa using hid)] at ht' ⊢
        by_contra hlive
        rw [Bool.not_eq_true] at hlive
        exact hid (congrArg RefreshToken.id (hwf.singleLive t ht rt hrt hlive hrev ht'.2))
    constructor
    · intro h
      refine ⟨fun h => (by cases h), fun _ => hiff.mp fun a ha hid => ?_⟩
      exact h.access rt (Store.mem_family.mpr ⟨hrt, rfl⟩) hrev a ha hid
    · intro h
      refine ⟨hdead, fun t ht hlive a ha hid => ?_⟩
      obtain ⟨htmem, htfam⟩ := Store.mem_family.mp ht
      rw [hwf.singleLive t htmem rt hrt hlive hrev htfam] at hid
      exact hiff.mpr (h.2 rfl) a ha hid

end Revocation

section Examples

open Deployment

/-- The successor of `old-refresh-token`. -/
def annSuccessorRaw : String := "BwgJCgsMDQ4PEBESExQVFhcYGRobHB0eHyAhIiMkJSY"

/-- The current token of the session is revoked: the session has ended. -/
theorem revoke_ends_session_iff_ann :
    ∃ rt ∈ rotatedWorld.db.refreshTokens.rows, rt.isRevoked = false ∧
      SessionEnded rotatedWorld.db ((revokeAnyToken env annSuccessorRaw "").run backend
        (fun _ => draw 9 21) rotatedWorld).2.db rt.tokenFamilyID := by
  have hlive : ∃ rt ∈ rotatedWorld.db.refreshTokens.rows, rt.isRevoked = false ∧
      rt.tokenHash = env.lib.sha256Hex annSuccessorRaw ∧
      (∀ a ∈ rotatedWorld.db.accessTokens.rows, rt.accessTokenID = some a.id → a.id ≠ 0) := by
    decide +kernel
  obtain ⟨rt, hrt, hrev, hhash, hne⟩ := hlive
  refine ⟨rt, hrt, hrev, (revoke_ends_session_iff rotatedWorld_familyWf (by decide) hrt hhash
    (by decide +kernel)).mpr ⟨fun h => ?_, fun _ a ha hid => Or.inr ⟨hne a ha hid, ?_⟩⟩⟩
  · rw [hrev] at h
    cases h
  · exact soundOn_of_sound _ (fun _ => rfl) _

/-- **A rotated token ends nothing**: the session goes on with its current token. -/
theorem revoke_leaves_descendant :
    rotatedWorld.db.FamilyWf ∧ annRotatedToken ∈ rotatedWorld.db.refreshTokens.rows ∧
      annRotatedToken.tokenHash = env.lib.sha256Hex "old-refresh-token" ∧
      ((revokeAnyToken env "old-refresh-token" "").run backend (fun _ => draw 9 21)
        rotatedWorld).1 = .ok () ∧
      ¬ SessionEnded rotatedWorld.db ((revokeAnyToken env "old-refresh-token" "").run backend
        (fun _ => draw 9 21) rotatedWorld).2.db annRotatedToken.tokenFamilyID := by
  refine ⟨rotatedWorld_familyWf, by decide +kernel, by decide +kernel, by decide +kernel, fun h => ?_⟩
  have hdead := h.refresh
  revert hdead
  decide +kernel

end Examples

end GoauthServer
