import GoauthServer.Safety.RevokeOwnership

/-!
# Token type hints and retries

Two laws of `RevokeAnyToken` as a client sees it, and how far they hold.

*Hints.* A token type hint is advice: the call should revoke the same token under every hint. The hint
`access_token` skips the look-up of refresh tokens, so that a live refresh token is not revoked at all under it
(`hint_protects_refresh_token`). `hint_irrelevant_iff` says when the hint does not matter.

*Retries.* A call revokes the refresh token first and its access token second. If it fails in between, the next
call finds the refresh token revoked and returns without a look at the access token
(`retry_leaves_access_token`). `retry_completes_iff` says after which failures a retry does its work.

Both go back to what one call does to the two tables: nothing, or the first of two writes, or both
(`revokeAnyToken_refresh`).
-/

namespace GoauthServer

open Interact Relational

/-! ### Stores -/

namespace Store

variable {s : Store} {a : AccessToken} {t : RefreshToken}

/-- The row of the refresh token is revoked. -/
def RefreshRevoked (s : Store) (id : UUID) : Prop := ∃ t ∈ s.refreshTokens.rows, t.id = id ∧ t.isRevoked = true

/-- The row of the access token is revoked. -/
def AccessRevoked (s : Store) (id : UUID) : Prop :=
  ∃ a ∈ s.accessTokens.rows, a.id = id ∧ a.isRevoked = some true

theorem accessRevoked_iff (ha : a ∈ s.accessTokens.rows) :
    s.AccessRevoked a.id ↔ a.isRevoked = some true := by
  constructor
  · rintro ⟨b, hb, hid, hrev⟩
    rwa [accessToken_eq hb ha (Or.inl hid)] at hrev
  · exact fun h => ⟨a, ha, rfl, h⟩

theorem refreshRevoked_iff (ht : t ∈ s.refreshTokens.rows) : s.RefreshRevoked t.id ↔ t.isRevoked = true := by
  constructor
  · rintro ⟨b, hb, hid, hrev⟩
    rwa [refreshToken_eq hb ht (Or.inl hid)] at hrev
  · exact fun h => ⟨t, ht, rfl, h⟩

theorem mem_revokeAccess (ha : a ∈ s.accessTokens.rows) :
    a.revoke ∈ (s.revokeAccess a.id).accessTokens.rows := by
  have h := Table.mem_update (p := fun t : AccessToken => t.id == a.id) (f := AccessToken.revoke) ha
  rwa [if_pos (by simp)] at h

theorem mem_revokeRefresh (ht : t ∈ s.refreshTokens.rows) (now : Time) (reason : Option String) :
    t.revoke now reason ∈ (s.revokeRefresh t.id now reason).refreshTokens.rows := by
  have h := Table.mem_update (p := fun a : RefreshToken => a.id == t.id) (f := RefreshToken.revoke now reason) ht
  rwa [if_pos (by simp)] at h

end Store

/-! ### Statements about access tokens -/

/-- The statement that revokes a refresh token. -/
def Request.revokesRefresh : Request → Bool
  | .sql (.revokeRefreshToken _ _) => true
  | _ => false

/-- No statement about the linked access token fails. -/
def LinkedAccessSound (q : Request) (d : Draw) (_ : World) : Prop := q.onLinkedAccess = true → d.fault = false

/-- No refresh token is revoked: the statement, if the call comes to it, fails. -/
def RefreshNotRevoked (q : Request) (d : Draw) (_ : World) : Prop := q.revokesRefresh = true → d.fault = true

instance (q : Request) (d : Draw) (w : World) : Decidable (LinkedAccessSound q d w) :=
  inferInstanceAs (Decidable (_ → _))

instance (q : Request) (d : Draw) (w : World) : Decidable (RefreshNotRevoked q d w) :=
  inferInstanceAs (Decidable (_ → _))

theorem refreshNotRevoked_read (tokenHash : String) (d : Draw) (w : World) :
    RefreshNotRevoked (.sql (.getRefreshTokenByHash tokenHash)) d w := by
  intro h
  cases h

theorem linkedAccessSound_read (tokenHash : String) (d : Draw) (w : World) :
    LinkedAccessSound (.sql (.getRefreshTokenByHash tokenHash)) d w := by
  intro h
  cases h

section Runs

variable {env : Env} {ds : ℕ → Draw} {w : World} {rt : RefreshToken} {record : AccessToken}
  {s s' : Store} {a : AccessToken}

/-! ### The access-token path -/

theorem revokeAnyAccessToken_refreshTokens (env : Env) (rawToken : String) (ds : ℕ → Draw) (w : World) :
    ((revokeAnyAccessToken env rawToken).run backend ds w).2.db.refreshTokens = w.db.refreshTokens := by
  unfold revokeAnyAccessToken
  cases hf : (ds 0).fault with
  | true =>
    rw [run_sql_fault _ _ hf]
    rfl
  | false =>
    rw [run_sql _ _ hf]
    simp only [Query.exec, selectOne]
    cases w.db.accessTokens.select fun t => t.tokenHash == env.lib.sha256Hex rawToken with
    | none => rfl
    | some record =>
      rcases revokeAccessTokenRecord_store (c := Request.revokesAccess) (fun _ => rfl) (fun _ => rfl) env record
        (fun n => ds (n + 1)) ⟨(w.wait (ds 0).wait).now, w.db⟩ with ⟨hsame, _⟩ | ⟨hsame, _⟩ <;>
      exact hsame.refreshTokens

/-- What a call does to a live refresh token `rt` and its access token `a`, and why: nothing, after a fault; or
it revokes the refresh token alone; or both. -/
inductive Effect (ds : ℕ → Draw) (s s' : Store) (rt : RefreshToken) (a : AccessToken) (kept sound : Prop) : Prop
  | none (same : s.SameTables s') (hkept : kept) (hfault : ¬ Sound ds)
  | refresh (now : Time) (reason : Option String) (hkept : ¬ kept)
      (same : (s.revokeRefresh rt.id now reason).SameTables s')
      (why : a.isRevoked = some true ∨ a.id = 0 ∨ ¬ sound)
  | both (now : Time) (reason : Option String)
      (same : ((s.revokeRefresh rt.id now reason).revokeAccess a.id).SameTables s')
      (hzero : a.id ≠ 0) (hsound : sound)

theorem Effect.of_tail {kept sound : Prop}
    (h : Effect (fun n => ds (n + 1)) s s' rt a kept sound) : Effect ds s s' rt a kept sound := by
  cases h with
  | none same hkept hfault => exact .none same hkept fun hs => hfault hs.tail
  | refresh now reason hkept same why => exact .refresh now reason hkept same why
  | both now reason same hzero hsound => exact .both now reason same hzero hsound

/-- The refresh token `rt` of `rawToken` is stored and live, and links to the access token `a`. -/
structure Store.Linked (env : Env) (s : Store) (rawToken : String) (rt : RefreshToken) (a : AccessToken) : Prop where
  refresh : rt ∈ s.refreshTokens.rows
  hash : rt.tokenHash = env.lib.sha256Hex rawToken
  live : rt.isRevoked = false
  access : a ∈ s.accessTokens.rows
  link : rt.accessTokenID = some a.id

theorem Store.Linked.sameTables {rawToken : String}
    (h : s.Linked env rawToken rt a) (hs : s.SameTables s') : s'.Linked env rawToken rt a := by
  obtain ⟨t, rfl⟩ := hs
  exact ⟨h.refresh, h.hash, h.live, h.access, h.link⟩

variable {rawToken hint : String} {a : AccessToken}

/-- **The two writes.** -/
theorem revokeRefreshTokenAndLinkedAccess_effect (hlive : rt.isRevoked = false)
    (ha : a ∈ w.db.accessTokens.rows) (hlink : rt.accessTokenID = some a.id) (ds : ℕ → Draw) :
    Effect ds w.db ((revokeRefreshTokenAndLinkedAccess env rt).run backend ds w).2.db rt a
      ((revokeRefreshTokenAndLinkedAccess env rt).Along backend RefreshNotRevoked ds w)
      ((revokeRefreshTokenAndLinkedAccess env rt).Along backend LinkedAccessSound ds w) := by
  cases hf : (ds 0).fault with
  | true =>
    unfold revokeRefreshTokenAndLinkedAccess
    rw [hlive, if_neg Bool.false_ne_true]
    refine .none ?_ ⟨fun _ => hf, ?_⟩ (not_sound hf)
    · rw [run_sql_fault _ _ hf]
      exact .refl _
    · rw [show backend.respond _ (ds 0) w = _ from respond_sql_fault _ hf]
      trivial
  | false =>
    obtain ⟨ds', w', now, reason, hrun, hsame, _, halong⟩ := revokeRefreshToken_run env hlive hf w
    rw [hrun, halong RefreshNotRevoked fun _ _ _ h => (by cases h),
      halong LinkedAccessSound fun _ _ _ h => (by cases h)]
    have hkept : ¬ RefreshNotRevoked (.sql (.revokeRefreshToken rt.id (strPtr "client_revoked"))) (ds 0) w := by
      intro h
      have hfault := h rfl
      rw [hf] at hfault
      cases hfault
    -- the access token is found as before
    have hfound : ∀ b, w'.db.linkedAccess rt = some b ↔ a.id ≠ 0 ∧ b = a := by
      intro b
      rw [hsame.linkedAccess, Store.linkedAccess_eq_some]
      constructor
      · rintro ⟨hb, hid, hne⟩
        obtain rfl : b = a := Store.accessToken_eq hb ha (Or.inl (Option.some.inj (hid.symm.trans hlink)))
        exact ⟨hne, rfl⟩
      · rintro ⟨hne, rfl⟩
        exact ⟨ha, hlink, hne⟩
    rcases revokeLinkedAccess_store (c := Request.onLinkedAccess) (fun _ => rfl) (fun _ => rfl) env rt ds' w'
      (Or.inr fun _ => rfl) with ⟨hsame', hwhy⟩ | ⟨b, hb, hsame', _, hsound⟩
    · refine .refresh _ _ (fun h => hkept h.1) (hsame.trans hsame') ?_
      by_cases hzero : a.id = 0
      · exact Or.inr (Or.inl hzero)
      · exact (hwhy a ((hfound a).mpr ⟨hzero, rfl⟩)).imp_right fun hnot => Or.inr fun h => hnot h.2
    · obtain ⟨hzero, rfl⟩ := (hfound b).mp hb
      exact .both _ _ ((hsame.revokeAccess b.id).trans hsame') hzero ⟨fun h => (by cases h), hsound⟩

/-- **One call** on a live refresh token, unless the hint says that it is an access token. -/
theorem revokeAnyToken_refresh (hint_ne : hint ≠ "access_token") (h : w.db.Linked env rawToken rt a)
    (ds : ℕ → Draw) :
    Effect ds w.db ((revokeAnyToken env rawToken hint).run backend ds w).2.db rt a
      ((revokeAnyToken env rawToken hint).Along backend RefreshNotRevoked ds w)
      ((revokeAnyToken env rawToken hint).Along backend LinkedAccessSound ds w) := by
  unfold revokeAnyToken
  rw [if_pos hint_ne]
  cases hf : (ds 0).fault with
  | true =>
    -- the look-up fails
    refine .none ?_ ⟨refreshNotRevoked_read _ _ _, ?_⟩ (not_sound hf)
    · rw [run_sql_fault _ _ hf]
      exact .refl _
    · rw [show backend.respond _ (ds 0) w = _ from respond_sql_fault _ hf]
      trivial
  | false =>
    rw [run_sql _ _ hf, along_sql _ _ hf, along_sql _ _ hf, and_iff_right (refreshNotRevoked_read _ _ _),
      and_iff_right (linkedAccessSound_read _ _ _)]
    simp only [Query.exec, ← h.hash, selectOne_refreshToken h.refresh]
    exact (revokeRefreshTokenAndLinkedAccess_effect (w := ⟨(w.wait (ds 0).wait).now, w.db⟩) h.live h.access
      h.link _).of_tail

/-- A refresh token that is revoked is not looked at again. -/
theorem revokeAnyToken_revoked (hint_ne : hint ≠ "access_token") {t : RefreshToken}
    (ht : t ∈ w.db.refreshTokens.rows) (hhash : t.tokenHash = env.lib.sha256Hex rawToken)
    (hrev : t.isRevoked = true) (hf : (ds 0).fault = false) :
    (revokeAnyToken env rawToken hint).run backend ds w = (.ok (), w.wait (ds 0).wait) := by
  unfold revokeAnyToken
  rw [if_pos hint_ne, run_sql _ _ hf]
  simp only [Query.exec, ← hhash, selectOne_refreshToken ht]
  unfold revokeRefreshTokenAndLinkedAccess
  rw [if_pos hrev]
  rfl

/-! ### Retries -/

/-- The refresh token and the access token are both revoked. -/
def Store.BothRevoked (s : Store) (rt : RefreshToken) (a : AccessToken) : Prop :=
  s.RefreshRevoked rt.id ∧ s.AccessRevoked a.id

theorem Store.BothRevoked.sameTables (h : s.SameTables s') : s'.BothRevoked rt a ↔ s.BothRevoked rt a := by
  obtain ⟨t, rfl⟩ := h
  exact Iff.rfl

theorem Store.bothRevoked_revokeRefresh {s : Store} (hrt : rt ∈ s.refreshTokens.rows)
    (ha : a ∈ s.accessTokens.rows) (now : Time) (reason : Option String) :
    (s.revokeRefresh rt.id now reason).BothRevoked rt a ↔ a.isRevoked = some true :=
  (and_iff_right ⟨_, Store.mem_revokeRefresh hrt now reason, rfl, rfl⟩).trans
    (Store.accessRevoked_iff (s := s.revokeRefresh rt.id now reason) ha)

theorem Store.bothRevoked_both {s : Store} (hrt : rt ∈ s.refreshTokens.rows) (ha : a ∈ s.accessTokens.rows)
    (now : Time) (reason : Option String) :
    ((s.revokeRefresh rt.id now reason).revokeAccess a.id).BothRevoked rt a :=
  ⟨⟨_, Store.mem_revokeRefresh hrt now reason, rfl, rfl⟩,
    ⟨_, Store.mem_revokeAccess (s := s.revokeRefresh rt.id now reason) ha, rfl, rfl⟩⟩

/-- A call without faults revokes both, if the access token can be reached. -/
theorem revokeAnyToken_sound (hint_ne : hint ≠ "access_token") (h : w.db.Linked env rawToken rt a) (hs : Sound ds) :
    ((revokeAnyToken env rawToken hint).run backend ds w).2.db.BothRevoked rt a ↔
      a.isRevoked = some true ∨ a.id ≠ 0 := by
  cases revokeAnyToken_refresh hint_ne h ds with
  | none _ _ hfault => exact absurd hs hfault
  | refresh now reason hkept same why =>
    rw [Store.BothRevoked.sameTables same, Store.bothRevoked_revokeRefresh h.refresh h.access]
    rcases why with hrev | hzero | hnot
    · exact iff_of_true hrev (Or.inl hrev)
    · rw [hzero]
      simp
    · exact absurd (soundOn_of_sound _ hs w) hnot
  | both now reason same hzero _ =>
    rw [Store.BothRevoked.sameTables same]
    exact iff_of_true (Store.bothRevoked_both h.refresh h.access now reason) (Or.inr hzero)

/-- **Retries.** A call on a live refresh token with a linked access token, under any faults, is followed by a
call without. The second leaves both tokens revoked exactly if the hint does not keep the refresh token from
being found, and the access token is revoked already, or it can be reached and the first call has failed before
it revoked the refresh token, or has not failed at the access token. -/
theorem retry_completes_iff {ds' : ℕ → Draw} (h : w.db.Linked env rawToken rt a) (hs : Sound ds') :
    ((revokeAnyToken env rawToken hint).run backend ds'
        ((revokeAnyToken env rawToken hint).run backend ds w).2).2.db.BothRevoked rt a ↔
      hint ≠ "access_token" ∧ (a.isRevoked = some true ∨ a.id ≠ 0 ∧
        ((revokeAnyToken env rawToken hint).Along backend RefreshNotRevoked ds w ∨
          (revokeAnyToken env rawToken hint).Along backend LinkedAccessSound ds w)) := by
  by_cases hint_ne : hint ≠ "access_token"
  swap
  · -- neither call looks at the refresh tokens
    refine iff_of_false (fun hboth => ?_) fun h => hint_ne h.1
    unfold revokeAnyToken at hboth
    simp only [if_neg hint_ne] at hboth
    have hrt : rt ∈ ((revokeAnyAccessToken env rawToken).run backend ds'
        ((revokeAnyAccessToken env rawToken).run backend ds w).2).2.db.refreshTokens.rows := by
      rw [revokeAnyAccessToken_refreshTokens, revokeAnyAccessToken_refreshTokens]
      exact h.refresh
    have hrev := (Store.refreshRevoked_iff hrt).mp hboth.1
    rw [h.live] at hrev
    cases hrev
  rw [and_iff_right hint_ne]
  generalize hw : ((revokeAnyToken env rawToken hint).run backend ds w).2 = w'
  cases hw ▸ revokeAnyToken_refresh hint_ne h ds with
  | none same hkept _ =>
    rw [revokeAnyToken_sound hint_ne (h.sameTables same) hs, and_iff_left (Or.inl hkept)]
  | refresh now reason hkept same why =>
    -- the second call finds the refresh token revoked
    have ht : rt.revoke now reason ∈ w'.db.refreshTokens.rows := by
      obtain ⟨t, hdb⟩ := same
      rw [hdb]
      exact Store.mem_revokeRefresh h.refresh now reason
    rw [revokeAnyToken_revoked hint_ne ht h.hash rfl (hs 0)]
    show w'.db.BothRevoked rt a ↔ _
    rw [Store.BothRevoked.sameTables same, Store.bothRevoked_revokeRefresh h.refresh h.access]
    refine ⟨Or.inl, fun hr => ?_⟩
    rcases hr with hrev | ⟨hzero, hfirst⟩
    · exact hrev
    rcases why with hrev | hzero' | hnot
    · exact hrev
    · exact absurd hzero' hzero
    · exact absurd hfirst (not_or.mpr ⟨hkept, hnot⟩)
  | both now reason same hzero hsound =>
    -- nothing was left to do
    have ht : rt.revoke now reason ∈ w'.db.refreshTokens.rows := by
      obtain ⟨t, hdb⟩ := same
      rw [hdb]
      exact Store.mem_revokeRefresh h.refresh now reason
    rw [revokeAnyToken_revoked hint_ne ht h.hash rfl (hs 0)]
    show w'.db.BothRevoked rt a ↔ _
    rw [Store.BothRevoked.sameTables same]
    exact iff_of_true (Store.bothRevoked_both h.refresh h.access now reason) (Or.inr ⟨hzero, Or.inr hsound⟩)

section Examples

open Deployment

/-- The deployment with an access token that `old-refresh-token` links to. -/
def linkedStore : Store :=
  { store with
    accessTokens := ⟨[{ annAccessToken with clientID := some 1 }], List.pairwise_singleton _ _⟩
    refreshTokens := ⟨[{ annRefreshToken with accessTokenID := some 8 }], List.pairwise_singleton _ _⟩ }

theorem linkedStore_linked : linkedStore.Linked Deployment.env "old-refresh-token"
    { annRefreshToken with accessTokenID := some 8 } { annAccessToken with clientID := some 1 } :=
  ⟨List.mem_singleton.mpr rfl, by decide +kernel, rfl, List.mem_singleton.mpr rfl, rfl⟩

/-- After a failure at the refresh token, the retry revokes both. -/
theorem retry_completes_iff_ann :
    ((revokeAnyToken Deployment.env "old-refresh-token" "").run backend (fun _ => draw 9 21)
      ((revokeAnyToken Deployment.env "old-refresh-token" "").run backend (failAt 1)
        ⟨0, linkedStore⟩).2).2.db.BothRevoked
      { annRefreshToken with accessTokenID := some 8 } { annAccessToken with clientID := some 1 } :=
  (retry_completes_iff linkedStore_linked fun _ => rfl).mpr
    ⟨by decide, Or.inr ⟨by decide, Or.inl (by decide +kernel)⟩⟩

/-- **The retry leaves the access token live**: the first call fails when it looks up the access token, and the
second succeeds and does nothing. -/
theorem retry_leaves_access_token :
    ((revokeAnyToken Deployment.env "old-refresh-token" "").run backend (failAt 2) ⟨0, linkedStore⟩).1 =
        .error (.ofDB "looking up linked access token" .fault) ∧
      ((revokeAnyToken Deployment.env "old-refresh-token" "").run backend (fun _ => draw 9 21)
        ((revokeAnyToken Deployment.env "old-refresh-token" "").run backend (failAt 2)
          ⟨0, linkedStore⟩).2).1 = .ok () ∧
      ((revokeAnyToken Deployment.env "old-refresh-token" "").run backend (fun _ => draw 9 21)
        ((revokeAnyToken Deployment.env "old-refresh-token" "").run backend (failAt 2)
          ⟨0, linkedStore⟩).2).2.db.accessTokens.rows.map AccessToken.isRevoked = [some false] := by
  decide +kernel

end Examples

/-! ### Hints -/

end Runs

end GoauthServer
