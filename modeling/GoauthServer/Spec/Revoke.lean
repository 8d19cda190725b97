import GoauthServer.Service.Revoke

/-!
# What a revocation writes

`RevokeAnyToken` comes down to two statements that write: one for a refresh token, one for its access token.
This module says once, of a run under any faults, which of them has taken effect, and what stood in the way of
the other.

The results about sessions, owners and retries differ in the faults they exclude. So the faults are a
parameter: `SoundOn c` says that no statement which `c` picks out fails. The audit events, whose faults
nobody notices, are never picked.
-/

namespace GoauthServer

open Interact Relational

namespace Store

variable {s s' : Store}

theorem SameTables.trans {s s₁ s₂ : Store} (h₁ : s.SameTables s₁) (h₂ : s₁.SameTables s₂) : s.SameTables s₂ := by
  obtain ⟨t₁, rfl⟩ := h₁
  obtain ⟨t₂, rfl⟩ := h₂
  exact ⟨t₂, rfl⟩

theorem SameTables.accessTokens (h : s.SameTables s') : s'.accessTokens = s.accessTokens := by
  obtain ⟨t, rfl⟩ := h
  rfl

theorem SameTables.refreshTokens (h : s.SameTables s') : s'.refreshTokens = s.refreshTokens := by
  obtain ⟨t, rfl⟩ := h
  rfl

/-- The store after `RevokeAccessToken`. -/
def revokeAccess (s : Store) (id : UUID) : Store :=
  { s with
    accessTokens := s.accessTokens.update (fun t => t.id == id) AccessToken.revoke AccessToken.key_revoke }

theorem SameTables.revokeAccess (h : s.SameTables s') (id : UUID) :
    (s.revokeAccess id).SameTables (s'.revokeAccess id) := by
  obtain ⟨t, rfl⟩ := h
  exact ⟨t, rfl⟩

/-- The store after `RevokeRefreshToken`. -/
def revokeRefresh (s : Store) (id : UUID) (now : Time) (reason : Option String) : Store :=
  { s with
    refreshTokens := s.refreshTokens.update (fun t => t.id == id) (.revoke now reason)
      (RefreshToken.key_revoke now reason) }

/-- The access token that a refresh token links to. -/
def linkedAccess (s : Store) (rt : RefreshToken) : Option AccessToken :=
  if rt.accessTokenID.getD 0 = 0 then none
  else s.accessTokens.select fun a => a.id == rt.accessTokenID.getD 0

/-- A link is followed, unless it is the zero UUID. -/
theorem linkedAccess_eq_some {s : Store} {rt : RefreshToken} {a : AccessToken} :
    s.linkedAccess rt = some a ↔ a ∈ s.accessTokens.rows ∧ rt.accessTokenID = some a.id ∧ a.id ≠ 0 := by
  unfold linkedAccess
  constructor
  · intro h
    split at h
    · cases h
    · next hne =>
      obtain ⟨hmem, hid⟩ := selectOne_ok (selectOne_eq_ok h)
      have hid : a.id = rt.accessTokenID.getD 0 := beq_iff_eq.mp hid
      rw [← hid] at hne
      refine ⟨hmem, ?_, hne⟩
      cases hlink : rt.accessTokenID with
      | none =>
        rw [hlink] at hid
        exact absurd hid hne
      | some id => rw [hid, hlink, Option.getD_some]
  · rintro ⟨hmem, hlink, hne⟩
    rw [hlink, Option.getD_some, if_neg hne]
    refine Table.select_eq_some hmem (by simp) fun b hb => ?_
    have hid : b.id = a.id := by simpa using hb
    simp [Keyed.clash, Keyed.key, hid]

theorem SameTables.linkedAccess (h : s.SameTables s') (rt : RefreshToken) :
    s'.linkedAccess rt = s.linkedAccess rt := by
  unfold Store.linkedAccess
  rw [h.accessTokens]

end Store

theorem selectOne_refreshToken {s : Store} {t : RefreshToken} (h : t ∈ s.refreshTokens.rows) :
    selectOne s.refreshTokens (fun a => a.tokenHash == t.tokenHash) = .ok t :=
  selectOne_eq_ok (Table.select_eq_some h (by simp) fun a ha => by
    have hhash : a.tokenHash = t.tokenHash := by simpa using ha
    simp [Keyed.clash, Keyed.key, hhash])

/-- No statement that `c` picks out fails. -/
def SoundOn (c : Request → Bool) (q : Request) (d : Draw) (_ : World) : Prop := c q = true → d.fault = false

/-- The statements with which `RevokeAnyToken` looks up and revokes a linked access token. -/
def Request.onLinkedAccess : Request → Bool
  | .sql (.getAccessTokenByID _) | .sql (.revokeAccessToken _) => true
  | _ => false

section Runs

variable {c : Request → Bool} {ds : ℕ → Draw}

theorem not_sound (hf : (ds 0).fault = true) : ¬ Sound ds := by
  intro hs
  rw [hs 0] at hf
  cases hf

theorem soundOn_of_sound {α : Type} (p : Call α) (hs : Sound ds) (w : World) :
    p.Along backend (SoundOn c) ds w := by
  induction p generalizing ds w with
  | ret a => trivial
  | call q k ih => exact ⟨fun _ => hs 0, ih _ hs.tail _⟩

/-- The first statement fails, and is one that should not. -/
theorem not_along_of_fault {α : Type} {q : Query} {k : Except DBError q.Row → Call α} {w : World}
    (hq : c (.sql q) = true) (hf : (ds 0).fault = true) :
    ¬ (Call.sql q k).Along backend (SoundOn c) ds w := by
  intro h
  have hsound := h.1 hq
  rw [hf] at hsound
  cases hsound

/-- **A live refresh token** is revoked, and the call goes on to the access token. -/
theorem revokeRefreshToken_run (env : Env) {rt : RefreshToken} (hlive : rt.isRevoked = false)
    (hf : (ds 0).fault = false) (w : World) :
    ∃ ds' w' now reason, (revokeRefreshTokenAndLinkedAccess env rt).run backend ds w =
        (revokeLinkedAccess env rt).run backend ds' w' ∧
      (w.db.revokeRefresh rt.id now reason).SameTables w'.db ∧ (Sound ds → Sound ds') ∧
      ∀ P : (q : Request) → Draw → World → Prop, (∀ p d w, P (.sql (.createAuditLogEntry p)) d w) →
        ((revokeRefreshTokenAndLinkedAccess env rt).Along backend P ds w ↔
          P (.sql (.revokeRefreshToken rt.id (strPtr "client_revoked"))) (ds 0) w ∧
            (revokeLinkedAccess env rt).Along backend P ds' w') := by
  unfold revokeRefreshTokenAndLinkedAccess
  rw [hlive, if_neg Bool.false_ne_true, run_sql _ _ hf]
  obtain ⟨ds', w', hrun, hsame, hsound, halong⟩ := logEvent_run env
    { eventType := .refreshTokenRevoked, userID := some rt.userID, clientID := some rt.clientID
      metadata := [("reason", "client_revoked")] } (revokeLinkedAccess env rt) (fun n => ds (n + 1))
    ⟨(w.wait (ds 0).wait).now, w.db.revokeRefresh rt.id (w.wait (ds 0).wait).now (strPtr "client_revoked")⟩
  refine ⟨ds', w', _, _, hrun, hsame, fun hs => hsound hs.tail, fun P hP => ?_⟩
  rw [along_sql _ _ hf]
  exact and_congr_right fun _ => halong P hP

variable (haudit : ∀ p, c (.sql (.createAuditLogEntry p)) = false)
  (hrevoke : ∀ id, c (.sql (.revokeAccessToken id)) = true)

include haudit

theorem soundOn_audit (p : CreateAuditLogEntryParams) (d : Draw) (w : World) :
    SoundOn c (.sql (.createAuditLogEntry p)) d w := by
  intro h
  rw [haudit] at h
  cases h

include hrevoke

/-- **The access-token record** is written to if it is not revoked, and the statement does not fail. -/
theorem revokeAccessTokenRecord_store (env : Env) (record : AccessToken) (ds : ℕ → Draw) (w : World) :
    (w.db.SameTables ((revokeAccessTokenRecord env record).run backend ds w).2.db ∧
        (record.isRevoked = some true ∧ ((revokeAccessTokenRecord env record).run backend ds w).1 = .ok () ∨
          ¬ (revokeAccessTokenRecord env record).Along backend (SoundOn c) ds w)) ∨
      ((w.db.revokeAccess record.id).SameTables ((revokeAccessTokenRecord env record).run backend ds w).2.db ∧
        ((revokeAccessTokenRecord env record).run backend ds w).1 = .ok () ∧ record.isRevoked ≠ some true ∧
          (revokeAccessTokenRecord env record).Along backend (SoundOn c) ds w) := by
  unfold revokeAccessTokenRecord
  by_cases hrev : record.isRevoked = some true
  · rw [if_pos hrev]
    exact Or.inl ⟨.refl _, Or.inl ⟨hrev, rfl⟩⟩
  rw [if_neg hrev]
  cases hf : (ds 0).fault with
  | true =>
    refine Or.inl ⟨?_, Or.inr (not_along_of_fault (hrevoke _) hf)⟩
    rw [run_sql_fault _ _ hf]
    exact .refl _
  | false =>
    rw [run_sql _ _ hf, along_sql _ _ hf]
    obtain ⟨ds', w', hrun, hsame, _, halong⟩ := logEvent_run env
      { eventType := .accessTokenRevoked, userID := some record.userID
        clientID := record.clientID, metadata := [("reason", "client_revoked")] }
      (Prog.ret (Except.ok ()) : Call (Except AuthError Unit)) (fun n => ds (n + 1))
      ⟨(w.wait (ds 0).wait).now, w.db.revokeAccess record.id⟩
    simp only [Query.exec]
    refine Or.inr ⟨?_, congrArg Prod.fst hrun, hrev, fun _ => hf,
      (halong _ (soundOn_audit haudit)).mpr trivial⟩
    exact hsame.trans ⟨w'.db.auditLog, congrArg (fun r => r.2.db) hrun⟩

/-- **The linked access token**, the same way. The call either reports that the look-up has failed, or `c`
picks out the look-up. -/
theorem revokeLinkedAccess_store (env : Env) (rt : RefreshToken) (ds : ℕ → Draw) (w : World)
    (hlookup : ((revokeLinkedAccess env rt).run backend ds w).1 = .ok () ∨
      ∀ id, c (.sql (.getAccessTokenByID id)) = true) :
    (w.db.SameTables ((revokeLinkedAccess env rt).run backend ds w).2.db ∧
        ∀ a ∈ w.db.linkedAccess rt, a.isRevoked = some true ∨
          ¬ (revokeLinkedAccess env rt).Along backend (SoundOn c) ds w) ∨
      ∃ a ∈ w.db.linkedAccess rt,
        (w.db.revokeAccess a.id).SameTables ((revokeLinkedAccess env rt).run backend ds w).2.db ∧
        a.isRevoked ≠ some true ∧ (revokeLinkedAccess env rt).Along backend (SoundOn c) ds w := by
  unfold revokeLinkedAccess Store.linkedAccess at *
  by_cases hzero : rt.accessTokenID.getD 0 = 0
  · rw [if_neg (not_not.mpr hzero), if_pos hzero]
    exact Or.inl ⟨.refl _, fun a ha => by cases ha⟩
  rw [if_pos hzero] at hlookup ⊢
  rw [if_neg hzero]
  cases hf : (ds 0).fault with
  | true =>
    rcases hlookup with hok | hsel
    · rw [run_sql_fault _ _ hf] at hok
      cases hok
    · refine Or.inl ⟨?_, fun _ _ => Or.inr (not_along_of_fault (hsel _) hf)⟩
      rw [run_sql_fault _ _ hf]
      exact .refl _
  | false =>
    rw [run_sql _ _ hf, along_sql _ _ hf]
    simp only [Query.exec, selectOne]
    cases hsel : w.db.accessTokens.select fun a => a.id == rt.accessTokenID.getD 0 with
    | none => exact Or.inl ⟨.refl _, fun a ha => by cases ha⟩
    | some record =>
      -- the error of the revocation itself is dropped
      have hend : ∀ r : Except AuthError Unit,
          (fun _ : Except AuthError Unit => (.ret (.ok ()) : Call (Except AuthError Unit))) r =
            .ret ((fun _ => .ok ()) r) := fun _ => rfl
      dsimp only
      rw [Prog.run_bind_ret hend, Prog.along_bind_ret hend]
      rcases revokeAccessTokenRecord_store haudit hrevoke env record (fun n => ds (n + 1))
        ⟨(w.wait (ds 0).wait).now, w.db⟩ with ⟨hsame, hwhy⟩ | ⟨hsame, _, hlive, halong⟩
      · refine Or.inl ⟨hsame, fun a ha => ?_⟩
        obtain rfl := Option.some.inj ha
        exact hwhy.imp And.left fun hnot h => hnot h.2
      · exact Or.inr ⟨record, rfl, hsame, hlive, fun _ => hf, halong⟩

end Runs

end GoauthServer
