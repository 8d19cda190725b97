import GoauthServer.Repository.Backend

/-!
# What no statement does

What a statement can do to each table is said once, as a `Table.Step`: which rows it changes and how, which row
it appends, and whether it deletes any (`Query.refreshTokens_step`, `Query.authorizationCodes_step`,
`Query.accessTokens_step`, `Query.users_step`, and `Query.exec_clients`). What holds of every statement,
whichever call executes it, is read off these:

* a `SELECT` changes nothing (`Query.exec_of_reads`);
* refresh tokens are never deleted, their identity, family, owner, expiry and links never change, and
  a revoked one stays revoked (`RefreshToken.Later`);
* a refresh token that is not revoked was so before, or was just created (`respond_live`);
* no statement but the cleanup and the deletion of a provider deletes an authorization code
  (`AuthorizationCode.Later`);
* access tokens disappear only when they have expired, and until then stay revoked
  (`AccessToken.Later`);
* a client is never deleted, and `is_active` is never set (`Request.clientRow_isActive`): every statement inserts one
  client, or applies one function to each row (`respond_clients`).
-/

namespace GoauthServer

open Relational Interact

variable {q : Request} {d : Draw} {w : World} {α : Type} {id : UUID} {p : Call α} {u' : User}
  {s : Store} {e : DBError}

/-! ### Statements that only read -/

/-- `SELECT`. -/
def Query.reads : Query → Bool
  | .getClient _ | .listClients _ _ _ | .countClients _ | .getOAuthProvider _
  | .getOAuthProviderByClientAndName _ _ | .listOAuthProvidersByClient _
  | .listEnabledOAuthProvidersByClient _ | .countAdminUsers | .getUserByProviderID _ _
  | .getUserByEmail _ | .listUsers _ _ _ _ | .countUsers _ _ | .listAuthorizationCodes _ _ _
  | .countAuthorizationCodes _ | .listAccessTokens _ _ _ | .countAccessTokens _ | .getUserByID _
  | .getUserByEmailForAuth _ | .getAuthorizationCode _ | .getAuthorizationCodeByID _
  | .getAccessToken _ | .getAccessTokenByID _ | .getRefreshTokenByHash _ => true
  | _ => false

/-- The request writes nothing. -/
def Request.Reads : Request → Prop
  | .sql q => q.reads = true
  | _ => True

theorem Query.exec_of_reads {q : Query} (h : q.reads = true) (now : Time) (fresh : UUID) (s : Store) :
    (q.exec now fresh s).2 = s := by
  cases q <;> first | rfl | cases h

theorem respond_of_reads (h : q.Reads) (d : Draw) (w : World) : (respond q d w).2.db = w.db := by
  rcases respond_db q d w with ⟨_, hdb⟩ | ⟨q', rfl, _, hdb⟩
  · exact hdb
  · rw [hdb]
    exact Query.exec_of_reads h _ _ _

/-- Only the time has changed after a request that reads. -/
theorem respond_reads_world (hq : q.Reads) (d : Draw) (w : World) : (respond q d w).2 = w.wait d.wait := by
  cases q with
  | sql q =>
    cases hf : d.fault with
    | true => rw [respond_sql_fault q hf]
    | false =>
      rw [respond_sql q hf, Query.exec_of_reads hq]
      rfl
  | _ => rfl

/-- A call that only reads leaves the database as it was. -/
theorem Only.run_db (h : p.Only Request.Reads) (ds : ℕ → Draw) (w : World) :
    (p.run backend ds w).2.db = w.db := by
  induction p generalizing ds w with
  | ret a => rfl
  | call q k ih => exact (ih _ (h.2 _) _ _).trans (respond_of_reads h.1 _ _)

/-- A call that only reads, and takes no time. -/
theorem Only.run_world (h : p.Only Request.Reads) {ds : ℕ → Draw}
    (hds : ∀ n, (ds n).wait = 0) (w : World) : (p.run backend ds w).2 = w := by
  induction p generalizing ds w with
  | ret a => rfl
  | call q k ih =>
    have hstep : (respond q (ds 0) w).2 = w := by rw [respond_reads_world h.1, hds 0, World.wait_zero]
    rw [Prog.run_call]
    show ((k (respond q (ds 0) w).1).run backend _ (respond q (ds 0) w).2).2 = w
    rw [hstep]
    exact ih _ (h.2 _) (fun n => hds (n + 1)) w

/-! ### Refresh tokens -/

/-- `t'` is what may have become of the row `t`. -/
structure RefreshToken.Later (t t' : RefreshToken) : Prop where
  id : t'.id = t.id
  tokenFamilyID : t'.tokenFamilyID = t.tokenFamilyID
  tokenHash : t'.tokenHash = t.tokenHash
  clientID : t'.clientID = t.clientID
  userID : t'.userID = t.userID
  previousTokenID : t'.previousTokenID = t.previousTokenID
  scope : t'.scope = t.scope
  expiresAt : t'.expiresAt = t.expiresAt
  isRevoked : t.isRevoked = true → t'.isRevoked = true
  usedAt : t.usedAt.isSome = true → t'.usedAt.isSome = true
  accessTokenID : t'.accessTokenID = t.accessTokenID ∨ t'.accessTokenID = none

namespace RefreshToken.Later

theorem refl (t : RefreshToken) : t.Later t :=
  ⟨rfl, rfl, rfl, rfl, rfl, rfl, rfl, rfl, fun h => h, fun h => h, Or.inl rfl⟩

theorem trans {t₁ t₂ t₃ : RefreshToken} (h : t₁.Later t₂) (h' : t₂.Later t₃) : t₁.Later t₃ where
  id := h'.id.trans h.id
  tokenFamilyID := h'.tokenFamilyID.trans h.tokenFamilyID
  tokenHash := h'.tokenHash.trans h.tokenHash
  clientID := h'.clientID.trans h.clientID
  userID := h'.userID.trans h.userID
  previousTokenID := h'.previousTokenID.trans h.previousTokenID
  scope := h'.scope.trans h.scope
  expiresAt := h'.expiresAt.trans h.expiresAt
  isRevoked hr := h'.isRevoked (h.isRevoked hr)
  usedAt hu := h'.usedAt (h.usedAt hu)
  accessTokenID := by
    rcases h'.accessTokenID with ha | ha
    · rw [ha]; exact h.accessTokenID
    · exact Or.inr ha

theorem revoke (now : Time) (reason : Option String) (t : RefreshToken) : t.Later (t.revoke now reason) :=
  ⟨rfl, rfl, rfl, rfl, rfl, rfl, rfl, rfl, fun _ => rfl, fun h => h, Or.inl rfl⟩

theorem markUsed (now : Time) (t : RefreshToken) : t.Later (t.markUsed now) :=
  ⟨rfl, rfl, rfl, rfl, rfl, rfl, rfl, rfl, fun _ => rfl, fun _ => rfl, Or.inl rfl⟩

theorem unlink (t : RefreshToken) : t.Later { t with accessTokenID := none } :=
  ⟨rfl, rfl, rfl, rfl, rfl, rfl, rfl, rfl, fun h => h, fun h => h, Or.inr rfl⟩

end RefreshToken.Later

/-- The rows a statement revokes. -/
def Query.Revokes : Query → RefreshToken → Prop
  | .revokeRefreshToken id _, t => t.id = id
  | .revokeRefreshTokenFamily tokenFamilyID _, t => t.tokenFamilyID = tokenFamilyID
  | .markRefreshTokenUsed id, t => t.id = id
  | .revokeRefreshTokensByUser userID _, t => t.userID = userID
  | _, _ => False

/-- What a statement may make of a refresh token: it persists, and `is_revoked` is set in the rows that the
statement revokes, and in no other. -/
structure Query.RefreshStep (q : Query) (t t' : RefreshToken) : Prop where
  later : t.Later t'
  live : t'.isRevoked = false → t.isRevoked = false ∧ ¬ q.Revokes t
  revoked : t'.isRevoked = true → t.isRevoked = true ∨ q.Revokes t

section Refresh

variable {now : Time} {fresh : UUID} {s : Store}

theorem Query.RefreshStep.refl {q : Query} (hq : ∀ t, ¬ q.Revokes t) (t : RefreshToken) : q.RefreshStep t t :=
  ⟨.refl t, fun h => ⟨h, hq t⟩, Or.inl⟩

/-- An update that revokes the unrevoked rows with `p`. -/
theorem Query.RefreshStep.ite {q : Query} {p : Bool} {t t' : RefreshToken} (hlater : t.Later t')
    (hrev : t'.isRevoked = true) (hp : t.isRevoked = false → (p = true ↔ q.Revokes t))
    (hp' : p = true → q.Revokes t) : q.RefreshStep t (if p then t' else t) := by
  cases p with
  | true => exact ⟨hlater, fun h => absurd (hrev.symm.trans h) (by simp), fun _ => Or.inr (hp' rfl)⟩
  | false => exact ⟨.refl t, fun h => ⟨h, fun hq => absurd ((hp h).mpr hq) (by simp)⟩, Or.inl⟩

/-- **What a statement does to the refresh tokens.** None of them is deleted. -/
theorem Query.refreshTokens_step (q : Query) (now : Time) (fresh : UUID) (s : Store) :
    Table.Step q.RefreshStep (fun t => ∃ p, q = .createRefreshToken p ∧ t = p.row now fresh) False
      s.refreshTokens (q.exec now fresh s).2.refreshTokens := by
  cases q with
  | createRefreshToken p => exact insertOne_step (.refl fun _ => id) fun _ => ⟨p, rfl, rfl⟩
  | revokeRefreshToken id reason =>
    exact .update rfl fun t => .ite (.revoke now reason t) rfl (fun _ => beq_iff_eq) beq_iff_eq.mp
  | revokeRefreshTokenFamily F reason =>
    exact .update rfl fun t => .ite (.revoke now reason t) rfl (fun _ => beq_iff_eq) beq_iff_eq.mp
  | markRefreshTokenUsed id =>
    exact .update rfl fun t => .ite (.markUsed now t) rfl (fun _ => beq_iff_eq) beq_iff_eq.mp
  | revokeRefreshTokensByUser u reason =>
    -- the statement leaves the rows that are revoked already
    refine .update rfl fun t => .ite (.revoke now reason t) rfl (fun hlive => ?_) fun hp => ?_
    · simp [Query.Revokes, hlive]
    · exact beq_iff_eq.mp (Bool.and_eq_true_iff.mp hp).1
  | deleteExpiredAccessTokens =>
    refine .update rfl fun t => ?_
    split
    · exact ⟨.unlink t, fun h => ⟨h, id⟩, Or.inl⟩
    · exact .refl (fun _ => id) t
  | _ => exact .same (.refl fun _ => id)

end Refresh

section

variable {q : Request} {d : Draw} {w : World} {t' : RefreshToken}

/-- **Refresh tokens persist** through every step. -/
theorem respond_refreshTokens (q : Request) (d : Draw) (w : World) :
    Table.Evolves RefreshToken.Later w.db.refreshTokens (respond q d w).2.db.refreshTokens :=
  respond_induction (P := fun s => Table.Evolves RefreshToken.Later w.db.refreshTokens s.refreshTokens)
    (.refl .refl _) fun q' _ _ => ((q'.refreshTokens_step _ _ _).evolves id).mono fun _ _ h => h.later

/-- **Where a refresh token comes from.** -/
theorem respond_refreshToken_origin (h : t' ∈ (respond q d w).2.db.refreshTokens.rows) :
    (∃ t ∈ w.db.refreshTokens.rows, t.Later t') ∨
      ∃ p, q = .sql (.createRefreshToken p) ∧ t' = p.row (w.wait d.wait).now d.uuid := by
  rcases respond_db q d w with ⟨_, hdb⟩ | ⟨q', rfl, _, hdb⟩
  · rw [hdb] at h
    exact Or.inl ⟨t', h, .refl t'⟩
  · rw [hdb] at h
    rcases (q'.refreshTokens_step _ _ _).origin h with ⟨t, ht, hstep⟩ | ⟨p, rfl, hnew⟩
    · exact Or.inl ⟨t, ht, hstep.later⟩
    · exact Or.inr ⟨p, rfl, hnew⟩

/-- A refresh token was there, or it is the answer of the statement that stored it. -/
theorem respond_refreshToken_stored (h : t' ∈ (respond q d w).2.db.refreshTokens.rows) :
    (∃ t ∈ w.db.refreshTokens.rows, t.Later t') ∨
      ∃ p, q = .sql (.createRefreshToken p) ∧ t' = p.row (w.wait d.wait).now d.uuid ∧
        (respond (.sql (.createRefreshToken p)) d w).1 = .ok t' := by
  rcases respond_refreshToken_origin h with hold | ⟨p, rfl, rfl⟩
  · exact Or.inl hold
  · rcases respond_createRefreshToken d w p with ⟨e, _, hdb⟩ | ⟨table, _, hr, _⟩
    · rw [hdb] at h
      exact Or.inl ⟨_, h, .refl _⟩
    · exact Or.inr ⟨p, rfl, rfl, hr⟩

/-- Where a refresh token comes from, for a step that stores none. -/
theorem respond_refreshToken_old
    (hnone : ∀ p, q = .sql (.createRefreshToken p) → (respond q d w).2.db.refreshTokens = w.db.refreshTokens)
    (h : t' ∈ (respond q d w).2.db.refreshTokens.rows) : ∃ t ∈ w.db.refreshTokens.rows, t.Later t' := by
  rcases respond_refreshToken_origin h with hold | ⟨p, hp, _⟩
  · exact hold
  · rw [hnone p hp] at h
    exact ⟨t', h, .refl t'⟩

/-- **Where an unrevoked refresh token comes from.** It was there, unrevoked, and the statement did not revoke
it; or the statement created it. -/
theorem respond_live (h : t' ∈ (respond q d w).2.db.refreshTokens.rows) (hlive : t'.isRevoked = false) :
    (∃ t ∈ w.db.refreshTokens.rows, t.isRevoked = false ∧ t.Later t' ∧
      ∀ q', q = .sql q' → d.fault = false → ¬ q'.Revokes t) ∨
    ∃ p, q = .sql (.createRefreshToken p) ∧ d.fault = false ∧ t' = p.row (w.wait d.wait).now d.uuid := by
  rcases respond_db q d w with ⟨hf, hdb⟩ | ⟨q, rfl, hf, hdb⟩
  · rw [hdb] at h
    exact Or.inl ⟨t', h, hlive, .refl t', fun q' hq hf' => by simp [hf q' hq] at hf'⟩
  · rw [hdb] at h
    rcases (q.refreshTokens_step _ _ _).origin h with ⟨t, ht, hstep⟩ | ⟨p, rfl, rfl⟩
    · obtain ⟨hl, hrev⟩ := hstep.live hlive
      refine Or.inl ⟨t, ht, hl, hstep.later, fun q' hq _ => ?_⟩
      cases hq
      exact hrev
    · exact Or.inr ⟨p, rfl, hf, rfl⟩

end

/-! ### Authorization codes -/

/-- `c'` is what may have become of the row `c`. -/
structure AuthorizationCode.Later (c c' : AuthorizationCode) : Prop where
  id : c'.id = c.id
  code : c'.code = c.code
  clientID : c'.clientID = c.clientID
  userID : c'.userID = c.userID
  redirectUri : c'.redirectUri = c.redirectUri
  scope : c'.scope = c.scope
  usedAt : c.usedAt.isSome = true → c'.usedAt.isSome = true

theorem AuthorizationCode.Later.refl (c : AuthorizationCode) : c.Later c :=
  ⟨rfl, rfl, rfl, rfl, rfl, rfl, fun h => h⟩

theorem AuthorizationCode.Later.trans {c₁ c₂ c₃ : AuthorizationCode} (h : c₁.Later c₂)
    (h' : c₂.Later c₃) : c₁.Later c₃ where
  id := h'.id.trans h.id
  code := h'.code.trans h.code
  clientID := h'.clientID.trans h.clientID
  userID := h'.userID.trans h.userID
  redirectUri := h'.redirectUri.trans h.redirectUri
  scope := h'.scope.trans h.scope
  usedAt hu := h'.usedAt (h.usedAt hu)

/-- What a statement may make of a code: `used_at` is set in the row that the statement marks, and in no
other. -/
structure Query.CodeStep (q : Query) (c c' : AuthorizationCode) : Prop where
  later : c.Later c'
  providerID : c'.providerID = c.providerID
  expiresAt : c'.expiresAt = c.expiresAt
  unused : c'.usedAt = none → c.usedAt = none ∧ q ≠ .markAuthorizationCodeUsed c.id

theorem Query.CodeStep.refl {q : Query} (hq : ∀ id, q ≠ .markAuthorizationCodeUsed id) (c : AuthorizationCode) :
    q.CodeStep c c :=
  ⟨.refl c, rfl, rfl, fun h => ⟨h, hq c.id⟩⟩

/-- The statements that delete codes: the cleanup, and the deletion of a provider. -/
def Query.deletesCodes : Query → Bool
  | .deleteExpiredAuthorizationCodes | .deleteOAuthProvider _ => true
  | _ => false

/-- **What a statement does to the codes.** A code that is created is one of a provider that exists. -/
theorem Query.authorizationCodes_step (q : Query) (now : Time) (fresh : UUID) (s : Store) :
    Table.Step q.CodeStep (fun c => ∃ p, q = .createAuthorizationCode p ∧ c = p.row now fresh ∧
        ∃ o ∈ s.oauthProviders.rows, o.id = p.providerID)
      (q.deletesCodes = true) s.authorizationCodes (q.exec now fresh s).2.authorizationCodes := by
  cases q with
  | createAuthorizationCode p =>
    refine insertOne_step (.refl (by simp)) fun hfk => ⟨p, rfl, rfl, ?_⟩
    obtain ⟨o, ho, hid⟩ := refers_iff.mp (Bool.and_eq_true_iff.mp hfk).2
    exact ⟨o, ho, beq_iff_eq.mp hid⟩
  | markAuthorizationCodeUsed id =>
    refine .update rfl fun c => ?_
    split
    · exact ⟨⟨rfl, rfl, rfl, rfl, rfl, rfl, fun _ => rfl⟩, rfl, rfl, fun h => by cases h⟩
    · next hne =>
      refine ⟨.refl c, rfl, rfl, fun h => ⟨h, ?_⟩⟩
      rintro ⟨⟩
      exact hne (by simp)
  | revokeAuthorizationCode id =>
    refine .update rfl fun c => ?_
    split
    · exact ⟨⟨rfl, rfl, rfl, rfl, rfl, rfl, fun h => h⟩, rfl, rfl, fun h => ⟨h, by simp⟩⟩
    · exact .refl (by simp) c
  | deleteExpiredAuthorizationCodes => exact .remove _ (.refl (by simp)) rfl rfl
  | deleteOAuthProvider id => exact .remove _ (.refl (by simp)) rfl rfl
  | _ => exact .same (.refl (by simp))

section Codes

variable {q : Request} {d : Draw} {w : World} {c' : AuthorizationCode}

/-- **Authorization codes persist**, but for the cleanup and the deletion of a provider. -/
theorem respond_authorizationCodes (hq : ∀ q', q = .sql q' → q'.deletesCodes = false) :
    Table.Evolves AuthorizationCode.Later w.db.authorizationCodes
      (respond q d w).2.db.authorizationCodes := by
  refine respond_induction
    (P := fun s => Table.Evolves AuthorizationCode.Later w.db.authorizationCodes s.authorizationCodes)
    (.refl .refl _) fun q' hq' _ => ?_
  refine ((q'.authorizationCodes_step _ _ _).evolves ?_).mono fun _ _ h => h.later
  rw [hq q' hq']
  exact Bool.false_ne_true

/-- **Where a code comes from.** -/
theorem respond_authorizationCode_origin (h : c' ∈ (respond q d w).2.db.authorizationCodes.rows) :
    (∃ c ∈ w.db.authorizationCodes.rows, c.Later c' ∧ c'.providerID = c.providerID ∧
      c'.expiresAt = c.expiresAt) ∨
    ∃ p, q = .sql (.createAuthorizationCode p) ∧ c' = p.row (w.wait d.wait).now d.uuid ∧
      ∃ o ∈ w.db.oauthProviders.rows, o.id = p.providerID := by
  rcases respond_db q d w with ⟨_, hdb⟩ | ⟨q', rfl, _, hdb⟩
  · rw [hdb] at h
    exact Or.inl ⟨c', h, .refl c', rfl, rfl⟩
  · rw [hdb] at h
    rcases (q'.authorizationCodes_step _ _ _).origin h with ⟨c, hc, hstep⟩ | ⟨p, rfl, hnew⟩
    · exact Or.inl ⟨c, hc, hstep.later, hstep.providerID, hstep.expiresAt⟩
    · exact Or.inr ⟨p, rfl, hnew⟩

/-- A code was there, or it is the answer of the statement that stored it. -/
theorem respond_authorizationCode_stored (h : c' ∈ (respond q d w).2.db.authorizationCodes.rows) :
    (∃ c ∈ w.db.authorizationCodes.rows, c.Later c') ∨
      ∃ p, q = .sql (.createAuthorizationCode p) ∧ c' = p.row (w.wait d.wait).now d.uuid ∧
        (respond (.sql (.createAuthorizationCode p)) d w).1 = .ok c' := by
  rcases respond_authorizationCode_origin h with ⟨c, hc, hlater, _⟩ | ⟨p, rfl, rfl, _⟩
  · exact Or.inl ⟨c, hc, hlater⟩
  · rcases respond_createAuthorizationCode d w p with ⟨e, _, hdb⟩ | ⟨table, _, hr, _⟩
    · rw [hdb] at h
      exact Or.inl ⟨_, h, .refl _⟩
    · exact Or.inr ⟨p, rfl, rfl, hr⟩

end Codes

/-! ### Access tokens -/

/-- `t'` is what may have become of the row `t`. -/
structure AccessToken.Later (t t' : AccessToken) : Prop where
  id : t'.id = t.id
  tokenHash : t'.tokenHash = t.tokenHash
  clientID : t'.clientID = t.clientID
  userID : t'.userID = t.userID
  expiresAt : t'.expiresAt = t.expiresAt
  isRevoked : t.isRevoked = some true → t'.isRevoked = some true

theorem AccessToken.Later.refl (t : AccessToken) : t.Later t :=
  ⟨rfl, rfl, rfl, rfl, rfl, fun h => h⟩

theorem AccessToken.Later.trans {t₁ t₂ t₃ : AccessToken} (h : t₁.Later t₂) (h' : t₂.Later t₃) :
    t₁.Later t₃ where
  id := h'.id.trans h.id
  tokenHash := h'.tokenHash.trans h.tokenHash
  clientID := h'.clientID.trans h.clientID
  userID := h'.userID.trans h.userID
  expiresAt := h'.expiresAt.trans h.expiresAt
  isRevoked hr := h'.isRevoked (h.isRevoked hr)

theorem AccessToken.Later.revoke (t : AccessToken) : t.Later t.revoke :=
  ⟨rfl, rfl, rfl, rfl, rfl, fun _ => rfl⟩

theorem AccessToken.Later.revoke_ite (p : Bool) (t : AccessToken) : t.Later (if p then t.revoke else t) := by
  split
  · exact .revoke t
  · exact .refl t

/-- **What a statement does to the access tokens.** Only the cleanup deletes some. -/
theorem Query.accessTokens_step (q : Query) (now : Time) (fresh : UUID) (s : Store) :
    Table.Step AccessToken.Later (fun t => ∃ p, q = .createAccessToken p ∧ t = p.row now fresh)
      (q = .deleteExpiredAccessTokens) s.accessTokens (q.exec now fresh s).2.accessTokens := by
  cases q with
  | createAccessToken p => exact insertOne_step .refl fun _ => ⟨p, rfl, rfl⟩
  | revokeAccessToken id => exact .update rfl fun t => .revoke_ite _ t
  | revokeAccessTokensByClient clientID => exact .update rfl fun t => .revoke_ite _ t
  | revokeAccessTokensByUser userID => exact .update rfl fun t => .revoke_ite _ t
  | deleteExpiredAccessTokens => exact .remove _ .refl rfl rfl
  | _ => exact .same .refl

section Access

variable {now : Time} {s : Store}

/-- The cleanup deletes only what has expired. -/
theorem mem_deleteExpiredAccessTokens {t : AccessToken} :
    t ∈ (s.deleteExpiredAccessTokens now).accessTokens.rows ↔
      t ∈ s.accessTokens.rows ∧ now ≤ t.expiresAt := by
  rw [show (s.deleteExpiredAccessTokens now).accessTokens =
    s.accessTokens.delete (fun t => decide (t.expiresAt < now)) from rfl, Table.mem_delete]
  simp

/-- What the cleanup leaves linked was not deleted. -/
theorem unlinked_of_expired {t : AccessToken} (ht : t ∈ s.accessTokens.rows) (hexp : t.expiresAt < now)
    {r : RefreshToken} (hr : r ∈ (s.deleteExpiredAccessTokens now).refreshTokens.rows) :
    r.accessTokenID ≠ some t.id := by
  obtain ⟨r₀, _, rfl⟩ := Table.exists_of_mem_update hr
  split
  · simp
  · next hno =>
    intro hlink
    refine hno ?_
    rw [hlink]
    exact List.any_eq_true.mpr ⟨t, ht, by simp [hexp]⟩

variable {q : Request} {d : Draw} {w : World} {t' : AccessToken}

/-- **Access tokens persist**, but for the cleanup. -/
theorem respond_accessTokens (hq : q ≠ .sql .deleteExpiredAccessTokens) :
    Table.Evolves AccessToken.Later w.db.accessTokens (respond q d w).2.db.accessTokens := by
  refine respond_induction (P := fun s => Table.Evolves AccessToken.Later w.db.accessTokens s.accessTokens)
    (.refl .refl _) fun q' hq' _ => (q'.accessTokens_step _ _ _).evolves ?_
  rintro rfl
  exact hq hq'

/-- **Where an access token comes from.** -/
theorem respond_accessToken_origin (h : t' ∈ (respond q d w).2.db.accessTokens.rows) :
    (∃ t ∈ w.db.accessTokens.rows, t.Later t') ∨
      ∃ p, q = .sql (.createAccessToken p) ∧ t' = p.row (w.wait d.wait).now d.uuid := by
  rcases respond_db q d w with ⟨_, hdb⟩ | ⟨q', rfl, _, hdb⟩
  · rw [hdb] at h
    exact Or.inl ⟨t', h, .refl t'⟩
  · rw [hdb] at h
    rcases (q'.accessTokens_step _ _ _).origin h with hold | ⟨p, rfl, ht⟩
    · exact Or.inl hold
    · exact Or.inr ⟨p, rfl, ht⟩

/-- An access token was there, or it is the answer of the statement that stored it. -/
theorem respond_accessToken_stored (h : t' ∈ (respond q d w).2.db.accessTokens.rows) :
    (∃ t ∈ w.db.accessTokens.rows, t.Later t') ∨
      ∃ p, q = .sql (.createAccessToken p) ∧ t' = p.row (w.wait d.wait).now d.uuid ∧
        (respond (.sql (.createAccessToken p)) d w).1 = .ok t' := by
  rcases respond_accessToken_origin h with hold | ⟨p, rfl, rfl⟩
  · exact Or.inl hold
  · rcases respond_createAccessToken d w p with ⟨e, _, hdb⟩ | ⟨table, _, hr, _⟩
    · rw [hdb] at h
      exact Or.inl ⟨_, h, .refl _⟩
    · exact Or.inr ⟨p, rfl, rfl, hr⟩

end Access

/-! ### Users -/

/-- `u'` is what may have become of the row `u`. -/
structure User.Later (u u' : User) : Prop where
  id : u'.id = u.id
  email : u'.email = u.email
  provider : u'.provider = u.provider
  providerID : u'.providerID = u.providerID

theorem User.Later.refl (u : User) : u.Later u := ⟨rfl, rfl, rfl, rfl⟩

theorem User.Later.trans {u₁ u₂ u₃ : User} (h : u₁.Later u₂) (h' : u₂.Later u₃) : u₁.Later u₃ where
  id := h'.id.trans h.id
  email := h'.email.trans h.email
  provider := h'.provider.trans h.provider
  providerID := h'.providerID.trans h.providerID

/-- What a statement may make of a user: it keeps the identity, and only the statements that are named set
`force_password_change` or lift a lock. -/
structure Query.UserStep (q : Query) (u u' : User) : Prop where
  later : u.Later u'
  forced : u'.forcePasswordChange = true →
    u.forcePasswordChange = true ∨ q = .setForcePasswordChange u'.id true
  unlocked : u'.lockedUntil = none →
    u.lockedUntil = none ∨ q = .resetLoginAttempts u.id ∨ q = .unlockUserAccount u.id

theorem Query.UserStep.refl {q : Query} (u : User) : q.UserStep u u := ⟨.refl u, Or.inl, Or.inl⟩

theorem updateUser_step {q : Query} {new : User → Prop} {deletes : Prop} {t : Table User} {now : Time}
    {f : User → User} {hf : ∀ u, Keyed.key (f u) = Keyed.key u}
    (h : ∀ u, u.id = id → q.UserStep u { f u with updatedAt := now }) :
    Table.Step q.UserStep new deletes t (updateUser t now id f hf).2 := by
  refine .update rfl fun u => ?_
  split
  · next hid => exact h u (beq_iff_eq.mp hid)
  · exact .refl u

/-- **What a statement does to the users.** None of them is deleted. -/
theorem Query.users_step (q : Query) (now : Time) (fresh : UUID) (s : Store) :
    Table.Step q.UserStep (fun u => ∃ p, q = .createUser p ∧ u = p.row now fresh) False
      s.users (q.exec now fresh s).2.users := by
  cases q <;> simp only [Query.exec, Store.withUsers]
  case createUser p =>
    split
    · exact .same .refl
    · exact insertOne_step .refl fun _ => ⟨p, rfl, rfl⟩
  case incrementFailedLoginAttempts id =>
    split
    · exact .same .refl
    · exact updateUser_step fun u _ => ⟨⟨rfl, rfl, rfl, rfl⟩, Or.inl, Or.inl⟩
  case setForcePasswordChange id flag =>
    refine updateUser_step fun u hid => ⟨⟨rfl, rfl, rfl, rfl⟩, fun hflag => Or.inr ?_, Or.inl⟩
    obtain rfl : flag = true := hflag
    rw [← hid]
  case lockUserAccount id t =>
    exact updateUser_step fun u _ => ⟨⟨rfl, rfl, rfl, rfl⟩, Or.inl, fun h => by cases h⟩
  case resetLoginAttempts id =>
    exact updateUser_step fun u hid =>
      ⟨⟨rfl, rfl, rfl, rfl⟩, Or.inl, fun _ => Or.inr (Or.inl (by rw [hid]))⟩
  case unlockUserAccount id =>
    exact updateUser_step fun u hid =>
      ⟨⟨rfl, rfl, rfl, rfl⟩, Or.inl, fun _ => Or.inr (Or.inr (by rw [hid]))⟩
  -- every other statement on `users` is an update of one row by its identifier
  all_goals first
    | exact .same .refl
    | exact updateUser_step fun u _ => ⟨⟨rfl, rfl, rfl, rfl⟩, Or.inl, Or.inl⟩

/-- **Where a user comes from**, for a step that creates none. -/
theorem respond_user_origin (hq : ∀ p, q ≠ .sql (.createUser p)) (h : u' ∈ (respond q d w).2.db.users.rows) :
    ∃ u ∈ w.db.users.rows, u.Later u' := by
  rcases respond_db q d w with ⟨_, hdb⟩ | ⟨q', rfl, _, hdb⟩
  · rw [hdb] at h
    exact ⟨u', h, .refl u'⟩
  · rw [hdb] at h
    rcases (q'.users_step _ _ _).origin h with ⟨u, hu, hstep⟩ | ⟨p, rfl, _⟩
    · exact ⟨u, hu, hstep.later⟩
    · exact absurd rfl (hq p)

/-- **Users persist.** -/
theorem respond_users (q : Request) (d : Draw) (w : World) :
    Table.Evolves User.Later w.db.users (respond q d w).2.db.users :=
  respond_induction (P := fun s => Table.Evolves User.Later w.db.users s.users) (.refl .refl _)
    fun q' _ _ => ((q'.users_step _ _ _).evolves id).mono fun _ _ h => h.later

/-- Users persist through a call. -/
theorem run_users (p : Call α) (ds : ℕ → Draw) (w : World) :
    Table.Evolves User.Later w.db.users (p.run backend ds w).2.db.users := by
  induction p generalizing ds w with
  | ret a => exact Table.Evolves.refl .refl _
  | call q k ih =>
    exact (respond_users q (ds 0) w).trans (fun _ _ _ h h' => h.trans h') (ih _ _ _)

/-! ### Users who owe a change of password -/

/-- No row with this identifier has `force_password_change`. -/
def Store.Unforced (s : Store) (id : UUID) : Prop :=
  ∀ u ∈ s.users.rows, u.id = id → u.forcePasswordChange = false

theorem Store.unforced_of_mem {u : User} (hu : u ∈ s.users.rows)
    (hflag : u.forcePasswordChange = false) : s.Unforced u.id := by
  intro v hv hid
  rw [Store.user_eq hv hu hid]
  exact hflag

/-- **Where a user with the flag comes from.** The row was there and had it, or the step is the one that sets
it. -/
theorem respond_forced (h : u' ∈ (respond q d w).2.db.users.rows) (hflag : u'.forcePasswordChange = true) :
    ∃ u ∈ w.db.users.rows, u.Later u' ∧
      (u.forcePasswordChange = true ∨ q = .sql (.setForcePasswordChange u'.id true)) := by
  rcases respond_db q d w with ⟨_, hdb⟩ | ⟨q', rfl, _, hdb⟩
  · rw [hdb] at h
    exact ⟨u', h, .refl u', Or.inl hflag⟩
  · rw [hdb] at h
    rcases (q'.users_step _ _ _).origin h with ⟨u, hu, hstep⟩ | ⟨p, rfl, rfl⟩
    · exact ⟨u, hu, hstep.later, (hstep.forced hflag).imp_right fun hq => by rw [← hq]⟩
    · -- the default of the column
      cases hflag

/-- A user without the flag stays so, unless a step sets it. -/
theorem Store.Unforced.respond (h : w.db.Unforced id) (hq : q ≠ .sql (.setForcePasswordChange id true)) :
    (GoauthServer.respond q d w).2.db.Unforced id := by
  intro u' hu' hid
  by_contra hflag
  obtain ⟨u, hu, hlater, hforced | hset⟩ := respond_forced hu' (Bool.not_eq_false _ ▸ hflag)
  · rw [h u hu (hlater.id.symm.trans hid)] at hforced
    cases hforced
  · rw [hid] at hset
    exact hq hset

/-- The flag that a statement has cleared. -/
theorem respond_clearForcePasswordChange {u : User}
    (h : (respond (.sql (.setForcePasswordChange id false)) d w).1 = .ok u) :
    (respond (.sql (.setForcePasswordChange id false)) d w).2.db.Unforced id := by
  obtain ⟨_, _, hdb⟩ := respond_sql_ok h
  rw [hdb]
  intro v hv hid
  obtain ⟨v₀, _, rfl⟩ := Table.exists_of_mem_update hv
  split at hid
  · next hp => rw [if_pos hp]
  · next hp => exact absurd (beq_iff_eq.mpr hid) hp

/-! ### Clients -/

/-- What a statement makes of a client, but for `CreateClient`, which makes a new one. -/
def Query.clientRow (now : Time) : Query → Client → Client
  | .updateClient p, c =>
    if c.id == p.id then
      { c with
        name := p.name, description := p.description, redirectUris := p.redirectUris
        grantTypes := p.grantTypes, isConfidential := p.isConfidential
        allowRefreshTokens := p.allowRefreshTokens, updatedAt := now }
    else c
  | .deleteClient id, c => if c.id == id then { c with isActive := some false, updatedAt := now } else c
  | .regenerateClientSecret id clientSecretHash, c =>
    if c.id == id then { c with clientSecretHash := clientSecretHash, updatedAt := now } else c
  | _, c => c

/-- What a step makes of a client. -/
def Request.clientRow (d : Draw) (w : World) : Request → Client → Client
  | .sql q, c => if d.fault then c else q.clientRow (w.wait d.wait).now c
  | _, c => c

theorem Request.clientRow_fault (h : d.fault = true) (q : Query) (w : World) (c : Client) :
    (Request.sql q).clientRow d w c = c := by
  simp [Request.clientRow, h]

theorem Request.clientRow_sql (h : d.fault = false) (q : Query) (w : World) (c : Client) :
    (Request.sql q).clientRow d w c = q.clientRow (w.wait d.wait).now c := by
  simp [Request.clientRow, h]

/-- **What a statement does to the clients.** It inserts one, or it applies one function to each row. -/
theorem Query.exec_clients (q : Query) (now : Time) (fresh : UUID) (s : Store) :
    (∃ p, q = .createClient p ∧ ((Query.createClient p).exec now fresh s).1 = .ok (p.row now fresh) ∧
      s.clients.insert (p.row now fresh) = some (q.exec now fresh s).2.clients) ∨
    (q.exec now fresh s).2.clients.rows = s.clients.rows.map (q.clientRow now) := by
  have hid : s.clients.rows = s.clients.rows.map fun c => c := (List.map_id _).symm
  cases q with
  | createClient p =>
    simp only [Query.exec]
    split
    · exact Or.inr hid
    next hne =>
    rcases insertOne_cases s.clients (Refers s.users fun u => u.id == p.createdBy)
      (p.row now fresh) with ⟨e, h⟩ | ⟨t, hins, h⟩
    · rw [h]; exact Or.inr hid
    · refine Or.inl ⟨p, rfl, ?_, ?_⟩
      · rw [if_neg hne, h]
      · rw [h]; exact hins
  | updateClient p => exact Or.inr rfl
  | deleteClient id => exact Or.inr rfl
  | regenerateClientSecret id clientSecretHash => exact Or.inr rfl
  | _ => exact Or.inr hid

/-- **What a step does to the clients.** -/
theorem respond_clients (q : Request) (d : Draw) (w : World) :
    (∃ p, q = .sql (.createClient p) ∧ d.fault = false ∧
      (respond (.sql (.createClient p)) d w).1 = .ok (p.row (w.wait d.wait).now d.uuid) ∧
      w.db.clients.insert (p.row (w.wait d.wait).now d.uuid) = some (respond q d w).2.db.clients) ∨
    (respond q d w).2.db.clients.rows = w.db.clients.rows.map (q.clientRow d w) := by
  have hid : w.db.clients.rows = w.db.clients.rows.map fun c => c := (List.map_id _).symm
  cases q with
  | sql q =>
    cases hf : d.fault with
    | true =>
      have hrow : (Request.sql q).clientRow d w = fun c => c := by
        funext c
        exact Request.clientRow_fault hf q w c
      rw [respond_sql_fault q hf, hrow]
      exact Or.inr hid
    | false =>
      have hrow : (Request.sql q).clientRow d w = q.clientRow (w.wait d.wait).now := by
        funext c
        exact Request.clientRow_sql hf q w c
      rw [respond_sql q hf, hrow]
      rcases Query.exec_clients q (w.wait d.wait).now d.uuid w.db with ⟨p, rfl, hok, hins⟩ | h
      · exact Or.inl ⟨p, rfl, rfl, by rw [respond_sql _ hf]; exact hok, hins⟩
      · exact Or.inr h
  | _ => exact Or.inr hid

/-- A statement that fails leaves the clients alone. -/
theorem Query.exec_clients_error {q : Query} {now : Time} {fresh : UUID}
    (h : (q.exec now fresh s).1 = .error e) : (q.exec now fresh s).2.clients = s.clients := by
  cases q with
  | createClient p =>
    rcases Query.exec_clients (.createClient p) now fresh s with ⟨p', hq, hok, _⟩ | hrows
    · obtain rfl := Query.createClient.inj hq
      rw [hok] at h
      cases h
    · exact Table.ext (hrows.trans (List.map_id _))
  | updateClient p => exact updateOne_error (by intro c; rfl) h
  | regenerateClientSecret id clientSecretHash => exact updateOne_error (by intro c; rfl) h
  | deleteClient id => cases h
  | _ => rfl

theorem respond_clients_error {q : Query}
    (h : (respond (.sql q) d w).1 = .error e) : (respond (.sql q) d w).2.db.clients = w.db.clients := by
  cases hf : d.fault with
  | true =>
    rw [respond_sql_fault q hf]
    rfl
  | false =>
    rw [respond_sql q hf] at h ⊢
    exact Query.exec_clients_error h

/-- A step that does not create a client. -/
theorem respond_clients_map (hq : ∀ p, q ≠ .sql (.createClient p)) (d : Draw) (w : World) :
    (respond q d w).2.db.clients.rows = w.db.clients.rows.map (q.clientRow d w) := by
  rcases respond_clients q d w with ⟨p, rfl, _⟩ | h
  · exact absurd rfl (hq p)
  · exact h

@[simp] theorem Request.clientRow_id (q : Request) (d : Draw) (w : World) (c : Client) :
    (q.clientRow d w c).id = c.id := by
  unfold Request.clientRow
  split
  · split
    · rfl
    · unfold Query.clientRow
      split
      all_goals first | rfl | (split <;> rfl)
  · rfl

/-- No statement sets `is_active` of a client that is there. -/
theorem Request.clientRow_isActive (q : Request) (d : Draw) (w : World) (c : Client) :
    (q.clientRow d w c).isActive = c.isActive ∨ (q.clientRow d w c).isActive = some false := by
  unfold Request.clientRow
  split
  · split
    · exact Or.inl rfl
    · unfold Query.clientRow
      split
      · split <;> exact Or.inl rfl
      · split
        · exact Or.inr rfl
        · exact Or.inl rfl
      · split <;> exact Or.inl rfl
      · exact Or.inl rfl
  · exact Or.inl rfl

/-- The request is no statement that writes clients. -/
def Request.keepsClients : Request → Bool
  | .sql (.createClient _) | .sql (.updateClient _) | .sql (.deleteClient _)
  | .sql (.regenerateClientSecret _ _) => false
  | _ => true

theorem respond_of_keepsClients (h : q.keepsClients = true) (d : Draw) (w : World) :
    (respond q d w).2.db.clients = w.db.clients := by
  rcases respond_db q d w with ⟨_, hdb⟩ | ⟨q', rfl, _, hdb⟩
  · rw [hdb]
  · rw [hdb]
    cases q' <;> first | rfl | cases h

end GoauthServer
