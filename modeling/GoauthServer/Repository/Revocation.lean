import GoauthServer.Repository.Evolution

/-!
# Which statements revoke and unlock

`Repository/Evolution.lean` says where a token that is not revoked comes from. Here is the converse: a refresh
token that a step revokes is one that its statement addresses (`respond_revoked`), and a lock that a step
lifts belongs to the user whom one of two statements names (`respond_unlocked`).
-/

namespace GoauthServer

open Relational Interact

variable {q : Request} {d : Draw} {w : World}

/-- **A refresh token that a step revokes** is one that its statement addresses. -/
theorem respond_revoked {t t' : RefreshToken} (ht : t ∈ w.db.refreshTokens.rows) (hlive : t.isRevoked = false)
    (h : t' ∈ (respond q d w).2.db.refreshTokens.rows) (hid : t'.id = t.id) (hrev : t'.isRevoked = true) :
    ∃ q', q = .sql q' ∧ d.fault = false ∧ q'.Revokes t := by
  rcases respond_db q d w with ⟨_, hdb⟩ | ⟨q', rfl, hf, hdb⟩
  · rw [hdb] at h
    rw [Store.refreshToken_eq h ht (Or.inl hid), hlive] at hrev
    cases hrev
  · rw [hdb] at h
    -- what has become of `t` has the identifier of `t'`
    obtain ⟨t₁, ht₁, hstep⟩ := (q'.refreshTokens_step _ _ _).evolves not_false t ht
    obtain rfl : t₁ = t' := Store.refreshToken_eq ht₁ h (Or.inl (hstep.later.id.trans hid.symm))
    rcases hstep.revoked hrev with hold | hstmt
    · rw [hlive] at hold
      cases hold
    · exact ⟨q', rfl, hf, hstmt⟩

/-- **A lock that a step lifts** belongs to the user whom one of two statements names. -/
theorem respond_unlocked {u u' : User} (hu : u ∈ w.db.users.rows) (hlock : u.lockedUntil ≠ none)
    (h : u' ∈ (respond q d w).2.db.users.rows) (hid : u'.id = u.id) (hopen : u'.lockedUntil = none) :
    d.fault = false ∧ (q = .sql (.resetLoginAttempts u.id) ∨ q = .sql (.unlockUserAccount u.id)) := by
  rcases respond_db q d w with ⟨_, hdb⟩ | ⟨q', rfl, hf, hdb⟩
  · rw [hdb] at h
    rw [Store.user_eq h hu hid] at hopen
    exact absurd hopen hlock
  · rw [hdb] at h
    obtain ⟨u₁, hu₁, hstep⟩ := (q'.users_step _ _ _).evolves not_false u hu
    obtain rfl : u₁ = u' := Store.user_eq hu₁ h (hstep.later.id.trans hid.symm)
    refine ⟨hf, ((hstep.unlocked hopen).resolve_left hlock).imp ?_ ?_⟩
    · exact fun hq => by rw [hq]
    · exact fun hq => by rw [hq]

/-- The administrator's statement finds the account, if there is one. -/
theorem respond_unlockUserAccount {u : User} (hu : u ∈ w.db.users.rows)
    (hf : d.fault = false) : ∃ u', (respond (.sql (.unlockUserAccount u.id)) d w).1 = .ok u' := by
  rw [respond_sql _ hf]
  cases hr : ((Query.unlockUserAccount u.id).exec (w.wait d.wait).now d.uuid w.db).1 with
  | ok u' => exact ⟨u', rfl⟩
  | error e =>
    have hnone : w.db.users.select (fun v => v.id == u.id) = none := by
      refine select_of_updateOne_error
        (f := fun v : User => { v with lockedUntil := none, updatedAt := (w.wait d.wait).now }) ?_ hr
      intro v
      rfl
    exact absurd (beq_self_eq_true u.id) (Table.select_eq_none.mp hnone u hu)

end GoauthServer
