import GoauthServer.Service.Deployment
import GoauthServer.Spec.Credentials

/-!
# Deactivated users

`UpdateUserStatus` sets `is_active`, and no issuing path reads it: a login, a change of password,
a callback, an exchange and a rotation load the row of the user and go on. A deactivated user with
a working credential still gets tokens (`deactivated_user_logs_in`).

What keeps a user from getting anything is that no request of the run finds a usable credential
of the user (`Operation.ShowsNone`). Then nothing is stored for the user and no token is handed
out, along the whole run and whether or not the user is active (`nothing_for_unshown`).
-/

namespace GoauthServer

open Interact Relational

/-- `s` has no code and no token of `userID` that `s₀` did not have. -/
structure Store.NothingNew (userID : UUID) (s₀ s : Store) : Prop where
  codes : ∀ c ∈ s.authorizationCodes.rows, c.userID = userID →
    ∃ c₀ ∈ s₀.authorizationCodes.rows, c₀.id = c.id
  access : ∀ a ∈ s.accessTokens.rows, a.userID = userID →
    ∃ a₀ ∈ s₀.accessTokens.rows, a₀.id = a.id
  refresh : ∀ t ∈ s.refreshTokens.rows, t.userID = userID →
    ∃ t₀ ∈ s₀.refreshTokens.rows, t₀.id = t.id

theorem Store.NothingNew.refl (userID : UUID) (s : Store) : s.NothingNew userID s :=
  ⟨fun c hc _ => ⟨c, hc, rfl⟩, fun a ha _ => ⟨a, ha, rfl⟩, fun t ht _ => ⟨t, ht, rfl⟩⟩

/-- A request that stores nothing for the user leaves nothing new. -/
theorem Store.NothingNew.respond {userID : UUID} {s₀ : Store} {w : World}
    (h : s₀.NothingNew userID w.db) (q : Request) (d : Draw) (hq : q.owner? ≠ some userID) :
    s₀.NothingNew userID (GoauthServer.respond q d w).2.db where
  codes c hc huser := by
    rcases respond_authorizationCode_origin hc with ⟨c₁, hc₁, hlater, _⟩ | ⟨p, rfl, rfl, _⟩
    · obtain ⟨c₀, hc₀, hid⟩ := h.codes c₁ hc₁ (hlater.userID.symm.trans huser)
      exact ⟨c₀, hc₀, hid.trans hlater.id.symm⟩
    · exact absurd (congrArg some huser) hq
  access a ha huser := by
    rcases respond_accessToken_origin ha with ⟨a₁, ha₁, hlater⟩ | ⟨p, rfl, rfl⟩
    · obtain ⟨a₀, ha₀, hid⟩ := h.access a₁ ha₁ (hlater.userID.symm.trans huser)
      exact ⟨a₀, ha₀, hid.trans hlater.id.symm⟩
    · exact absurd (congrArg some huser) hq
  refresh t ht huser := by
    rcases respond_refreshToken_origin ht with ⟨t₁, ht₁, hlater⟩ | ⟨p, rfl, rfl⟩
    · obtain ⟨t₀, ht₀, hid⟩ := h.refresh t₁ ht₁ (hlater.userID.symm.trans huser)
      exact ⟨t₀, ht₀, hid.trans hlater.id.symm⟩
    · exact absurd (congrArg some huser) hq

/-! ### One operation -/

/-- No request of the operation finds a usable credential of `userID`. -/
def Operation.ShowsNone (env : Env) (userID : UUID) (op : Operation) (ds : ℕ → Draw) (w : World) :
    Prop :=
  (op.call env).Along backend (fun q d w => op.shows env userID q d w = false) ds w

instance (env : Env) (userID : UUID) (op : Operation) (ds : ℕ → Draw) (w : World) :
    Decidable (op.ShowsNone env userID ds w) :=
  inferInstanceAs (Decidable ((op.call env).Along backend _ ds w))

/-- The operation stores nothing for `userID` and hands out no token, or one of another user. -/
structure Operation.IssuesNothing (env : Env) (userID : UUID) (op : Operation) (ds : ℕ → Draw)
    (w : World) : Prop where
  stored : w.db.NothingNew userID (op.run env ds w).2.db
  handedOut : (op.run env ds w).1.Empty ∨
    ∃ v, v ≠ userID ∧ (op.run env ds w).1.IssuesTo env v

/-- The user is there. -/
def Store.HasUser (s : Store) (userID : UUID) : Prop := ∃ u ∈ s.users.rows, u.id = userID

theorem Store.HasUser.respond {userID : UUID} {w : World} (h : w.db.HasUser userID) (q : Request)
    (d : Draw) : (GoauthServer.respond q d w).2.db.HasUser userID := by
  obtain ⟨u, hu, rfl⟩ := h
  obtain ⟨u', hu', hlater⟩ := respond_users q d w u hu
  exact ⟨u', hu', hlater.id⟩

/-- The state of an operation that was shown no credential of `userID`. -/
structure Unshown (env : Env) (userID : UUID) (op : Operation) (s₀ : Store) (log : Log effects)
    (w : World) : Prop where
  user : w.db.HasUser userID
  vetted : op.marks = true → Vetted log
  presented : ¬ op.Presented env log userID
  acts : ∀ u, op.actsFor log = some u → u.id ≠ userID
  stored : s₀.NothingNew userID w.db

section Unshown

variable {env : Env} {userID : UUID} {op : Operation} {s₀ : Store} {log : Log effects}
  {q : Request} {d : Draw} {w : World}

theorem Unshown.start (h : w.db.HasUser userID) : Unshown env userID op w.db [] w where
  user := h
  vetted _ := Vetted.nil
  presented hp := by
    cases op with
    | login =>
      obtain ⟨u, ⟨hread, _⟩, _⟩ := hp
      cases hread
    | changePasswordHandler =>
      obtain ⟨key, _, now, hnow, _⟩ := hp
      cases hnow
    | handleProviderCallback =>
      obtain ⟨u, hread, _⟩ := hp
      cases hread
    | exchangeCodeForToken =>
      obtain ⟨c, hread, _⟩ := hp
      cases hread
    | rotateRefreshToken =>
      obtain ⟨t, hread, _⟩ := hp
      cases hread
    | _ => exact hp
  acts u hu := by cases op <;> cases hu
  stored := Store.NothingNew.refl userID w.db

/-- **One request that shows no credential.** -/
theorem Unshown.step (h : Unshown env userID op s₀ log w) (hq : op.request env q log)
    (hshow : op.shows env userID q d w = false) :
    Unshown env userID op s₀ (⟨q, (respond q d w).1⟩ :: log) (respond q d w).2 where
  user := h.user.respond q d
  vetted := Operation.vetted_respond h.vetted hq
  presented hp := by
    rcases Operation.presented_respond hp with hp | hshow'
    · exact h.presented hp
    · rw [hshow] at hshow'
      cases hshow'
  acts u hu hid := by
    rcases Operation.actsFor_respond h.vetted hq hu with hu | hp | hnew
    · exact h.acts u hu hid
    · rw [hid] at hp
      exact h.presented hp
    · -- a new user has an identifier of its own
      obtain ⟨a, ha, haid⟩ := h.user
      exact hnew a ha (haid.trans hid.symm)
  stored := by
    refine h.stored.respond q d fun howner => ?_
    rcases Operation.owner_of_create hq howner with ⟨u, hu, hid⟩ | hp
    · exact h.acts u hu hid
    · exact h.presented hp

theorem Operation.issuesNothing (op : Operation) {ds : ℕ → Draw} (h : w.db.HasUser userID)
    (hshow : op.ShowsNone env userID ds w) :
    (op.run env ds w).2.db.HasUser userID ∧ op.IssuesNothing env userID ds w := by
  obtain ⟨log, hres, hend⟩ := (op.obeys env).run (B := backend)
    (J := Unshown env userID op w.db) (fun _ _ _ _ hq hC hJ => hJ.step hq hC) hshow (.start h)
  refine ⟨hend.user, hend.stored, ?_⟩
  rcases Operation.issuesTo_of_result hres with hempty | ⟨u, hu, hto⟩
  · exact Or.inl hempty
  · exact Or.inr ⟨u.id, hend.acts u hu, hto⟩

end Unshown

/-- **A user of whom no credential is shown gets nothing**, along every sequential run. -/
theorem nothing_for_unshown {env : Env} {userID : UUID} {w : World}
    (hu : w.db.HasUser userID) (ops : List (Operation × (ℕ → Draw)))
    (hshow : AlongRun env (Operation.ShowsNone env userID) ops w) :
    AlongRun env (Operation.IssuesNothing env userID) ops w :=
  (hshow.invariant (fun op _ _ hop hw => op.issuesNothing hw hop) hu).2

open Deployment (draw)

/-- The deployment after `ann` was deactivated. -/
def deactivatedStore : Store :=
  { Deployment.store with
    users := ⟨[{ Deployment.ann with isActive := false }], List.pairwise_singleton _ _⟩ }

/-- A login of the deactivated user with a wrong password, and a rotation of an unknown token. -/
theorem nothing_for_unshown_deactivated :
    AlongRun Deployment.env (Operation.IssuesNothing Deployment.env 2)
      [(.login "ann@example.com" "wrong" "10.0.0.1", fun _ => draw 7 20),
        (.rotateRefreshToken "no-such-token" Deployment.appText "s3cret", fun _ => draw 9 21)]
      ⟨0, deactivatedStore⟩ := by
  refine nothing_for_unshown (w := ⟨0, deactivatedStore⟩) ?_ _ ?_
  · exact ⟨_, List.mem_singleton_self _, rfl⟩
  · decide +kernel

/-- **A deactivated user logs in** with the right password: an access token is stored for the
user. -/
theorem deactivated_user_logs_in :
    (∀ u ∈ deactivatedStore.users.rows, u.id = 2 → u.isActive = false) ∧
      ¬ (Operation.login "ann@example.com" "correct horse" "10.0.0.1").IssuesNothing
        Deployment.env 2 (fun _ => draw 7 20) ⟨0, deactivatedStore⟩ := by
  refine ⟨by decide, fun h => ?_⟩
  have hnew : ∃ a ∈ ((Operation.login "ann@example.com" "correct horse" "10.0.0.1").run
      Deployment.env (fun _ => draw 7 20) ⟨0, deactivatedStore⟩).2.db.accessTokens.rows,
      a.userID = 2 := by
    decide +kernel
  obtain ⟨a, ha, huser⟩ := hnew
  obtain ⟨a₀, ha₀, _⟩ := h.stored.access a ha huser
  cases ha₀

end GoauthServer
