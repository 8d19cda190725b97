import GoauthServer.Safety.LockKept
import GoauthServer.Transport.Handlers

/-!
# Logins and the sessions of a user

`Login` revokes the access tokens of the user and stores a new one, in two statements. Sequential logins
leave one open session. Where two logins both revoke before either stores, both tokens stay open
(`two_sessions`).

`single_session_iff` counts the open sessions of a user after any interleaving of logins: they are the
tokens stored since the last `RevokeAccessTokensByUser`. So there is at most one if and only if at most one
token is stored after the last revocation.
-/

namespace GoauthServer

open Interact Relational

/-! ### Open sessions -/

/-- The access token has not been revoked. -/
def AccessToken.isOpen (t : AccessToken) : Bool := t.isRevoked != some true

/-- The number of open sessions of the user. -/
def Store.openSessions (s : Store) (userID : UUID) : ℕ :=
  s.accessTokens.rows.countP fun t => t.userID == userID && t.isOpen

section Statements

variable {userID : UUID} {d : Draw} {w : World}

theorem openSessions_congr {s s' : Store} (h : s'.accessTokens = s.accessTokens) :
    s'.openSessions userID = s.openSessions userID := by
  unfold Store.openSessions
  rw [h]

/-- Revocation leaves no open session of its user, and those of others alone. -/
theorem openSessions_revoke (id : UUID) (hf : d.fault = false) :
    (respond (.sql (.revokeAccessTokensByUser id)) d w).2.db.openSessions userID =
      if id = userID then 0 else w.db.openSessions userID := by
  rw [respond_sql _ hf]
  unfold Store.openSessions
  show List.countP _ (w.db.accessTokens.rows.map fun t => if t.userID == id then t.revoke else t) = _
  rw [List.countP_map]
  split
  · next hid =>
    rw [List.countP_eq_zero]
    intro t _
    by_cases ht : t.userID = id
    · simp [ht, AccessToken.revoke, AccessToken.isOpen]
    · have hne : ¬ t.userID = userID := fun h => ht (h.trans hid.symm)
      simp [ht, hne]
  · next hid =>
    refine List.countP_congr fun t _ => ?_
    by_cases ht : t.userID = id
    · have hne : ¬ id = userID := hid
      simp [ht, AccessToken.revoke, hne]
    · simp [ht]

/-- A token that is stored is an open session of its user. -/
theorem openSessions_create (p : CreateAccessTokenParams) :
    (respond (.sql (.createAccessToken p)) d w).2.db.openSessions userID = w.db.openSessions userID +
        if p.userID = userID ∧ (respond (.sql (.createAccessToken p)) d w).1.isOk = true then 1 else 0 := by
  rcases respond_createAccessToken d w p with ⟨e, hr, hdb⟩ | ⟨t, hins, hr, ht⟩
  · rw [hdb, hr, if_neg (fun h => by cases h.2)]
    rfl
  · rw [hr]
    unfold Store.openSessions
    rw [ht, (Table.insert_eq_some hins).1, List.countP_append]
    congr 1
    by_cases hp : p.userID = userID
    · have hnew : (p.row (w.wait d.wait).now d.uuid).isOpen = true := rfl
      rw [if_pos ⟨hp, rfl⟩, List.countP_singleton, hnew]
      simp [CreateAccessTokenParams.row, hp]
    · rw [if_neg (fun h => hp h.1), List.countP_singleton]
      simp [CreateAccessTokenParams.row, hp]

end Statements

/-! ### The requests of a login -/

/-- What a login may do to the access tokens: it revokes those of a user, and it stores one. -/
def loginSessionRequest : Request → Log effects → Prop
  | .sql (.revokeAccessTokensByUser _), _ | .sql (.createAccessToken _), _ => True
  | q, _ => ∀ d w, (respond q d w).2.db.accessTokens = w.db.accessTokens

def loginSessionProtocol : Protocol effects LoginReply := ⟨loginSessionRequest, fun _ _ => True⟩

section Protocol

variable {env : Env} {email password sourceIP : String} {log : Log effects}

/-- A statement that leaves the access tokens alone. -/
theorem accessTokens_of_exec {q : Query} {d : Draw} {w : World}
    (h : ∀ now fresh s, (q.exec now fresh s).2.accessTokens = s.accessTokens) :
    (respond (.sql q) d w).2.db.accessTokens = w.db.accessTokens := by
  rcases respond_db (.sql q) d w with ⟨_, hdb⟩ | ⟨q', hq', _, hdb⟩
  · rw [hdb]
  · cases hq'
    rw [hdb]
    exact h _ _ _

/-- Checking the credentials does not touch the access tokens. -/
theorem loginSessionRequest_of_attempt {q : Request} (h : attemptRequest env email q log) :
    loginSessionRequest q log := by
  cases q with
  | sql q =>
    cases q with
    | getUserByEmailForAuth | resetLoginAttempts | updateLastLogin | incrementFailedLoginAttempts
    | lockUserAccount | createAuditLogEntry =>
      exact fun d w => accessTokens_of_exec fun _ _ _ => rfl
    | _ => exact h.elim
  | now => exact fun _ _ => rfl
  | _ => exact h.elim

theorem loginAccessToken_session (user : User) :
    (loginAccessToken env user).Obeys loginSessionProtocol log := by
  refine Prog.Obeys.bind ⟨fun _ _ => rfl, fun now => ⟨fun _ _ => rfl, ?_⟩⟩
  rintro (_ | entropy)
  · trivial
  dsimp only
  split
  · trivial
  refine Prog.Obeys.bind ⟨trivial, ?_⟩
  rintro (e | _)
  · trivial
  refine Prog.Obeys.bind ⟨fun _ _ => rfl, fun now' => ⟨trivial, ?_⟩⟩
  rintro (e | _) <;> trivial

theorem loginChallenge_session (user : User) : (loginChallenge env user).Obeys loginSessionProtocol log := by
  refine Prog.Obeys.bind ?_
  unfold generateChallengeToken
  split
  · trivial
  · exact ⟨fun _ _ => rfl, fun _ => trivial⟩

theorem login_session (env : Env) (email password sourceIP : String) :
    (login env email password sourceIP).Obeys loginSessionProtocol [] := by
  unfold login
  split
  · trivial
  refine (verifyCredentials_attempt env email password sourceIP).andThen
    (fun _ _ h => loginSessionRequest_of_attempt h) fun r log _ => ?_
  split
  · trivial
  · trivial
  · trivial
  · split
    · exact loginChallenge_session _
    · exact loginAccessToken_session _

end Protocol

/-! ### Sessions since the last revocation -/

section Run

variable {ι : Type} {userID : UUID}

/-- The step executes `RevokeAccessTokensByUser` for the user. -/
def revokesSessions (userID : UUID) (c : Pool backend ι LoginReply) (i : ι) (d : Draw) : Bool :=
  match c.next? i with
  | some (.sql (.revokeAccessTokensByUser id)) => id == userID && !d.fault
  | _ => false

/-- The step stores an access token of the user. -/
def storesSession (userID : UUID) (c : Pool backend ι LoginReply) (i : ι) (d : Draw) : Bool :=
  match c.next? i with
  | some (.sql (.createAccessToken p)) =>
    p.userID == userID && (respond (.sql (.createAccessToken p)) d c.world).1.isOk
  | _ => false

/-- One step of the count. -/
def sessionStep (userID : UUID) (c : Pool backend ι LoginReply) (i : ι) (d : Draw) (n : ℕ) : ℕ :=
  if revokesSessions userID c i d then 0 else if storesSession userID c i d then n + 1 else n

variable [DecidableEq ι]

/-- The tokens of the user that are stored after the last revocation of the schedule; without a revocation,
the open sessions at the start are counted, too. -/
def storedSinceRevocation (userID : UUID) (c : Pool backend ι LoginReply) (schedule : List (ι × Draw)) : ℕ :=
  Pool.ghost (sessionStep userID) (c.world.db.openSessions userID) c schedule

/-- **One step.** -/
theorem openSessions_step {c : Pool backend ι LoginReply} {i : ι} {d : Draw} {q : Request}
    {k : q.Reply → Call LoginReply} (hi : (c.threads i).prog = .call q k)
    (hq : loginSessionRequest q (c.threads i).log) :
    (c.step i d).world.db.openSessions userID =
      sessionStep userID c i d (c.world.db.openSessions userID) := by
  have hnext := Pool.next?_of_call hi
  rw [step_world hi]
  unfold sessionStep revokesSessions storesSession
  rw [hnext]
  cases q with
  | sql q =>
    cases q with
    | revokeAccessTokensByUser id =>
      cases hf : d.fault with
      | true =>
        -- a statement that fails changes nothing
        rw [respond_sql_fault _ hf, if_neg (by simp), if_neg (by simp)]
        rfl
      | false =>
        rw [openSessions_revoke id hf]
        by_cases hid : id = userID
        · rw [if_pos hid, if_pos (by simp [hid])]
        · rw [if_neg hid, if_neg (by simp [hid]), if_neg (by simp)]
    | createAccessToken p =>
      show _ = if (p.userID == userID &&
        (respond (.sql (.createAccessToken p)) d c.world).1.isOk) = true then _ else _
      rw [openSessions_create p]
      by_cases hstored : p.userID = userID ∧ (respond (.sql (.createAccessToken p)) d c.world).1.isOk = true
      · rw [if_pos hstored, if_pos (by simp [hstored.1, hstored.2])]
      · rw [if_neg hstored, if_neg (by simpa using hstored)]
        rfl
    | _ => exact openSessions_congr (hq d c.world)
  | _ => exact openSessions_congr (hq d c.world)

/-- `Login` calls that are about to start. -/
def logins (env : Env) (email password sourceIP : ι → String) (w : World) : Pool backend ι LoginReply :=
  Pool.start (fun i => login env (email i) (password i) (sourceIP i)) w

/-- **Open sessions.** After any interleaving of logins a user has at most one open session if and only if
at most one token of the user was stored after the last revocation. -/
theorem single_session_iff (env : Env) (email password sourceIP : ι → String) (w : World) (userID : UUID)
    (schedule : List (ι × Draw)) :
    ((logins env email password sourceIP w).run schedule).world.db.openSessions userID ≤ 1 ↔
      storedSinceRevocation userID (logins env email password sourceIP w) schedule ≤ 1 := by
  have hcount : storedSinceRevocation userID (logins env email password sourceIP w) schedule =
      ((logins env email password sourceIP w).run schedule).world.db.openSessions userID := by
    refine Pool.ghost_invariant (P := fun _ => loginSessionProtocol)
      (I := fun n (c : Pool backend ι LoginReply) => n = c.world.db.openSessions userID) ?_ ?_
      (fun i => login_session env (email i) (password i) (sourceIP i)) rfl schedule
    · intro c i d n hdone
      unfold sessionStep revokesSessions storesSession
      rw [hdone]
      rfl
    · rintro n c i d q k hi hq rfl
      exact (openSessions_step hi hq).symm
  rw [hcount]

end Run

section Examples

open Deployment

/-- Two logins of `ann`. -/
def annLogins : Pool backend Bool LoginReply :=
  logins env (fun _ => "ann@example.com") (fun _ => "correct horse") (fun _ => "10.0.0.1") ⟨0, store⟩

/-- **The race.** Both logins revoke the tokens of `ann` before either stores its own: both succeed, and
both sessions are open. -/
theorem two_sessions :
    (annLogins.run (turns 7 true ++ turns 7 false ++ turns 2 true ++ turns 2 false)).result? true =
        some (.accessToken (annToken signatureA) 3600) ∧
      (annLogins.run (turns 7 true ++ turns 7 false ++ turns 2 true ++ turns 2 false)).result? false =
        some (.accessToken (annToken signatureB) 3600) ∧
      (annLogins.run (turns 7 true ++ turns 7 false ++ turns 2 true ++ turns 2 false)).world.db.openSessions 2 =
        2 := by
  decide +kernel

end Examples

end GoauthServer
