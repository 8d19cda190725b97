import GoauthServer.Service.Deployment
import GoauthServer.Spec.Grants

/-!
# Token requests that fail

`ExchangeCodeForToken` and `RotateRefreshToken` write in up to four statements, and no transaction holds
them together. The first of these marks the grant that was presented, the code or the refresh token, as
used: it is the point of no return. A request that fails before it has only read. A request that fails
after it has spent its grant for nothing.

`failed_request_leaves_no_trace_iff` says so for every run of both calls, whatever fails:
the call has left no trace exactly if the statement that marks the grant was not executed.
`failed_rotation_spends_token` is a client who asks again after such a failure, and is taken for a thief.
-/

namespace GoauthServer

open Interact Relational

/-! ### Requests and traces -/

/-- A request to the token endpoint, with one of its two grants. -/
inductive TokenRequest where
  | exchange (code : String) (clientID : UUID) (clientSecret redirectURI : String)
  | rotate (rawToken clientID clientSecret : String)

/-- The service call that serves the request. -/
def TokenRequest.call (env : Env) : TokenRequest → Call (Except AuthError TokenResponse)
  | .exchange code clientID clientSecret redirectURI =>
    exchangeCodeForToken env code clientID clientSecret redirectURI
  | .rotate rawToken clientID clientSecret => rotateRefreshToken env rawToken clientID clientSecret

/-- The request has left no trace: the codes and the tokens are as they were, and to ask again gives the
answer that the first request would have got at that time. -/
structure NoTrace (env : Env) (req : TokenRequest) (w w' : World) : Prop where
  authorizationCodes : w'.db.authorizationCodes = w.db.authorizationCodes
  accessTokens : w'.db.accessTokens = w.db.accessTokens
  refreshTokens : w'.db.refreshTokens = w.db.refreshTokens
  again : ∀ ds, ((req.call env).run backend ds w').1 =
    ((req.call env).run backend ds ⟨w'.now, w.db⟩).1

/-- The statements that mark a grant as used. -/
def Request.marksGrant : Request → Bool
  | .sql (.markAuthorizationCodeUsed _) | .sql (.markRefreshTokenUsed _) => true
  | _ => false

/-- The statement of replay detection. -/
def Request.sweeps : Request → Bool
  | .sql (.revokeRefreshTokenFamily _ _) => true
  | _ => false

/-- No grant is marked as used: the statement, if the call comes to it, fails. -/
def GrantNotMarked (q : Request) (d : Draw) (_ : World) : Prop :=
  q.marksGrant = true → d.fault = true

/-- The call does not detect a replay. -/
def NoReplay (q : Request) (_ : Draw) (_ : World) : Prop := q.sweeps = false

instance (q : Request) (d : Draw) (w : World) : Decidable (GrantNotMarked q d w) :=
  inferInstanceAs (Decidable (_ → _))

instance (q : Request) (d : Draw) (w : World) : Decidable (NoReplay q d w) :=
  inferInstanceAs (Decidable (_ = _))

/-! ### The point of no return -/

/-- The call has marked its grant, or it has begun to revoke a family. -/
def committed (log : Log effects) : Bool :=
  redeemed log || marked log || log.any fun e => e.1.sweeps

/-- The requests of a call that reads, then commits, and only then writes. -/
def commitRequest : Request → Log effects → Prop
  | .sql (.markAuthorizationCodeUsed id), log =>
    ∃ c, readCode log = some c ∧ c.usedAt = none ∧ id = c.id
  | .sql (.markRefreshTokenUsed id), log =>
    ∃ t, readRecord log = some t ∧ t.isRevoked = false ∧ id = t.id
  | .sql .deleteExpiredAuthorizationCodes, _ | .sql (.deleteOAuthProvider _), _ => False
  | q, log => q.Reads ∨ q.sweeps = true ∨ committed log = true

def commitProtocol (α : Type) : Protocol effects α := ⟨commitRequest, fun _ _ => True⟩

theorem committed_cons {log : Log effects} (e : Event effects) (h : committed log = true) :
    committed (e :: log) = true := by
  unfold committed redeemed marked at h ⊢
  simp only [List.any_cons, Bool.or_eq_true] at h ⊢
  rcases h with (h | h) | h
  · exact Or.inl (Or.inl (Or.inr h))
  · exact Or.inl (Or.inr (Or.inr h))
  · exact Or.inr (Or.inr h)

/-- After the commit a call may do anything but mark. -/
theorem obeys_of_committed {α : Type} {p : Call α} {log : Log effects} (h : p.Only Request.Follows)
    (hlog : committed log = true) : p.Obeys (commitProtocol α) log := by
  refine h.obeys_of_stable (G := fun log => committed log = true)
    (fun q r log _ hlog => committed_cons _ hlog) ?_ (fun _ _ _ => trivial) hlog
  intro q log hq hlog
  cases q with
  | sql q =>
    cases q <;> first
      | exact Or.inr (Or.inr hlog)
      | exact absurd hq id
  | _ => exact Or.inl trivial

/-- **An exchange commits before it writes.** -/
theorem exchangeCodeForToken_commits (env : Env) (code : String) (clientID : UUID)
    (clientSecret redirectURI : String) :
    (exchangeCodeForToken env code clientID clientSecret redirectURI).Obeys (commitProtocol _) [] := by
  refine ⟨Or.inl rfl, ?_⟩
  rintro (e | client)
  · cases e <;> trivial
  dsimp only
  split
  · trivial
  split
  · trivial
  refine ⟨Or.inl rfl, ?_⟩
  rintro (e | authCode)
  · cases e <;> trivial
  dsimp only
  split
  · trivial
  split
  · trivial
  next hused =>
  refine ⟨Or.inl trivial, fun now => ?_⟩
  dsimp only
  split
  · trivial
  -- the code has passed the checks, and is marked
  refine ⟨⟨authCode, rfl, by simpa using hused, rfl⟩, ?_⟩
  rintro (e | _)
  · trivial
  refine obeys_of_committed ⟨trivial, ?_⟩ rfl
  rintro (e | user)
  · trivial
  refine (generateAccessToken_only trivial (fun _ => trivial) env _ _).bind ?_
  rintro (e | token)
  · trivial
  · exact (issueTokens_only ..).mono follows_of_issues

/-- **A rotation commits before it writes.** -/
theorem rotateRefreshToken_commits (env : Env) (rawToken clientID clientSecret : String) :
    (rotateRefreshToken env rawToken clientID clientSecret).Obeys (commitProtocol _) [] := by
  unfold rotateRefreshToken
  split
  · trivial
  refine ⟨Or.inl rfl, ?_⟩
  rintro (e | client)
  · cases e <;> trivial
  dsimp only
  split
  · trivial
  split
  · trivial
  refine ⟨Or.inl rfl, ?_⟩
  rintro (e | record)
  · cases e <;> trivial
  dsimp only
  unfold checkRecord
  split
  · -- a replay: the family is revoked
    refine ⟨Or.inr (Or.inl rfl), fun _ => obeys_of_committed ?_ (by simp [committed, Request.sweeps])⟩
    exact logEvent_only (fun _ => trivial) (logEvent_only (fun _ => trivial) trivial)
  next hlive =>
  refine ⟨Or.inl trivial, fun now => ?_⟩
  dsimp only
  split
  · trivial
  split
  · trivial
  -- the token has passed the checks, and is marked
  refine ⟨⟨record, rfl, by simpa using hlive, rfl⟩, ?_⟩
  rintro (e | _)
  · trivial
  refine obeys_of_committed ⟨trivial, ?_⟩ (by simp [committed, marked, Event.marks])
  rintro (e | user)
  · trivial
  refine (generateAccessToken_only trivial (fun _ => trivial) env _ _).bind ?_
  rintro (e | token)
  · trivial
  · exact (issueSuccessor_only ..).mono follows_of_issues

theorem TokenRequest.call_commits (env : Env) (req : TokenRequest) :
    (req.call env).Obeys (commitProtocol _) [] := by
  cases req with
  | exchange code clientID clientSecret redirectURI => exact exchangeCodeForToken_commits ..
  | rotate rawToken clientID clientSecret => exact rotateRefreshToken_commits ..

/-! ### Before and after it -/

/-- A call before its commit: the database is as it was, and what was looked up is in it. -/
structure Uncommitted (s : Store) (log : Log effects) (w : World) : Prop where
  db : w.db = s
  pending : committed log = false
  code : ∀ c, readCode log = some c → c ∈ s.authorizationCodes.rows
  record : ∀ t, readRecord log = some t → t ∈ s.refreshTokens.rows

/-- A grant of `s` that was not used is used now. -/
inductive Spent (s : Store) (w : World) : Prop
  | code (c c' : AuthorizationCode) (h : c ∈ s.authorizationCodes.rows) (hunused : c.usedAt = none)
    (h' : c' ∈ w.db.authorizationCodes.rows) (hid : c'.id = c.id) (hused : c'.usedAt.isSome = true)
  | token (t t' : RefreshToken) (h : t ∈ s.refreshTokens.rows) (hlive : t.isRevoked = false)
    (h' : t' ∈ w.db.refreshTokens.rows) (hid : t'.id = t.id) (hrev : t'.isRevoked = true)

/-- A step before the commit. -/
theorem committed_of_reads {q : Request} (hq : q.Reads) (r : q.Reply) (log : Log effects) :
    committed (⟨q, r⟩ :: log) = committed log := by
  cases q with
  | sql q => cases q <;> first | rfl | cases hq
  | _ => rfl

/-- A statement that failed commits nothing. -/
theorem committed_of_fault {q : Query} (hq : (Request.sql q).marksGrant = true) (log : Log effects) :
    committed (⟨.sql q, .error .fault⟩ :: log) = committed log := by
  cases q <;> first | rfl | cases hq

section Steps

variable {s : Store} {q : Request} {log : Log effects} {d : Draw} {w : World}

/-- The forms of a request before the commit. -/
theorem reads_or_marks (h : commitRequest q log) (hsweep : q.sweeps = false)
    (hlog : committed log = false) : q.Reads ∨ q.marksGrant = true := by
  cases q with
  | sql q =>
    cases q <;> first
      | exact Or.inr rfl
      | exact absurd h id
      | · rcases h with h | h | h
          · exact Or.inl h
          · rw [hsweep] at h
            cases h
          · rw [hlog] at h
            cases h
  | _ => exact Or.inl trivial

theorem Uncommitted.of_db (h : Uncommitted s log w) (hdb : (respond q d w).2.db = w.db)
    (hlog : committed (⟨q, (respond q d w).1⟩ :: log) = committed log) :
    Uncommitted s (⟨q, (respond q d w).1⟩ :: log) (respond q d w).2 where
  db := hdb.trans h.db
  pending := hlog.trans h.pending
  code c hc := by
    rcases readCode_respond hc with hc | ⟨_, _, hc, _⟩
    · exact h.code c hc
    · rwa [h.db] at hc
  record t ht := by
    rcases readRecord_respond ht with ht | ⟨_, _, ht, _⟩
    · exact h.record t ht
    · rwa [h.db] at ht

/-- Up to the commit nothing is written. -/
theorem Uncommitted.step (hq : commitRequest q log) (hsweep : NoReplay q d w)
    (hmark : GrantNotMarked q d w) (h : Uncommitted s log w) :
    Uncommitted s (⟨q, (respond q d w).1⟩ :: log) (respond q d w).2 := by
  rcases reads_or_marks hq hsweep h.pending with hreads | hmarks
  · exact h.of_db (respond_of_reads hreads d w) (committed_of_reads hreads _ _)
  · -- the statement that marks the grant fails
    have hfault := hmark hmarks
    cases q with
    | sql q =>
      have hr := respond_sql_fault (w := w) q hfault
      refine h.of_db ?_ ?_
      · rw [hr]
        rfl
      · rw [hr]
        exact committed_of_fault hmarks log
    | _ => cases hmarks

/-- The statement that marks the grant spends it. -/
theorem Uncommitted.spent (hq : commitRequest q log) (hmark : ¬ GrantNotMarked q d w)
    (h : Uncommitted s log w) : Spent s (respond q d w).2 := by
  obtain ⟨hmarks, hf⟩ := Classical.not_imp.mp hmark
  have hf : d.fault = false := by simpa using hf
  cases q with
  | sql q =>
    rw [respond_sql q hf]
    cases q with
    | markAuthorizationCodeUsed id =>
      obtain ⟨c, hread, hunused, rfl⟩ := hq
      have hc := h.code c hread
      have hc' := hc
      rw [← h.db] at hc'
      refine .code c { c with usedAt := some (w.wait d.wait).now } hc hunused ?_ rfl rfl
      have hmem := Table.mem_update (p := fun a => a.id == c.id)
        (f := fun a : AuthorizationCode => { a with usedAt := some (w.wait d.wait).now }) hc'
      rwa [if_pos (beq_self_eq_true c.id)] at hmem
    | markRefreshTokenUsed id =>
      obtain ⟨t, hread, hlive, rfl⟩ := hq
      have ht := h.record t hread
      have ht' := ht
      rw [← h.db] at ht'
      refine .token t (t.markUsed (w.wait d.wait).now) ht hlive ?_ rfl rfl
      have hmem := Table.mem_update (p := fun a => a.id == t.id)
        (f := RefreshToken.markUsed (w.wait d.wait).now) ht'
      rwa [if_pos (beq_self_eq_true t.id)] at hmem
    | _ => cases hmarks
  | _ => cases hmarks

/-- A grant that is spent stays so. -/
theorem Spent.step (hq : commitRequest q log) (h : Spent s w) : Spent s (respond q d w).2 := by
  cases h with
  | token t t' ht hlive ht' hid hrev =>
    obtain ⟨t'', ht'', hlater⟩ := respond_refreshTokens q d w t' ht'
    exact .token t t'' ht hlive ht'' (hlater.id.trans hid) (hlater.isRevoked hrev)
  | code c c' hc hunused hc' hid hused =>
    have hkeep : ∀ q', q = .sql q' → q'.deletesCodes = false := by
      rintro q' rfl
      cases q' <;> first | rfl | exact hq.elim
    obtain ⟨c'', hc'', hlater⟩ := respond_authorizationCodes (d := d) hkeep c' hc'
    exact .code c c'' hc hunused hc'' (hlater.id.trans hid) (hlater.usedAt hused)

/-- A spent grant is a trace. -/
theorem Spent.not_same (h : Spent s w) : ¬ (w.db.authorizationCodes = s.authorizationCodes ∧
    w.db.refreshTokens = s.refreshTokens) := by
  rintro ⟨hcodes, htokens⟩
  cases h with
  | code c c' hc hunused hc' hid hused =>
    rw [hcodes] at hc'
    have hsame : c' = c := Table.eq_of_clash hc' hc (by simp [Keyed.clash, Keyed.key, hid])
    rw [hsame, hunused] at hused
    cases hused
  | token t t' ht hlive ht' hid hrev =>
    rw [htokens] at ht'
    have hsame : t' = t := Table.eq_of_clash ht' ht (by simp [Keyed.clash, Keyed.key, hid])
    rw [hsame, hlive] at hrev
    cases hrev

end Steps

/-! ### Whole requests -/

/-- **When a token request leaves no trace.** A request that does not detect a replay leaves no trace
exactly if the statement that marks its grant as used was not executed. -/
theorem failed_request_leaves_no_trace_iff {env : Env} {req : TokenRequest} {ds : ℕ → Draw} {w : World}
    {e : AuthError} (_ : ((req.call env).run backend ds w).1 = .error e)
    (hreplay : (req.call env).Along backend NoReplay ds w) :
    NoTrace env req w ((req.call env).run backend ds w).2 ↔
      (req.call env).Along backend GrantNotMarked ds w := by
  have hstart : Uncommitted w.db [] w :=
    ⟨rfl, rfl, fun c h => (by cases h), fun t h => (by cases h)⟩
  rcases Prog.Obeys.run_until (K := Spent w.db) (fun q log d w hq => Uncommitted.step hq)
    (fun q log d w hq _ => Uncommitted.spent hq) (fun q log d w hq => Spent.step hq)
    (TokenRequest.call_commits env req) hreplay hstart with ⟨halong, log, hend⟩ | ⟨hnot, hspent⟩
  · -- the call has only read
    have hdb := hend.db
    refine iff_of_true ⟨by rw [hdb], by rw [hdb], by rw [hdb], fun ds' => ?_⟩ halong
    rw [← hdb]
  · refine iff_of_false (fun h => ?_) hnot
    exact hspent.not_same ⟨h.authorizationCodes, h.refreshTokens⟩

section Examples

open Deployment

/-- The rotation of `ann`'s refresh token. -/
def annRotation : TokenRequest := .rotate "old-refresh-token" appText "s3cret"

/-- The `n`-th step fails. -/
def failAt (n : ℕ) : ℕ → Draw := fun k => { draw 7 20 with fault := k == n }

/-- `MarkRefreshTokenUsed` fails. The rotation has left no trace, and succeeds when it is repeated. -/
theorem failed_request_leaves_no_trace_iff_ann :
    NoTrace env annRotation ⟨0, store⟩ ((annRotation.call env).run backend (failAt 3) ⟨0, store⟩).2 ∧
      ((annRotation.call env).run backend (fun _ => draw 7 20)
        ((annRotation.call env).run backend (failAt 3) ⟨0, store⟩).2).1.isOk = true := by
  have herr : ((annRotation.call env).run backend (failAt 3) ⟨0, store⟩).1 =
      .error (.ofDB "marking refresh token as used" .fault) := by decide +kernel
  refine ⟨(failed_request_leaves_no_trace_iff herr ?_).mpr ?_, ?_⟩
  · decide +kernel
  · decide +kernel
  · decide +kernel

/-- **A failed rotation spends the token.** `GetUserByID` fails. The token is marked as used, and the
request that is sent again is taken for a replay, which revokes the family. -/
theorem failed_rotation_spends_token :
    ((annRotation.call env).run backend (failAt 4) ⟨0, store⟩).1 =
        .error (.ofDB "getting user" .fault) ∧
      (annRotation.call env).Along backend NoReplay (failAt 4) ⟨0, store⟩ ∧
      ¬ NoTrace env annRotation ⟨0, store⟩
        ((annRotation.call env).run backend (failAt 4) ⟨0, store⟩).2 ∧
      ((annRotation.call env).run backend (fun _ => draw 7 20)
        ((annRotation.call env).run backend (failAt 4) ⟨0, store⟩).2).1 = .error .invalidGrant ∧
      ¬ (annRotation.call env).Along backend NoReplay (fun _ => draw 7 20)
        ((annRotation.call env).run backend (failAt 4) ⟨0, store⟩).2 := by
  refine ⟨by decide +kernel, by decide +kernel, fun h => ?_, by decide +kernel, by decide +kernel⟩
  have hkept : annRefreshToken ∈
      ((annRotation.call env).run backend (failAt 4) ⟨0, store⟩).2.db.refreshTokens.rows := by
    rw [h.refreshTokens]
    exact List.mem_singleton_self _
  revert hkept
  decide +kernel

end Examples

end GoauthServer
