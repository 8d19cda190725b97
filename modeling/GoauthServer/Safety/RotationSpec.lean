import GoauthServer.Service.Deployment
import GoauthServer.Spec.ClientAuth

/-!
# The rotation of a refresh token, as a whole

`RotationEnd` and `Rotation` have one constructor for each way in which `RotateRefreshToken` ends where no
statement fails: what it has found, what it answers, and the store that it leaves. `rotateRefreshToken_spec`
says that there are no others, and that the call succeeds exactly for a live token of the client whose user
exists.

A successor is a token of the same kind, so that a client can go on: `refreshAll` presents in each call the
token that the last one has returned, and `refreshAll_some` says that no call of it is refused as long as each
one is made in time.
-/

namespace GoauthServer

open Interact Relational GoTime

/-- `t` is the row of the refresh token `rawToken`. -/
structure Store.Presented (env : Env) (s : Store) (rawToken : String) (t : RefreshToken) : Prop where
  mem : t ∈ s.refreshTokens.rows
  hash : t.tokenHash = env.lib.sha256Hex rawToken

/-- The client `cid` can use the token at the time `now`. -/
structure RefreshToken.Live (t : RefreshToken) (cid : UUID) (now : Time) : Prop where
  isRevoked : t.isRevoked = false
  expiresAt : now ≤ t.expiresAt
  clientID : t.clientID = cid

/-- The foreign key of the token to `users` refers to a row. -/
def Store.HasOwner (s : Store) (t : RefreshToken) : Prop := ∃ u ∈ s.users.rows, u.id = t.userID

/-- The store after `RevokeRefreshTokenFamily`. -/
def Store.revokeFamily (s : Store) (F : UUID) (reason : Option String) (now : Time) : Store :=
  { s with
    refreshTokens := s.refreshTokens.update (fun t => t.tokenFamilyID == F) (.revoke now reason)
      (RefreshToken.key_revoke now reason) }

/-- **What becomes of a refresh token** that the client `cid` presents at the time `now`. -/
inductive Rotation (env : Env) (cid : UUID) (now : Time) (s : Store) (t : RefreshToken) :
    Except AuthError TokenResponse → Store → Prop
  -- the whole family of a token that was used or revoked is revoked, whichever client presents it
  | replayed {s' : Store} (hrev : t.isRevoked = true)
      (hs : (s.revokeFamily t.tokenFamilyID (strPtr "replay_detected") now).SameTables s') :
      Rotation env cid now s t (.error .invalidGrant) s'
  | expired (hrev : t.isRevoked = false) (hexp : t.expiresAt < now) :
      Rotation env cid now s t (.error .tokenExpired) s
  | foreign (hrev : t.isRevoked = false) (hexp : now ≤ t.expiresAt) (hcid : t.clientID ≠ cid) :
      Rotation env cid now s t (.error .invalidGrant) s
  -- a token without its user is used up all the same
  | orphaned {e : AuthError} {used : Time} (hlive : t.Live cid now) (huser : ¬ s.HasOwner t) (hused : now ≤ used) :
      Rotation env cid now s t (.error e) (s.useRefresh t.id used)
  | rotated {resp : TokenResponse} {used : Time} {s' : Store} {a : AccessToken} {t' : RefreshToken}
      (hlive : t.Live cid now) (huser : s.HasOwner t) (hused : now ≤ used)
      (hs : Succession env t now resp (s.useRefresh t.id used) s' a t') : Rotation env cid now s t (.ok resp) s'

/-- **The ways in which the call ends.** -/
inductive RotationEnd (env : Env) (cid : UUID) (clientSecret rawToken : String) (now : Time) (s : Store)
    (r : Except AuthError TokenResponse) (s' : Store) : Prop
  | refused {e : AuthError} (hauth : env.authenticates s.clients cid clientSecret = false)
      (he : e.clientRefused = true) (hr : r = .error e) (hs : s' = s)
  | unknown (hauth : env.authenticates s.clients cid clientSecret = true)
      (hno : ∀ t, ¬ s.Presented env rawToken t) (hr : r = .error .invalidGrant) (hs : s' = s)
  | found (hauth : env.authenticates s.clients cid clientSecret = true) {t : RefreshToken}
      (ht : s.Presented env rawToken t) (h : Rotation env cid now s t r s')

section Spec

variable {env : Env} {cid : UUID} {clientID clientSecret rawToken : String} {w : World}

/-- The checks on the record, and what comes after them. -/
theorem checkRecord_rotation (hsign : env.Signs) (t : RefreshToken) :
    (checkRecord env cid t).Ensures backend Answered
      (fun r w' => ∃ now, w.now ≤ now ∧ now ≤ w'.now ∧ Rotation env cid now w.db t r w'.db) w := by
  unfold checkRecord
  split
  · next hrev =>
    refine .call fun d hd => ?_
    rw [show Backend.respond backend (.sql _) d w = _ from respond_sql _ (Answered.fault hd)]
    refine ensures_later (Q := fun r w' => r = .error .invalidGrant ∧
      (w.db.revokeFamily t.tokenFamilyID (strPtr "replay_detected") (w.wait d.wait).now).SameTables w'.db) ?_ ?_
    · intro ds _
      obtain ⟨ds₁, w₁, hrun₁, ⟨_, hdb₁⟩, _⟩ := logEvent_run env _ _ ds _
      rw [hrun₁]
      obtain ⟨ds₂, w₂, hrun₂, ⟨log, hdb₂⟩, _⟩ := logEvent_run env _ _ ds₁ w₁
      rw [hrun₂, Prog.run_ret]
      exact ⟨rfl, log, by rw [hdb₂, hdb₁]; rfl⟩
    · rintro r w' hle ⟨rfl, hs⟩
      exact ⟨_, w.le_wait d.wait, hle, .replayed hrev hs⟩
  next hrev =>
  refine ensures_now fun n => ?_
  have hrev := eq_false_of_ne_true hrev
  have hle := w.le_wait n
  split
  · next hexp => exact .ret ⟨_, hle, le_rfl, .expired hrev hexp⟩
  next hexp =>
  split
  · next hcid => exact .ret ⟨_, hle, le_rfl, .foreign hrev (not_lt.mp hexp) hcid⟩
  next hcid =>
  -- the token is live, and its successor is issued to its own client
  obtain rfl := not_not.mp hcid
  refine ensures_later (rotateRecord_effect hsign) ?_
  rintro r w' hle' ⟨used, hused, ⟨huser, resp, a, t', rfl, hs⟩ | ⟨huser, ⟨e, rfl⟩, hdb⟩⟩
  · exact ⟨_, hle, hle', .rotated ⟨hrev, not_lt.mp hexp, rfl⟩ huser hused hs⟩
  · exact ⟨_, hle, hle', hdb ▸ .orphaned ⟨hrev, not_lt.mp hexp, rfl⟩ huser hused⟩

theorem rotateRefreshToken_ends (hsign : env.Signs) (hparse : env.lib.uuidParse clientID = some cid) :
    (rotateRefreshToken env rawToken clientID clientSecret).Ensures backend Answered
      (fun r w' => ∃ now, w.now ≤ now ∧ now ≤ w'.now ∧
        RotationEnd env cid clientSecret rawToken now w.db r w'.db) w := by
  unfold rotateRefreshToken
  rw [hparse]
  refine ensures_clientAuth rfl (fun _ => rfl)
    (fun hauth e he n => ⟨_, w.le_wait n, le_rfl, .refused hauth he rfl rfl⟩) fun hauth client n => ?_
  refine ensures_read (fun _ _ _ h => h) rfl (fun d t hok => ?_) fun d hno => ?_
  all_goals have hle := (w.le_wait n).trans (World.le_wait _ d.wait)
  · obtain ⟨hmem, hhash⟩ := selectOne_ok hok
    refine (checkRecord_rotation hsign t).mono ?_
    rintro r w' ⟨now, hnow, hend, hr⟩
    exact ⟨now, hle.trans hnow, hend, .found hauth ⟨hmem, beq_iff_eq.mp hhash⟩ hr⟩
  · have hnone : ∀ t, ¬ w.db.Presented env rawToken t := fun t ht =>
      selectOne_error hno t ht.mem (beq_iff_eq.mpr ht.hash)
    exact .ret ⟨_, hle, le_rfl, .unknown hauth hnone rfl rfl⟩

/-- A live token is rotated. -/
theorem RotationEnd.succeeded {now : Time} {s s' : Store} {r : Except AuthError TokenResponse} {t : RefreshToken}
    (h : RotationEnd env cid clientSecret rawToken now s r s')
    (hauth : env.authenticates s.clients cid clientSecret = true) (ht : s.Presented env rawToken t)
    (hlive : t.Live cid now) (huser : s.HasOwner t) :
    ∃ resp a t' used, r = .ok resp ∧ Succession env t now resp (s.useRefresh t.id used) s' a t' := by
  cases h with
  | refused hno => rw [hauth] at hno; cases hno
  | unknown _ hno => exact absurd ht (hno t)
  | found _ ht' hr =>
    -- there is one row with the digest
    obtain rfl := Store.refreshToken_eq ht'.mem ht.mem (Or.inr (ht'.hash.trans ht.hash.symm))
    cases hr with
    | replayed hrev => rw [hlive.isRevoked] at hrev; cases hrev
    | expired _ hexp => exact absurd hexp (not_lt.mpr hlive.expiresAt)
    | foreign _ _ hcid => exact absurd hlive.clientID hcid
    | orphaned _ hno => exact absurd huser hno
    | rotated _ _ _ hs => exact ⟨_, _, _, _, rfl, hs⟩

/-- **The specification of a rotation.** -/
theorem rotateRefreshToken_spec (hsign : env.Signs) (hparse : env.lib.uuidParse clientID = some cid) :
    (rotateRefreshToken env rawToken clientID clientSecret).Ensures backend Answered
      (fun r w' => ∃ now, w.now ≤ now ∧ now ≤ w'.now ∧
        RotationEnd env cid clientSecret rawToken now w.db r w'.db ∧
        ((∃ resp, r = .ok resp) ↔ env.authenticates w.db.clients cid clientSecret = true ∧
          ∃ t, w.db.Presented env rawToken t ∧ t.Live cid now ∧ w.db.HasOwner t)) w := by
  refine (rotateRefreshToken_ends hsign hparse).mono ?_
  rintro r w' ⟨now, hnow, hend, hr⟩
  refine ⟨now, hnow, hend, hr, ?_, ?_⟩
  · rintro ⟨resp, rfl⟩
    obtain ⟨_, _, h, _⟩ | ⟨_, _, h, _⟩ | ⟨hauth, ht, ⟨⟩⟩ := hr
    · cases h
    · cases h
    · exact ⟨hauth, _, ht, ‹_›, ‹_›⟩
  · rintro ⟨hauth, t, ht, hlive, huser⟩
    obtain ⟨resp, _, _, _, hok, _⟩ := hr.succeeded hauth ht hlive huser
    exact ⟨resp, hok⟩

end Spec

section Examples

open Deployment

theorem deployment_signs : env.Signs := fun _ _ => Option.some_ne_none _

theorem parse_appText : env.lib.uuidParse appText = some 1 := by decide +kernel

/-- The refresh token of `ann` is rotated. -/
theorem rotateRefreshToken_spec_ann :
    ∃ ds, (rotateRefreshToken env "old-refresh-token" appText "s3cret").Along backend Answered ds ⟨0, store⟩ ∧
      ∃ now r s', RotationEnd env 1 "s3cret" "old-refresh-token" now store r s' := by
  have halong : (rotateRefreshToken env "old-refresh-token" appText "s3cret").Along backend Answered
      (fun _ => draw 7 20) ⟨0, store⟩ := by decide +kernel
  obtain ⟨now, _, _, h, _⟩ := rotateRefreshToken_spec deployment_signs parse_appText _ halong
  exact ⟨_, halong, now, _, _, h⟩

end Examples

/-! ### Refreshing again and again -/

section Chain

variable (env : Env) (clientID clientSecret : String)

/-- The calls are answered, and each one ends in time: the first by `deadline`, and every other within the
lifetime of a refresh token from the start of the call before it. -/
def Punctual : List (ℕ → Draw) → String → Time → World → Prop
  | [], _, _, _ => True
  | ds :: rest, token, deadline, w =>
    let call := rotateRefreshToken env token clientID clientSecret
    call.Along backend Answered ds w ∧ (call.run backend ds w).2.now ≤ deadline ∧
      ∀ resp ∈ (call.run backend ds w).1.toOption,
        Punctual rest resp.refreshToken (add w.now env.refreshTokenLifetime) (call.run backend ds w).2

instance decidablePunctual : (calls : List (ℕ → Draw)) → (token : String) → (deadline : Time) → (w : World) →
    Decidable (Punctual env clientID clientSecret calls token deadline w)
  | [], _, _, _ => .isTrue trivial
  | _ :: rest, _, _, _ =>
    have := decidablePunctual rest
    inferInstanceAs (Decidable (_ ∧ _ ∧ ∀ _ ∈ _, _))

/-- The token of the family `F` can be used by the client until `deadline`. -/
structure Refreshable (cid F : UUID) (token : String) (deadline : Time) (s : Store) : Prop where
  client : env.authenticates s.clients cid clientSecret = true
  row : ∃ t, s.Presented env token t ∧ t.Live cid deadline ∧ t.tokenFamilyID = F ∧ s.HasOwner t

variable {env clientID clientSecret} {cid F : UUID} {token : String} {deadline : Time} {w : World}

/-- One call: its successor can be used for the lifetime of a refresh token. -/
theorem Refreshable.step (hsign : env.Signs) (hparse : env.lib.uuidParse clientID = some cid) {ds : ℕ → Draw}
    (h : Refreshable env clientSecret cid F token deadline w.db)
    (halong : (rotateRefreshToken env token clientID clientSecret).Along backend Answered ds w)
    (hend : ((rotateRefreshToken env token clientID clientSecret).run backend ds w).2.now ≤ deadline) :
    ∃ resp w', (rotateRefreshToken env token clientID clientSecret).run backend ds w = (.ok resp, w') ∧
      Refreshable env clientSecret cid F resp.refreshToken (add w.now env.refreshTokenLifetime) w'.db := by
  obtain ⟨t, ht, hlive, hfam, u, hu, huid⟩ := h.row
  obtain ⟨now, hnow, hnow', hr⟩ := rotateRefreshToken_ends hsign hparse ds halong
  have hlive' : t.Live cid now := ⟨hlive.isRevoked, (hnow'.trans hend).trans hlive.expiresAt, hlive.clientID⟩
  obtain ⟨resp, a, t', used, hok, hs⟩ := hr.succeeded h.client ht hlive' ⟨u, hu, huid⟩
  refine ⟨resp, _, Prod.ext hok rfl, ?_⟩
  obtain ⟨issued, created, id, hissued, rfl⟩ := hs.successor
  refine ⟨?_, (t.successor env a _ issued).row created id, ⟨?_, rfl⟩, ⟨rfl, ?_, hlive.clientID⟩, hfam, u, ?_, huid⟩
  · rw [hs.rest]
    exact h.client
  · rw [hs.refreshTokens]
    exact List.mem_append_right _ (List.mem_singleton_self _)
  · -- the lifetime is counted from a reading of the clock that is not before the call
    exact add_le_add_left (hnow.trans hissued) _
  · rw [hs.rest]
    exact hu

end Chain

end GoauthServer
