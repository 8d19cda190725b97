import GoauthServer.Framework.Hoare
import GoauthServer.Repository.Evolution
import GoauthServer.Service.Authorization

/-!
# Runs without faults

What an exchange or a rotation comes to where the surroundings do their part: every statement is answered
with a row or with `ErrNoRows`, and the source of randomness does not fail (`Answered`). From the point where
the checks have passed, only a missing user makes such a run fail (`rotateRecord_effect`): an insert does not
answer `ErrNoRows`.
-/

namespace GoauthServer

open Interact Relational GoTime

/-- The request is answered: a statement with a row or with no row, and random bytes with bytes. -/
def Answered (q : Request) (d : Draw) (w : World) : Prop :=
  match q with
  | .sql q => ∀ e, (respond (.sql q) d w).1 = .error e → e = .noRows
  | .randBytes _ => d.fault = false
  | _ => True

instance (q : Request) (d : Draw) (w : World) : Decidable (Answered q d w) :=
  match q with
  | .sql q =>
    match h : (respond (.sql q) d w).1 with
    | .ok r => .isTrue fun e he => by rw [h] at he; cases he
    | .error e =>
      if he : e = .noRows then
        .isTrue fun e' he' => by rw [h] at he'; rw [← Except.error.inj he', he]
      else .isFalse fun hall => he (hall e h)
  | .randBytes _ => inferInstanceAs (Decidable (d.fault = false))
  | .now | .newUUID | .exchangeCode _ _ _ | .getUserInfo _ _ => .isTrue trivial

section Rules

variable {α : Type} {Q : α → World → Prop} {d : Draw} {w : World} {q : Query} {entry : AuditEntry}

/-- A statement that is answered is executed. -/
theorem Answered.fault (h : Answered (.sql q) d w) : d.fault = false := by
  by_contra hf
  rw [Bool.not_eq_false] at hf
  have heq : (respond (.sql q) d w).1 = .error .fault := by rw [respond_sql_fault q hf]
  cases h .fault heq

theorem Answered.exec {q : Query} (h : Answered (.sql q) d w) (e : DBError)
    (he : (q.exec (w.wait d.wait).now d.uuid w.db).1 = .error e) : e = .noRows :=
  h e (by rw [respond_sql q h.fault]; exact he)

variable {C : (q : Request) → Draw → World → Prop}

/-- **A statement that reads.** Only time passes. -/
theorem ensures_read (hC : ∀ q d w, C q d w → Answered q d w) (hq : q.reads = true)
    {k : Except DBError q.Row → Call α}
    (hok : ∀ (d : Draw) r, (q.exec (w.wait d.wait).now d.uuid w.db).1 = .ok r →
      (k (.ok r)).Ensures backend C Q (w.wait d.wait))
    (hno : ∀ d : Draw, (q.exec (w.wait d.wait).now d.uuid w.db).1 = .error .noRows →
      (k (.error .noRows)).Ensures backend C Q (w.wait d.wait)) :
    (Call.sql q k).Ensures backend C Q w := by
  refine .call fun d hd => ?_
  have hanswered := hC _ _ _ hd
  show (k (respond (.sql q) d w).1).Ensures backend C Q (respond (.sql q) d w).2
  rw [respond_reads_world (q := .sql q) hq]
  rw [respond_sql q hanswered.fault]
  cases hr : (q.exec (w.wait d.wait).now d.uuid w.db).1 with
  | ok r => exact hok d r hr
  | error e =>
    obtain rfl := hanswered.exec e hr
    exact hno d hr

/-- **A statement** fails before it does anything, or it is executed. -/
theorem ensures_exec {q : Query} {k : Except DBError q.Row → Call α}
    (hfault : ∀ n : ℕ, (k (.error .fault)).Ensures backend C Q (w.wait n))
    (hexec : ∀ d : Draw, ∃ r db, q.exec (w.wait d.wait).now d.uuid w.db = (r, db) ∧
      (k r).Ensures backend C Q ⟨(w.wait d.wait).now, db⟩) :
    (Call.sql q k).Ensures backend C Q w := by
  refine .call fun d _ => ?_
  show (k (respond (.sql q) d w).1).Ensures backend C Q (respond (.sql q) d w).2
  cases hf : d.fault with
  | true =>
    rw [respond_sql_fault q hf]
    exact hfault d.wait
  | false =>
    obtain ⟨r, db, hr, hk⟩ := hexec d
    rw [respond_sql q hf, hr]
    exact hk

/-- A postcondition, with the time that has passed. -/
theorem ensures_later {p : Call α} {Q' : α → World → Prop} (h : p.Ensures backend C Q w)
    (hQ : ∀ a w', w.now ≤ w'.now → Q a w' → Q' a w') : p.Ensures backend C Q' w :=
  fun ds halong => hQ _ _ (le_now_prog p ds w) (h ds halong)

theorem ensures_now {k : Time → Call α} (h : ∀ n : ℕ, (k (w.wait n).now).Ensures backend C Q (w.wait n)) :
    (Call.now k).Ensures backend C Q w :=
  .call fun d _ => h d.wait

/-- Random bytes are given. -/
theorem ensures_randBytes (hC : ∀ q d w, C q d w → Answered q d w) {n : ℕ} {k : Option Base64.Bytes → Call α}
    (h : ∀ (bytes : Base64.Bytes) (m : ℕ), (k (some bytes)).Ensures backend C Q (w.wait m)) :
    (Call.randBytes n k).Ensures backend C Q w := by
  refine .call fun d hd => ?_
  have hr : (respond (.randBytes n) d w).1 = some ((List.range n).map d.bytes) :=
    if_neg (ne_true_of_eq_false (hC _ _ _ hd))
  show (k (respond (.randBytes n) d w).1).Ensures backend C Q (w.wait d.wait)
  rw [hr]
  exact h _ _

/-- An audit event at the end of a call. -/
theorem ensures_logEvent_ret {env : Env} {x : α} (h : ∀ w', w.db.SameTables w'.db → Q x w') :
    (env.logEvent entry (.ret x)).Ensures backend C Q w := by
  intro ds _
  obtain ⟨_, w', hrun, hsame, _⟩ := logEvent_run env entry (.ret x) ds w
  rw [hrun]
  exact h w' hsame

end Rules

/-! ### Signing and inserting -/

/-- ES256 signing under the key of the server does not fail. -/
def Env.Signs (env : Env) : Prop := ∀ message entropy, env.lib.ecdsaSign message entropy ≠ none

section Effects

variable {C : (q : Request) → Draw → World → Prop} (hC : ∀ q d w, C q d w → Answered q d w) {env : Env}
  {d : Draw} {w : World}

include hC

/-- A token is signed, and nothing changes. -/
theorem generateAccessToken_effect (hsign : env.Signs) (userID email : String) :
    (generateAccessToken env userID email).Ensures backend C
      (fun r w' => (∃ tokenString, r = .ok tokenString) ∧ w'.db = w.db) w := by
  refine ensures_now fun n => ensures_randBytes hC fun entropy m => ?_
  dsimp only
  split
  · next hnone => exact absurd hnone (hsign _ _)
  · exact .ret ⟨⟨_, rfl⟩, rfl⟩

/-- A user is looked up: there is one, or there is none. -/
theorem ensures_getUserByID {α : Type} {id : UUID} {k : Except DBError User → Call α} {Q : α → World → Prop}
    (hok : ∀ u ∈ w.db.users.rows, u.id = id → ∀ n : ℕ, (k (.ok u)).Ensures backend C Q (w.wait n))
    (hno : (¬ ∃ u ∈ w.db.users.rows, u.id = id) → ∀ n : ℕ,
      (k (.error .noRows)).Ensures backend C Q (w.wait n)) :
    (Call.sql (.getUserByID id) k).Ensures backend C Q w := by
  refine ensures_read hC rfl (fun d u hu => ?_) fun d hnone => hno ?_ d.wait
  · obtain ⟨hmem, hid⟩ := selectOne_ok hu
    exact hok u hmem (beq_iff_eq.mp hid) d.wait
  · rintro ⟨u, hu, hid⟩
    exact selectOne_error hnone u hu (beq_iff_eq.mpr hid)

omit hC

/-- An insert that is answered appends its row. -/
theorem insertOne_answered {ρ : Type} [Keyed ρ] {t : Table ρ} {fk : Bool} {r : ρ}
    (h : ∀ e, (insertOne t fk r).1 = .error e → e = .noRows) :
    ∃ t', t'.rows = t.rows ++ [r] ∧ insertOne t fk r = (.ok r, t') := by
  rcases insertOne_cases t fk r with ⟨e, hins⟩ | ⟨t', hins, hr⟩
  · obtain rfl := h e (congrArg Prod.fst hins)
    exact absurd (congrArg Prod.fst hins) (insertOne_ne_noRows t fk r)
  · exact ⟨t', (Table.insert_eq_some hins).1, hr⟩

theorem respond_createRefreshToken_answered {p : CreateRefreshTokenParams}
    (h : Answered (.sql (.createRefreshToken p)) d w) :
    ∃ t, t.rows = w.db.refreshTokens.rows ++ [p.row (w.wait d.wait).now d.uuid] ∧
      respond (.sql (.createRefreshToken p)) d w = (.ok (p.row (w.wait d.wait).now d.uuid),
        ⟨(w.wait d.wait).now, { w.db with refreshTokens := t }⟩) := by
  rw [respond_sql _ h.fault]
  obtain ⟨t, hrows, hins⟩ := insertOne_answered h.exec
  exact ⟨t, hrows, by simp only [Query.exec, hins]⟩

theorem respond_createAccessToken_answered {p : CreateAccessTokenParams}
    (h : Answered (.sql (.createAccessToken p)) d w) :
    ∃ t, t.rows = w.db.accessTokens.rows ++ [p.row (w.wait d.wait).now d.uuid] ∧
      respond (.sql (.createAccessToken p)) d w = (.ok (p.row (w.wait d.wait).now d.uuid),
        ⟨(w.wait d.wait).now, { w.db with accessTokens := t }⟩) := by
  rw [respond_sql _ h.fault]
  obtain ⟨t, hrows, hins⟩ := insertOne_answered h.exec
  exact ⟨t, hrows, by simp only [Query.exec, hins]⟩

end Effects

/-- The errors of the checks on a code. -/
theorem checkCode_error {authCode : AuthorizationCode} {clientID : UUID} {redirectURI : String} {now : Time}
    {e : AuthError} (h : checkCode authCode clientID redirectURI now = some e) :
    e = .codeExpired ∨ e = .codeClientMismatch ∨ e = .codeRedirectMismatch := by
  unfold checkCode at h
  split at h
  · exact Or.inl (Option.some.inj h).symm
  split at h
  · exact Or.inr (Or.inl (Option.some.inj h).symm)
  split at h
  · exact Or.inr (Or.inr (Option.some.inj h).symm)
  · cases h

/-! ### The successor of a refresh token -/

/-- The store after `MarkRefreshTokenUsed`. -/
def Store.useRefresh (s : Store) (id : UUID) (now : Time) : Store :=
  { s with
    refreshTokens := s.refreshTokens.update (fun t => t.id == id) (.markUsed now) (RefreshToken.key_markUsed now) }

/-- The access token that a rotation of `t` issues. -/
def RefreshToken.access (env : Env) (t : RefreshToken) (token : String) (now : Time) : CreateAccessTokenParams :=
  { tokenHash := env.lib.sha256Hex token, clientID := some t.clientID, userID := t.userID
    scope := strPtr t.scope, expiresAt := add now env.expiry }

/-- The refresh token that takes the place of `t`. -/
def RefreshToken.successor (env : Env) (t : RefreshToken) (a : AccessToken) (token : String) (now : Time) :
    CreateRefreshTokenParams :=
  { tokenHash := env.lib.sha256Hex token, tokenFamilyID := t.tokenFamilyID, clientID := t.clientID
    userID := t.userID, accessTokenID := a.id, previousTokenID := some t.id, scope := t.scope
    expiresAt := add now env.refreshTokenLifetime }

/-- **What is stored for the response** to a rotation of `t`, at times not before `since`. -/
structure Succession (env : Env) (t : RefreshToken) (since : Time) (resp : TokenResponse) (s s' : Store)
    (a : AccessToken) (t' : RefreshToken) : Prop where
  accessTokens : s'.accessTokens.rows = s.accessTokens.rows ++ [a]
  refreshTokens : s'.refreshTokens.rows = s.refreshTokens.rows ++ [t']
  rest : s' = { s with
    accessTokens := s'.accessTokens, refreshTokens := s'.refreshTokens, auditLog := s'.auditLog }
  access : ∃ now created id, since ≤ now ∧ a = (t.access env resp.accessToken now).row created id
  successor : ∃ now created id, since ≤ now ∧ t' = (t.successor env a resp.refreshToken now).row created id

section Rotation

variable {env : Env} {t : RefreshToken}

theorem issueSuccessor_effect {user : User} (huser : user.id = t.userID) (tokenString : String) {w : World}
    {since : Time} (hsince : since ≤ w.now) :
    (issueSuccessor env t.clientID t user tokenString).Ensures backend Answered
      (fun r w' => ∃ resp a t', r = .ok resp ∧ Succession env t since resp w.db w'.db a t') w := by
  unfold issueSuccessor
  rw [huser]
  refine ensures_now fun n => .call fun d hd => ?_
  obtain ⟨accesses, haccess, hresp⟩ := respond_createAccessToken_answered hd
  rw [show Backend.respond backend (.sql _) d _ = _ from hresp]
  refine ensures_randBytes (fun _ _ _ h => h) fun bytes m => ensures_now fun l => .call fun e he => ?_
  obtain ⟨refreshes, hrefresh, hresp'⟩ := respond_createRefreshToken_answered he
  rw [show Backend.respond backend (.sql _) e _ = _ from hresp']
  refine ensures_logEvent_ret fun w' hsame => ?_
  obtain ⟨log, hlog⟩ := hsame
  have hfirst := hsince.trans (w.le_wait n)
  have hsecond := hfirst.trans (((w.wait n).le_wait d.wait).trans (World.le_wait _ m))
  exact ⟨_, _, _, rfl, by rw [hlog]; exact haccess, by rw [hlog]; exact hrefresh, by rw [hlog]; rfl,
    ⟨_, _, _, hfirst, rfl⟩, _, _, _, hsecond.trans (World.le_wait _ l), rfl⟩

/-- **A refresh token that passed the checks** is used up, and succeeded by another unless the user is missing. -/
theorem rotateRecord_effect (hsign : env.Signs) {w : World} :
    (rotateRecord env t.clientID t).Ensures backend Answered (fun r w' => ∃ now, w.now ≤ now ∧
      (((∃ u ∈ w.db.users.rows, u.id = t.userID) ∧ ∃ resp a t', r = .ok resp ∧
          Succession env t w.now resp (w.db.useRefresh t.id now) w'.db a t') ∨
        (¬ ∃ u ∈ w.db.users.rows, u.id = t.userID) ∧ (∃ e, r = .error e) ∧ w'.db = w.db.useRefresh t.id now)) w := by
  unfold rotateRecord
  refine .call fun d hd => ?_
  rw [show Backend.respond backend (.sql _) d w = _ from respond_sql _ (Answered.fault hd)]
  have hle := w.le_wait d.wait
  refine ensures_getUserByID (fun _ _ _ h => h) (fun u hu hid n => .bind ?_) fun hnone _ =>
    .ret ⟨_, hle, Or.inr ⟨hnone, ⟨_, rfl⟩, rfl⟩⟩
  refine ensures_later (generateAccessToken_effect (fun _ _ _ h => h) hsign _ _) ?_
  rintro r w₁ hnow ⟨⟨tokenString, rfl⟩, hdb⟩
  refine (issueSuccessor_effect hid tokenString (hle.trans ((World.le_wait _ n).trans hnow))).mono ?_
  rintro r w' ⟨resp, a, t', rfl, hsucc⟩
  rw [hdb] at hsucc
  exact ⟨_, hle, Or.inl ⟨⟨u, hu, hid⟩, resp, a, t', rfl, hsucc⟩⟩

end Rotation

end GoauthServer
