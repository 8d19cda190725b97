import GoauthServer.Safety.CleanedRequests
import GoauthServer.Safety.Mediation

/-!
# Cleanups do not show

`CleanupExpiredCodes` and `CleanupExpiredTokens` delete rows, and a request that comes later takes another branch
where it finds none: a code is unknown instead of expired, a token has no row instead of one that is revoked, a
refresh token has lost its link. Here a timeline is a list of requests and cleanups, each with its time and its
draws. Its responses are compared with those of the same timeline without the cleanups (`cleanup_unobservable`).

Between two entries the store of the run with cleanups is that of the other run, but for what had expired when it
was removed. An entry keeps that up: a cleanup removes more (`Entry.run_cleanup`), and a request is answered alike
(`Inbound.call_alike`).
-/

namespace GoauthServer

open Interact Relational

/-! ### Rows outlive their tokens in every run -/

/-- An access token is stored as it was signed. -/
def issuedRequest (env : Env) (q : Request) (log : Log effects) : Prop :=
  ∀ p, q = .sql (.createAccessToken p) → ∃ userID email token, Stores env log userID email token p

/-- The request stores no access token. -/
def Request.StoresNone (q : Request) : Prop := ∀ p, q ≠ .sql (.createAccessToken p)

section Issued

variable {q : Request} {α : Type} {p : Call α}

theorem Request.Quiet.storesNone (h : q.Quiet) : q.StoresNone := by
  rintro p rfl
  cases h

theorem Request.Reads.storesNone (h : q.Reads) : q.StoresNone := by
  rintro p rfl
  cases h

theorem Unseen.storesNone (hp : Unseen p) : p.Only Request.StoresNone := by
  refine hp.only.mono ?_
  rintro q (h | h) p rfl <;> cases h

/-- Nothing that is stored can clash. -/
theorem along_fresh (hp : p.Only Request.StoresNone) (ds : ℕ → Draw) (w : World) :
    p.Along backend Request.Fresh ds w := by
  induction p generalizing ds w with
  | ret a => trivial
  | call q k ih =>
    refine ⟨?_, ih _ (hp.2 _) _ _⟩
    unfold Request.Fresh
    split
    · exact absurd rfl (hp.1 _)
    · trivial

theorem serveUser_storesNone (env : Env) (endpoint : UserEndpoint) (r : HttpRequest) :
    (serveUser env endpoint r).Only Request.StoresNone := by
  have hchain : (chain (protectedAuth env) r none).Only Request.Reads := by
    refine chain_reads (fun m hm r ctx => ?_) r none
    simp only [protectedAuth, List.mem_cons, List.not_mem_nil, or_false] at hm
    rcases hm with rfl | rfl
    · exact useAuth_reads env r ctx
    · exact csrfMiddleware_only (fun _ => trivial) r ctx
  refine (hchain.mono fun _ h => h.storesNone).bind fun a => ?_
  cases a with
  | error e => trivial
  | ok ctx =>
    cases endpoint with
    | me => exact (getCurrentUser_unseen env ctx).storesNone
    | logout =>
      cases ctx with
      | none => trivial
      | some c => exact ((logout_quiet env c).mono fun _ h => h.storesNone).map _

theorem ApiRequest.call_storesNone (env : AdminEnv) (req : ApiRequest) :
    (req.call env).Only Request.StoresNone := by
  cases hsession : req.session with
  | false => exact (ApiRequest.call_unseen env hsession).storesNone
  | true =>
    cases req with
    | listAuthorizationCodes q =>
      refine Prog.Only.map ?_ _
      unfold listAuthorizationCodesHandler
      split
      · trivial
      · exact ((listAuthorizationCodes_reads _).mono fun _ h => h.storesNone).map _
    | revokeAuthorizationCode idParam =>
      refine Prog.Only.map ?_ _
      unfold revokeAuthorizationCodeHandler
      split
      · trivial
      · exact (sessionRevokeAuthorizationCode_only (C := Request.StoresNone) (fun _ => nofun) fun _ => nofun).map _
    | listAccessTokens q =>
      refine Prog.Only.map ?_ _
      unfold listAccessTokensHandler
      split
      · trivial
      · exact ((listAccessTokens_reads _).mono fun _ h => h.storesNone).map _
    | revokeAccessToken idParam =>
      refine Prog.Only.map ?_ _
      unfold revokeAccessTokenHandler
      split
      · trivial
      · exact (sessionRevokeAccessToken_only (C := Request.StoresNone) (fun _ => nofun) fun _ => nofun).map _
    | _ => cases hsession

theorem serveApi_storesNone (env : AdminEnv) (limits : AdminGroup → String → Bool) (input : AdminInput)
    (r : HttpRequest) : (serveApi env limits input r).Only Request.StoresNone := by
  unfold serveApi serveAdmin
  split
  · trivial
  · next endpoint _ =>
    refine ((middleware_reads env.auth limits endpoint.group r none).mono fun _ h => h.storesNone).bind
      fun a => ?_
    cases a with
    | error e => trivial
    | ok ctx => exact (ApiRequest.call_storesNone env _).map _

theorem tokenExchange_issued (env : Env) (body : TokenBody) :
    (tokenExchange env body).Obeys ⟨issuedRequest env, fun _ _ => True⟩ [] := by
  unfold tokenExchange
  split
  · trivial
  · split
    · unfold handleAuthorizationCodeGrant
      split
      · trivial
      · split
        · trivial
        · next req _ _ clientID _ =>
          refine (exchangeCodeForToken_obeys env _ _ _ _).map (fun q log hq p hp => ?_) fun _ _ _ => trivial
          subst hp
          have hop : (Operation.exchangeCodeForToken req.code clientID req.clientSecret req.redirectURI).request env
            (.sql (.createAccessToken p)) log := hq
          exact Operation.stores_of_create hop
    · split
      · unfold handleRefreshTokenGrant
        split
        · trivial
        · next req _ =>
          refine (rotateRefreshToken_obeys env _ _ _).map (fun q log hq p hp => ?_) fun _ _ _ => trivial
          subst hp
          have hop : (Operation.rotateRefreshToken req.refreshToken req.clientID req.clientSecret).request env
            (.sql (.createAccessToken p)) log := hq
          exact Operation.stores_of_create hop
      · trivial

/-- **Every request** stores the access tokens that it has signed, and no others. -/
theorem Inbound.call_issued (env : AdminEnv) (req : Inbound) :
    (req.call env).Obeys ⟨issuedRequest env.auth, fun _ _ => True⟩ [] := by
  have hnone : ∀ {α : Type} {p : Call α} (f : α → InboundReply), p.Only Request.StoresNone →
      (p.map f).Obeys ⟨issuedRequest env.auth, fun _ _ => True⟩ [] :=
    fun f hp => (hp.map f).obeys (fun _ _ hq p hp => absurd hp (hq p)) (fun _ _ => trivial) []
  cases req with
  | token body => exact (tokenExchange_issued env.auth body).map (fun _ _ h => h) fun _ _ _ => trivial
  | login email password sourceIP =>
    refine (login_obeys env.auth email password sourceIP).map (fun q log hq p hp => ?_) fun _ _ _ => trivial
    subst hp
    have hop : (Operation.login email password sourceIP).request env.auth (.sql (.createAccessToken p)) log := hq
    exact Operation.stores_of_create hop
  | revoke authorization form =>
    exact hnone _ ((revoke_quiet env.auth authorization form).mono fun _ h => h.storesNone)
  | user endpoint r => exact hnone _ (serveUser_storesNone env.auth endpoint r)
  | admin limits input r => exact hnone _ (serveApi_storesNone env limits input r)

/-- The row of a token outlives it after a request, if it did before. -/
theorem Store.Outlives.call {env : AdminEnv} {token : String} (hf : Faithful env.auth token) {w : World}
    (h : w.db.Outlives env.auth token) (req : Inbound) (ds : ℕ → Draw) :
    ((req.call env).run backend ds w).2.db.Outlives env.auth token := by
  have hrun := (Inbound.call_issued env req).run (B := backend) (C := fun _ _ _ => True)
    (J := fun log w => Clocked log w ∧ w.db.Outlives env.auth token) ?_
    (Prog.along_of_forall (fun _ _ _ => trivial) _ ds w) ⟨Clocked.nil w, h⟩
  · obtain ⟨_, _, _, hout⟩ := hrun
    exact hout
  · rintro q log d w hq _ ⟨hclock, hout⟩
    refine ⟨hclock.self, fun a' ha' hhash => ?_⟩
    rcases respond_accessToken_origin ha' with ⟨a, ha, hlater⟩ | ⟨p, rfl, rfl⟩
    · rw [hlater.expiresAt]
      exact hout a ha (hlater.tokenHash.symm.trans hhash)
    · obtain ⟨userID, email, token', hst⟩ := hq p rfl
      exact acceptedUntil_of_stores hf hclock hst hhash

end Issued

/-! ### Timelines -/

/-- What is done at one time. -/
inductive Job where
  | request (req : Inbound)
  | cleanupExpiredCodes
  | cleanupExpiredTokens

/-- A job, with the time at which it starts and what is drawn for it. -/
structure Entry where
  time : Time
  draws : ℕ → Draw
  job : Job

namespace Entry

def isRequest (e : Entry) : Bool :=
  match e.job with
  | .request _ => true
  | _ => false

/-- The access tokens that are presented. -/
def accessTokens (e : Entry) : List String :=
  match e.job with
  | .request req => req.accessTokens
  | _ => []

/-- Do the job: the request with its response if it is one, and the world afterwards. -/
def run (env : AdminEnv) (e : Entry) (w : World) : Option (Inbound × InboundReply) × World :=
  match e.job with
  | .request req =>
    let r := (req.call env).run backend e.draws ⟨e.time, w.db⟩
    (some (req, r.1), r.2)
  | .cleanupExpiredCodes => (none, (GoauthServer.cleanupExpiredCodes.run backend e.draws ⟨e.time, w.db⟩).2)
  | .cleanupExpiredTokens => (none, (GoauthServer.cleanupExpiredTokens.run backend e.draws ⟨e.time, w.db⟩).2)

/-- No access token that is stored clashes with a row that has expired. -/
def Fresh (env : AdminEnv) (e : Entry) (w : World) : Prop :=
  match e.job with
  | .request req => (req.call env).Along backend Request.Fresh e.draws ⟨e.time, w.db⟩
  | _ => True

end Entry

/-- The requests of a timeline with their responses. -/
def responses (env : AdminEnv) : List Entry → World → List (Inbound × InboundReply)
  | [], _ => []
  | e :: es, w => (e.run env w).1.toList ++ responses env es (e.run env w).2

/-- Each job starts when the one before has ended, or later. -/
def Chronological (env : AdminEnv) : List Entry → World → Prop
  | [], _ => True
  | e :: es, w => w.now ≤ e.time ∧ Chronological env es (e.run env w).2

/-- All entries are fresh. -/
def FreshRun (env : AdminEnv) : List Entry → World → Prop
  | [], _ => True
  | e :: es, w => e.Fresh env w ∧ FreshRun env es (e.run env w).2

/-- The timeline without the cleanups. -/
def requests (es : List Entry) : List Entry := es.filter Entry.isRequest

section Timelines

variable {env : AdminEnv} {x : Removed} {t : Time} {w w' : World} {e : Entry} {req : Inbound}

theorem Entry.le_now_run (e : Entry) (w : World) : e.time ≤ (e.run env w).2.now := by
  unfold Entry.run
  split <;> exact le_now_prog _ e.draws ⟨e.time, w.db⟩

theorem Entry.exists_request (he : e.isRequest = true) : ∃ req, e.job = .request req := by
  unfold Entry.isRequest at he
  split at he
  · next req hjob => exact ⟨req, hjob⟩
  · cases he

/-- **A request** is answered alike in both runs, and leaves the one behind the other. -/
theorem Entry.run_request (hjob : e.job = .request req) (h : w.Behind x t w') (hle : t ≤ e.time)
    (hout : ∀ token ∈ e.accessTokens, w.db.Outlives env.auth token) (hfresh : e.Fresh env w) :
    ∃ a b, (e.run env w).1 = some (req, a) ∧ (e.run env w').1 = some (req, b) ∧ req.shown a = req.shown b ∧
      World.Behind x t (e.run env w).2 (e.run env w').2 := by
  simp only [Entry.accessTokens, hjob] at hout
  simp only [Entry.Fresh, hjob] at hfresh
  simp only [Entry.run, hjob]
  obtain ⟨hshown, hbehind⟩ := Inbound.call_alike env req (h.trails hle) hout e.draws hfresh
  exact ⟨_, _, rfl, rfl, hshown, hbehind⟩

theorem responses_request (hjob : e.job = .request req) (w : World) :
    (responses env [e] w).map Prod.snd = [((req.call env).run backend e.draws ⟨e.time, w.db⟩).1] := by
  simp only [responses, Entry.run, hjob]
  rfl

theorem Entry.run_outlives (hjob : e.job = .request req) {token : String}
    (hf : Faithful env.auth token) (h : w.db.Outlives env.auth token) :
    (e.run env w).2.db.Outlives env.auth token := by
  simp only [Entry.run, hjob]
  exact Store.Outlives.call (w := ⟨e.time, w.db⟩) hf h req e.draws

theorem Entry.fresh_of_storesNone (hjob : e.job = .request req)
    (h : (req.call env).Only Request.StoresNone) (w : World) : e.Fresh env w := by
  simp only [Entry.Fresh, hjob]
  exact along_fresh h e.draws ⟨e.time, w.db⟩

/-- The cleanups as steps: a statement, and nothing behind it that changes the world. -/
theorem run_cleanupExpiredCodes (ds : ℕ → Draw) (w : World) : (cleanupExpiredCodes.run backend ds w).2 =
      (respond (.sql .deleteExpiredAuthorizationCodes) (ds 0) w).2 := by
  unfold cleanupExpiredCodes
  rw [Call.sql, Prog.run_call]
  split <;> rfl

theorem run_cleanupExpiredTokens (ds : ℕ → Draw) (w : World) :
    (cleanupExpiredTokens.run backend ds w).2 = (respond (.sql .deleteExpiredAccessTokens) (ds 0) w).2 := by
  unfold cleanupExpiredTokens
  rw [Call.sql, Prog.run_call]
  split <;> rfl

/-- **A cleanup** removes more, and nothing that has not expired. -/
theorem Entry.run_cleanup (env : AdminEnv) (he : e.isRequest = false) (h : w.Behind x t w') (hle : t ≤ e.time) :
    (e.run env w').1 = none ∧ ∃ x', World.Behind x' (e.run env w').2.now w (e.run env w').2 := by
  obtain ⟨log, heq⟩ := h.eq
  have hstart : ∀ n : ℕ, t ≤ ((⟨e.time, w'.db⟩ : World).wait n).now :=
    fun n => hle.trans (le_add_of_nonneg_right (Int.natCast_nonneg n))
  -- a cleanup that fails removes nothing
  have hfail : ∀ now : Time, t ≤ now → World.Behind x now w ⟨now, w'.db⟩ :=
    fun now hnow => ⟨h.expired.later hnow, log, heq⟩
  unfold Entry.run
  unfold Entry.isRequest at he
  split
  · next req hjob =>
    rw [hjob] at he
    cases he
  · refine ⟨rfl, ?_⟩
    dsimp only
    rw [run_cleanupExpiredCodes]
    cases hf : (e.draws 0).fault with
    | true =>
      rw [respond_sql_fault _ hf]
      exact ⟨x, hfail _ (hstart _)⟩
    | false =>
      rw [respond_sql _ hf]
      refine ⟨x.andCodes w.db _, h.expired.andCodes (hstart (e.draws 0).wait), log, ?_⟩
      dsimp only
      rw [heq, cleanupCodes_cleaned]
  · refine ⟨rfl, ?_⟩
    dsimp only
    rw [run_cleanupExpiredTokens]
    cases hf : (e.draws 0).fault with
    | true =>
      rw [respond_sql_fault _ hf]
      exact ⟨x, hfail _ (hstart _)⟩
    | false =>
      rw [respond_sql _ hf]
      refine ⟨x.andTokens w.db _, h.expired.andTokens (hstart (e.draws 0).wait), log, ?_⟩
      dsimp only
      rw [heq]
      exact cleanupTokens_cleaned

/-- **Whole timelines.** As long as the run with cleanups is behind the other, the responses that follow show the
same. -/
theorem responses_behind (es : List Entry) (h : w.Behind x t w') (hnow : t ≤ w'.now)
    (hout : ∀ e ∈ es, ∀ token ∈ e.accessTokens, w.db.Outlives env.auth token)
    (hfaithful : ∀ e ∈ es, ∀ token ∈ e.accessTokens, Faithful env.auth token)
    (hclock : Chronological env es w') (hfresh : FreshRun env (requests es) w) :
    (responses env es w').map (fun r => r.1.shown r.2) =
      (responses env (requests es) w).map (fun r => r.1.shown r.2) := by
  -- the induction is on the timeline; what was removed, and until when, changes at each cleanup
  induction es generalizing x t w w' with
  | nil => rfl
  | cons e es ih =>
    have hle : t ≤ e.time := hnow.trans hclock.1
    cases he : e.isRequest with
    | false =>
      obtain ⟨hnone, x', h'⟩ := Entry.run_cleanup env he h hle
      have hskip : requests (e :: es) = requests es := List.filter_cons_of_neg (by rw [he]; exact Bool.false_ne_true)
      rw [hskip] at hfresh ⊢
      show ((e.run env w').1.toList ++ responses env es (e.run env w').2).map _ = _
      rw [hnone]
      exact ih h' (le_refl _) (fun e' he' => hout e' (List.mem_cons_of_mem e he'))
        (fun e' he' => hfaithful e' (List.mem_cons_of_mem e he')) hclock.2 hfresh
    | true =>
      have hkeep : requests (e :: es) = e :: requests es := List.filter_cons_of_pos he
      rw [hkeep] at hfresh ⊢
      obtain ⟨req, hjob⟩ := Entry.exists_request he
      obtain ⟨a, b, ha, hb, hshown, h'⟩ :=
        Entry.run_request hjob h hle (hout e List.mem_cons_self) hfresh.1
      have hrest := ih h' (hle.trans (e.le_now_run w')) (fun e' he' token htoken => Entry.run_outlives hjob
          (hfaithful e' (List.mem_cons_of_mem e he') token htoken)
          (hout e' (List.mem_cons_of_mem e he') token htoken))
        (fun e' he' => hfaithful e' (List.mem_cons_of_mem e he')) hclock.2 hfresh.2
      show ((e.run env w').1.toList ++ responses env es (e.run env w').2).map _ =
        ((e.run env w).1.toList ++ responses env (requests es) (e.run env w).2).map _
      rw [ha, hb, List.map_append, List.map_append, hrest]
      exact congrArg (· :: _) hshown.symm

/-- **Cleanups do not show.** In a store in which no row of an access token expires before the token, the
responses to any requests, at the same times and with the same draws, are the same with and without cleanups at
any points in between; but for what the handlers for sessions answer to administrators. -/
theorem cleanup_unobservable (env : AdminEnv) (es : List Entry) (w : World)
    (hstore : ∀ token, w.db.Outlives env.auth token)
    (hfaithful : ∀ e ∈ es, ∀ token ∈ e.accessTokens, Faithful env.auth token)
    (hclock : Chronological env es w) (hfresh : FreshRun env (requests es) w) :
    (responses env es w).map (fun r => r.1.shown r.2) =
      (responses env (requests es) w).map (fun r => r.1.shown r.2) :=
  responses_behind es (.start w) (le_refl w.now) (fun _ _ token _ => hstore token) hfaithful hclock hfresh

end Timelines

section Examples

open Deployment

/-- The deployment with `ann` as an administrator, and the row of the access token. -/
def sessionStore : Store :=
  { adminStore with accessTokens := annSessions }

/-- The row expires when the token does. -/
theorem outlives_sessionStore (token : String) : sessionStore.Outlives env token := by
  intro a ha hhash
  obtain rfl := List.mem_singleton.mp ha
  obtain rfl : token = annToken signatureA := eq_annToken (hhash.symm.trans sha256Hex_annToken.symm)
  show AcceptedUntil env (annToken signatureA) (GoTime.add 0 env.expiry)
  exact acceptedUntil_of_issue faithful_annToken (accessToken_annClaims signatureA)

/-- The exchange of `ann`'s code by `app`. -/
def exchangeRequested : Inbound :=
  .token
    { grantCheck := .ok "authorization_code"
      codeGrant := .ok ⟨"authorization_code", "auth-code", appText, "s3cret", "https://app.example/callback"⟩
      refreshGrant := .error "" }

/-- A request with `ann`'s access token. -/
def annRequest (path : List String) : HttpRequest where
  method := "GET"
  path := path
  clientIP := "192.0.2.1"
  headers := ⟨"", some (annToken signatureA)⟩
  csrfHeader := []
  csrfCookie := none

/-- A job after so many seconds. -/
def after (seconds : ℕ) (job : Job) : Entry := ⟨seconds * 1000000000, fun _ => draw 7 20, job⟩

/-- The code is exchanged after it has expired and was removed; then `ann` comes back when the access token has
expired and its row was removed. -/
def lateRequests : List Entry :=
  [after 400 .cleanupExpiredCodes, after 401 (.request exchangeRequested),
    after 4000 .cleanupExpiredTokens, after 4001 (.request (.user .me (annRequest ["auth", "me"])))]

/-- Without the cleanup the code has expired, with it there is none; the response is the same. -/
theorem cleanup_unobservable_lateRequests :
    ((after 400 .cleanupExpiredCodes).run admin ⟨0, sessionStore⟩).2.db.authorizationCodes.rows = [] ∧
      (responses admin (lateRequests.take 2) ⟨0, sessionStore⟩).map Prod.snd =
        [.token (.failed invalidCodeGrant)] ∧
      (responses admin lateRequests ⟨0, sessionStore⟩).map (fun r => r.1.shown r.2) =
        (responses admin (requests lateRequests) ⟨0, sessionStore⟩).map (fun r => r.1.shown r.2) := by
  refine ⟨by decide +kernel, by decide +kernel, ?_⟩
  refine cleanup_unobservable admin lateRequests ⟨0, sessionStore⟩ outlives_sessionStore ?_ ?_ ?_
  · intro e he token htoken
    simp only [lateRequests, List.mem_cons, List.not_mem_nil, or_false] at he
    rcases he with rfl | rfl | rfl | rfl
    · cases htoken
    · cases htoken
    · cases htoken
    · obtain rfl := List.mem_singleton.mp htoken
      exact faithful_annToken
  · exact ⟨by decide +kernel, by decide +kernel, by decide +kernel, by decide +kernel, trivial⟩
  · refine ⟨⟨trivial, trivial, trivial, trivial⟩, Entry.fresh_of_storesNone rfl ?_ _, trivial⟩
    exact (serveUser_storesNone env .me (annRequest ["auth", "me"])).map _

/-! The routes for sessions are no exception by oversight: they are there to look at the rows. -/

theorem annToken_accepted (now : Time) (h0 : 0 ≤ now) (h1 : now < 3600000000000) :
    env.checkAccessToken (annToken signatureA) now = .ok annClaims := by
  unfold Env.checkAccessToken
  rw [annToken, Jwt.parse_of_segments (Jwt.segments_signedString _ _ _)]
  simp [Jwt.parseSegments, Base64.decode_encode Base64.rawURL_lawful, env, lib, Jwt.getSigningMethod,
    Jwt.signingString, Jwt.validate, annClaims, h0, h1]

/-- The query of a list of the codes of `ann` for `app`. -/
def annSessions : AdminInput where
  page := ⟨none, none⟩
  isActive := ""
  isAdmin := ""
  sessions := ⟨⟨none, none⟩, appText, annText, ""⟩
  createClient := .error ""
  updateClient := .error ""
  createProvider := .error ""
  updateProvider := .error ""
  updateUserStatus := .error ""

/-- The store at the time of the request. -/
def sessionWorld (codes : Table AuthorizationCode) : World :=
  ⟨401000000000, { sessionStore with authorizationCodes := codes }⟩

/-- `ann` is let through. -/
theorem annSessions_admitted (codes : Table AuthorizationCode) :
    (chain (AdminGroup.middleware env (fun _ _ => true) .sessions) (annRequest ["sessions", "codes"]) none).run
        backend (fun _ => draw 7 20) (sessionWorld codes) =
      (.ok (some ⟨annToken signatureA, annText, "ann@example.com"⟩), sessionWorld codes) := by
  have hreads := middleware_reads env (fun _ _ => true) .sessions (annRequest ["sessions", "codes"]) none
  refine Prod.ext ?_ (Only.run_world hreads (fun _ => rfl) (sessionWorld codes))
  have hlive : ¬ (sessionWorld codes).db.TokenRevoked (env.lib.sha256Hex (annToken signatureA)) := by
    rintro ⟨a, ha, _, hrev⟩
    obtain rfl := List.mem_singleton.mp ha
    cases hrev
  have hok : ((authenticateToken env (annToken signatureA)).run backend (fun _ => draw 7 20)
      (sessionWorld codes)).1 = .ok ⟨annToken signatureA, annText, "ann@example.com"⟩ :=
    authenticateToken_ok.mpr
      ⟨annClaims, annToken_accepted 401000000000 (by decide) (by decide), rfl, hlive, rfl⟩
  have hauth : ((useAuth env (annRequest ["sessions", "codes"]) none).run backend (fun _ => draw 7 20)
      (sessionWorld codes)).1 = .ok (some ⟨annToken signatureA, annText, "ann@example.com"⟩) := by
    show (((authenticateToken env (annToken signatureA)).map (Except.map some)).run backend _ _).1 = _
    rw [Prog.map, Prog.run_bind_ret fun _ => rfl, hok]
    rfl
  show (((useAuth env (annRequest ["sessions", "codes"]) none).bind _).run backend _ _).1 = _
  rw [Prog.run_bind, hauth,
    Only.run_world (useAuth_reads env (annRequest ["sessions", "codes"]) none) (fun _ => rfl)]
  generalize annToken signatureA = token
  rfl

/-- The request to list the codes. -/
def listRequested : Inbound := .admin (fun _ _ => true) annSessions (annRequest ["sessions", "codes"])

theorem listRequested_run (codes : Table AuthorizationCode) :
    ((listRequested.call admin).run backend (fun _ => draw 7 20) (sessionWorld codes)).1 =
      .admin (.handled (((ApiRequest.listAuthorizationCodes annSessions.sessions).call admin).run backend
        (fun _ => draw 7 20) (sessionWorld codes)).1) := by
  show (((serveApi admin (fun _ _ => true) annSessions (annRequest ["sessions", "codes"])).map _).run backend _
    _).1 = _
  rw [Prog.map, Prog.run_bind_ret fun _ => rfl]
  unfold serveApi serveAdmin
  rw [show adminEndpoint (annRequest ["sessions", "codes"]).method (annRequest ["sessions", "codes"]).path =
    some .listAuthorizationCodes by decide]
  show InboundReply.admin (((chain (AdminGroup.middleware env (fun _ _ => true) .sessions)
    (annRequest ["sessions", "codes"]) none).bind _).run backend _ _).1 = _
  rw [Prog.run_bind, annSessions_admitted]
  exact congrArg InboundReply.admin (congrArg Prod.fst (Prog.run_bind_ret (fun _ => rfl) _ _))

/-- The codes are listed after `ann`'s code has expired and was removed. -/
def listAfterCleanup : List Entry :=
  [after 400 .cleanupExpiredCodes, after 401 (.request listRequested)]

/-- **A list of sessions shows a cleanup.** All that is assumed in `cleanup_unobservable` holds, but the list has
the code without the cleanup, and not with it. -/
theorem cleanup_shown_to_administrators :
    (∀ token, sessionStore.Outlives env token) ∧
      (∀ e ∈ listAfterCleanup, ∀ token ∈ e.accessTokens, Faithful env token) ∧
      Chronological admin listAfterCleanup ⟨0, sessionStore⟩ ∧
      FreshRun admin (requests listAfterCleanup) ⟨0, sessionStore⟩ ∧
      (responses admin listAfterCleanup ⟨0, sessionStore⟩).map Prod.snd ≠
        (responses admin (requests listAfterCleanup) ⟨0, sessionStore⟩).map Prod.snd := by
  refine ⟨outlives_sessionStore, ?_, ⟨by decide +kernel, by decide +kernel, trivial⟩,
    ⟨Entry.fresh_of_storesNone rfl ?_ _, trivial⟩, ?_⟩
  · intro e he token htoken
    simp only [listAfterCleanup, List.mem_cons, List.not_mem_nil, or_false] at he
    rcases he with rfl | rfl
    · cases htoken
    · obtain rfl := List.mem_singleton.mp htoken
      exact faithful_annToken
  · exact (serveApi_storesNone admin (fun _ _ => true) annSessions (annRequest ["sessions", "codes"])).map _
  have hcleaned : (responses admin listAfterCleanup ⟨0, sessionStore⟩).map Prod.snd =
      [.admin (.handled (.accounts (.codes [] 0)))] := by
    have hworld : (⟨401000000000, ((after 400 .cleanupExpiredCodes).run admin ⟨0, sessionStore⟩).2.db⟩ : World) =
        sessionWorld .empty := rfl
    show (responses admin [after 401 (.request listRequested)]
      ((after 400 .cleanupExpiredCodes).run admin ⟨0, sessionStore⟩).2).map Prod.snd = _
    rw [responses_request rfl]
    show [((listRequested.call admin).run backend (fun _ => draw 7 20) ⟨401000000000, _⟩).1] = _
    rw [hworld, listRequested_run]
    decide +kernel
  have hplain : (responses admin (requests listAfterCleanup) ⟨0, sessionStore⟩).map Prod.snd =
      [.admin (.handled (.accounts (.codes
        [toAuthorizationCodeResponse env (toAuthorizationCode annCode)] 1)))] := by
    show (responses admin [after 401 (.request listRequested)] ⟨0, sessionStore⟩).map Prod.snd = _
    rw [responses_request rfl]
    show [((listRequested.call admin).run backend (fun _ => draw 7 20)
      (sessionWorld sessionStore.authorizationCodes)).1] = _
    rw [listRequested_run]
    decide +kernel
  rw [hcleaned, hplain]
  decide +kernel

end Examples

end GoauthServer
