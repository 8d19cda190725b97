import GoauthServer.Safety.AccessRevocation
import GoauthServer.Spec.CleanedGrants

/-!
# A request next to cleanups

What a request comes to in a store, and in the same store after cleanups (`Inbound.call_alike`). The token
endpoint and the login are in `Spec/CleanedGrants.lean`; here are the requests that are authenticated by an
access token, and the revocation.

* A token whose row was removed is not accepted any more (`Store.Outlives`), so authentication never asks about
  it, and a logout finds the row of its token.
* A revocation answers 200 in any case. Without cleanups it may go on for a while, on rows that are expired.
* The four routes of administrators for sessions list and revoke expired rows. They show the difference, and no
  other route does.
-/

namespace GoauthServer

open Interact Relational GoTime

variable {α β : Type}

/-! ### Authentication -/

/-- The rows with this hash have not been removed. -/
def Removed.Keeps (x : Removed) (tokenHash : String) (s : Store) : Prop :=
  ∀ a ∈ s.accessTokens.rows, a.tokenHash = tokenHash → x.tokens a.id = false

section Authentication

variable {env : Env} {x : Removed} {t : Time} {w w' : World} {token : String}

/-- **A token that is accepted** has its row, if it ever had one: what was removed had expired, and a row does
not expire before its token. -/
theorem Removed.keeps_of_accepted {claims : Claims} (h : w.Trails x t w')
    (hout : w.db.Outlives env token) (hok : env.checkAccessToken token w.now = .ok claims) :
    x.Keeps (env.lib.sha256Hex token) w.db := by
  intro a ha hhash
  by_contra hx
  rw [Bool.not_eq_false] at hx
  have huntil : w.now ≤ a.expiresAt := hout a ha hhash w.now claims hok
  have hexp : a.expiresAt < w.now := (h.expired.tokens a ha hx).trans_le h.since
  exact absurd huntil (not_le.mpr hexp)

theorem World.Trails.getAccessToken_keeps {tokenHash : String} (h : w.Trails x t w')
    (hx : x.Keeps tokenHash w.db) (d : Draw) :
    (respond (.sql (.getAccessToken tokenHash)) d w').1 =
      (respond (.sql (.getAccessToken tokenHash)) d w).1 := by
  rcases h.getAccessToken d tokenHash with hsame | ⟨a, ha, hhash, hgone, _⟩
  · exact hsame
  · rw [hx a ha hhash] at hgone
    cases hgone

/-- A request to which both get the same reply. -/
theorem lockstep_call {Q : α → World → β → World → Prop} {q : Request} {k : q.Reply → Call α}
    {k' : q.Reply → Call β} (hq : ∀ d, (respond q d w').1 = (respond q d w).1)
    (hk : ∀ d r, (respond q d w).1 = r → (k r).Lockstep backend Q (k' r) (respond q d w).2 (respond q d w').2) :
    Prog.Lockstep (S := effects) backend Q (.call q k) (.call q k') w w' := by
  refine .call fun d => ?_
  show Prog.Lockstep backend Q (k (respond q d w).1) (k' (respond q d w').1) _ _
  rw [hq d]
  exact hk d _ rfl

/-- The check of signature and expiry, and what it means for the row. -/
theorem validateAccessToken_lockstep (h : w.Trails x t w') (hout : w.db.Outlives env token) :
    (validateAccessToken env token).Lockstep backend (fun a w b w' => a = b ∧ World.Trails x t w w' ∧
        ∀ claims, a = .ok claims → x.Keeps (env.lib.sha256Hex token) w.db)
      (validateAccessToken env token) w w' := by
  refine lockstep_call (fun d => (h.blind (q := .now) trivial d).1) fun d now hnow => ?_
  have hw := (h.blind (q := .now) trivial d).2
  cases hcheck : env.checkAccessToken token now with
  | error e => exact .ret ⟨rfl, hw, fun _ h => (by cases h)⟩
  | ok claims =>
    rw [← hnow] at hcheck
    exact .ret ⟨rfl, hw, fun _ _ => Removed.keeps_of_accepted hw hout hcheck⟩

/-- The question whether a token is revoked, where its row was not removed. -/
theorem isTokenRevoked_lockstep (h : w.Trails x t w') (hx : x.Keeps (env.lib.sha256Hex token) w.db) :
    (isTokenRevoked env token).Lockstep backend
      (fun a w b w' => a = b ∧ World.Trails x t w w' ∧ x.Keeps (env.lib.sha256Hex token) w.db)
      (isTokenRevoked env token) w w' := by
  refine lockstep_call (h.getAccessToken_keeps hx) fun d r _ => ?_
  have hw := h.read (q := .sql (.getAccessToken (env.lib.sha256Hex token))) rfl d
  have hx' : x.Keeps (env.lib.sha256Hex token)
      (respond (.sql (.getAccessToken (env.lib.sha256Hex token))) d w).2.db := by
    rw [respond_of_reads (q := .sql (.getAccessToken (env.lib.sha256Hex token))) rfl]
    exact hx
  dsimp only
  split <;> exact .ret ⟨rfl, hw, hx'⟩

/-- **`AuthMiddleware`** decides alike, and the row of a token that it lets through was not removed. -/
theorem authenticateToken_lockstep (h : w.Trails x t w') (hout : w.db.Outlives env token) :
    (authenticateToken env token).Lockstep backend (fun a w b w' => a = b ∧ World.Trails x t w w' ∧
        ∀ ctx, a = .ok ctx → x.Keeps (env.lib.sha256Hex ctx.rawToken) w.db)
      (authenticateToken env token) w w' := by
  refine .bind ((validateAccessToken_lockstep h hout).mono ?_)
  rintro a w _ w' ⟨rfl, h, hkeeps⟩
  cases a with
  | error e => exact .ret ⟨rfl, h, fun _ h => (by cases h)⟩
  | ok claims =>
    refine .bind ((isTokenRevoked_lockstep h (hkeeps claims rfl)).mono ?_)
    rintro a w _ w' ⟨rfl, h, hkeeps⟩
    rcases a with e | ⟨_ | _⟩
    · exact .ret ⟨rfl, h, fun _ h => (by cases h)⟩
    · refine .ret ⟨rfl, h, fun ctx hctx => ?_⟩
      obtain rfl := Except.ok.inj hctx
      exact hkeeps
    · exact .ret ⟨rfl, h, fun _ h => (by cases h)⟩

theorem useAuth_lockstep {r : HttpRequest} (ctx : Option AuthContext) (h : w.Trails x t w')
    (hout : ∀ token ∈ (requestToken r.headers).toOption, w.db.Outlives env token) :
    (useAuth env r ctx).Lockstep backend (fun a w b w' => a = b ∧ World.Trails x t w w' ∧
        ∀ c, a = .ok (some c) → x.Keeps (env.lib.sha256Hex c.rawToken) w.db)
      (useAuth env r ctx) w w' := by
  refine .map ?_
  unfold authMiddleware
  cases htoken : requestToken r.headers with
  | error e => exact .ret ⟨rfl, h, fun _ h => (by cases h)⟩
  | ok token =>
    refine (authenticateToken_lockstep h (hout token (by rw [htoken]; rfl))).mono ?_
    rintro a w _ w' ⟨rfl, h, hkeeps⟩
    refine ⟨rfl, h, fun c hc => ?_⟩
    cases a with
    | error e => cases hc
    | ok ctx =>
      obtain rfl := Option.some.inj (Except.ok.inj hc)
      exact hkeeps ctx rfl

/-- The authentication of a revocation. -/
theorem authenticateRevokeRequest_lockstep {authorization : String} (h : w.Trails x t w')
    (hout : w.db.Outlives env (extractBearerToken authorization)) :
    (authenticateRevokeRequest env authorization).Lockstep backend
      (fun a w b w' => a = b ∧ World.Trails x t w w') (authenticateRevokeRequest env authorization) w w' := by
  unfold authenticateRevokeRequest
  split
  · -- by the credentials of a client
    refine Unseen.lockstep ((validateClientCredentials_unseen env _ _).bind fun r => ?_) h
    cases r <;> trivial
  · split
    · -- by an access token
      refine .bind ((validateAccessToken_lockstep h hout).mono ?_)
      rintro a w _ w' ⟨rfl, h, hkeeps⟩
      cases a with
      | error e => exact .ret ⟨rfl, h⟩
      | ok claims =>
        refine .bind ((isTokenRevoked_lockstep h (hkeeps claims rfl)).mono ?_)
        rintro a w _ w' ⟨rfl, h, _⟩
        cases a <;> exact .ret ⟨rfl, h⟩
    · exact .ret ⟨rfl, h⟩

end Authentication

/-! ### Revocation -/

section Revocation

variable {env : Env} {x : Removed} {t : Time} {w w' : World}

theorem revokeAccessTokenRecord_unseen (env : Env) (record : AccessToken) :
    Unseen (revokeAccessTokenRecord env record) := by
  unfold revokeAccessTokenRecord
  split
  · trivial
  · refine .sql rfl fun r => ?_
    split
    · trivial
    · exact logEvent_unseen trivial

/-- On a row that was removed. -/
theorem revokeAccessTokenRecord_idle {record : AccessToken} (hx : x.tokens record.id = true) :
    (revokeAccessTokenRecord env record).Only (Request.Idle x) := by
  unfold revokeAccessTokenRecord
  split
  · trivial
  · refine ⟨hx, fun r => ?_⟩
    dsimp only
    split
    · trivial
    · unfold Env.logEvent
      split
      · exact ⟨trivial, fun _ => trivial⟩
      · trivial

/-- Two runs of which only the worlds matter: nobody looks at the result of a revocation. -/
abbrev LeadsBehind (x : Removed) (t : Time) (p : Call α) (p' : Call β) (w w' : World) : Prop :=
  p.Alike backend Request.Fresh (fun _ w _ w' => World.Behind x t w w') p' w w'

theorem Unseen.leadsBehind {p : Call α} (hp : Unseen p) (h : w.Trails x t w') : LeadsBehind x t p p w w' :=
  (hp.agrees h).mono fun _ _ _ _ h => h.2

theorem getAccessTokenByID_id {id : UUID} {d : Draw} {record : AccessToken}
    (h : (respond (.sql (.getAccessTokenByID id)) d w).1 = .ok record) : record.id = id := by
  cases hf : d.fault with
  | true =>
    rw [respond_sql_fault _ hf] at h
    cases h
  | false =>
    rw [respond_sql _ hf] at h
    exact beq_iff_eq.mp (selectOne_ok h).2

/-- The linked access token. Where the link was removed, the other run has nothing to do. -/
theorem revokeLinkedAccess_behind (env : Env) (rt : RefreshToken) (h : w.Trails x t w') :
    LeadsBehind x t (revokeLinkedAccess env rt) (revokeLinkedAccess env (x.unlink rt)) w w' := by
  unfold Removed.unlink
  cases hlink : rt.accessTokenID with
  | none =>
    rw [Option.any_none, if_neg Bool.false_ne_true]
    unfold revokeLinkedAccess
    rw [hlink, Option.getD_none, if_neg (not_not_intro rfl)]
    exact .ret h.behind
  | some id =>
    rw [Option.any_some]
    cases hx : x.tokens id with
    | false =>
      rw [if_neg Bool.false_ne_true]
      unfold revokeLinkedAccess
      rw [hlink, Option.getD_some]
      split
      · refine alike_call (P := fun _ => True)
          (fun d _ => ⟨h.getAccessTokenByID d hx, h.read (q := .sql (.getAccessTokenByID id)) rfl d, trivial⟩)
          fun r w w' h _ => ?_
        split
        · refine Unseen.leadsBehind (Unseen.bind (revokeAccessTokenRecord_unseen env _) fun _ => ?_) h
          trivial
        · exact .ret h.behind
        · exact .ret h.behind
      · exact .ret h.behind
    | true =>
      rw [if_pos rfl]
      show LeadsBehind x t _ (Prog.ret (Except.ok ())) w w'
      unfold revokeLinkedAccess
      rw [hlink, Option.getD_some]
      split
      · -- the row that is revoked is one that was removed
        refine .call_left fun d _ => ?_
        have hw : World.Behind x t (respond (.sql (.getAccessTokenByID id)) d w).2 w' :=
          h.behind.left (q := .sql (.getAccessTokenByID id)) (Request.Reads.idle rfl) d
        split
        · next record hr =>
          have hid : x.tokens record.id = true := by rw [getAccessTokenByID_id hr, hx]
          exact alike_of_idle ((revokeAccessTokenRecord_idle hid).bind fun _ => trivial) trivial hw
        · exact .ret hw
        · exact .ret hw
      · exact .ret h.behind

/-- A refresh token, and the access token that it is linked to. -/
theorem revokeRefreshTokenAndLinkedAccess_behind (rt : RefreshToken) (h : w.Trails x t w') :
    LeadsBehind x t (revokeRefreshTokenAndLinkedAccess env rt)
      (revokeRefreshTokenAndLinkedAccess env (x.unlink rt)) w w' := by
  have hrest := fun (v v' : World) (h : v.Trails x t v') => revokeLinkedAccess_behind env rt h
  -- the link is the only difference between the two rows
  obtain ⟨link, hlink⟩ : ∃ link, x.unlink rt = { rt with accessTokenID := link } := by
    unfold Removed.unlink
    split
    · exact ⟨none, rfl⟩
    · exact ⟨rt.accessTokenID, rfl⟩
  rw [hlink] at hrest ⊢
  unfold revokeRefreshTokenAndLinkedAccess
  dsimp only
  split
  · exact .ret h.behind
  · refine alike_blind h rfl fun r w w' h => ?_
    split
    · exact .ret h.behind
    · unfold Env.logEvent
      split
      · refine .call fun d _ => ?_
        exact hrest _ _ (h.audit _ d)
      · exact hrest w w' h

/-- The path of an access token. -/
theorem revokeAnyAccessToken_behind (rawToken : String) (h : w.Trails x t w') :
    LeadsBehind x t (revokeAnyAccessToken env rawToken) (revokeAnyAccessToken env rawToken) w w' := by
  refine alike_getAccessToken h (fun r w w' h => ?_) fun a w w' h hx => ?_
  · split
    · exact .ret h.behind
    · exact .ret h.behind
    · exact (revokeAccessTokenRecord_unseen env _).leadsBehind h
  · exact alike_of_idle (revokeAccessTokenRecord_idle hx) trivial h.behind

/-- **`RevokeAnyToken`.** -/
theorem revokeAnyToken_behind (rawToken tokenTypeHint : String) (h : w.Trails x t w') :
    LeadsBehind x t (revokeAnyToken env rawToken tokenTypeHint) (revokeAnyToken env rawToken tokenTypeHint)
      w w' := by
  unfold revokeAnyToken
  split
  · refine alike_getRefreshTokenByHash h (fun e w w' h => ?_) fun rt w w' h => ?_
    · cases e with
      | noRows => exact revokeAnyAccessToken_behind rawToken h
      | _ => exact .ret h.behind
    · exact revokeRefreshTokenAndLinkedAccess_behind rt h
  · exact revokeAnyAccessToken_behind rawToken h

/-- **`Revoke`** answers by the authentication alone. -/
theorem revoke_agrees (authorization : String) (form : Option (String × String)) (h : w.Trails x t w')
    (hout : w.db.Outlives env (extractBearerToken authorization)) :
    (revoke env authorization form).Alike backend Request.Fresh (Agrees x t) (revoke env authorization form)
      w w' := by
  refine .bind ((authenticateRevokeRequest_lockstep h hout).mono ?_)
  rintro a w _ w' ⟨rfl, h⟩
  cases a with
  | false => exact alike_ret h
  | true =>
    dsimp only
    split
    · exact alike_ret h
    · split
      · exact alike_ret h
      · refine .bind_ret (fun _ => rfl) (fun _ => rfl) ?_
        exact (revokeAnyToken_behind _ _ h).mono fun _ _ _ _ h => ⟨rfl, h⟩

end Revocation

/-! ### Users -/

section Users

variable {env : Env} {x : Removed} {t : Time} {w w' : World}

/-- The row of the token that a user logs out with was not removed. -/
theorem revokeRawToken_lockstep {rawToken : String} (h : w.Trails x t w')
    (hx : x.Keeps (env.lib.sha256Hex rawToken) w.db) :
    (revokeRawToken env rawToken).Lockstep backend (fun a w b w' => a = b ∧ World.Trails x t w w')
      (revokeRawToken env rawToken) w w' := by
  refine lockstep_call (h.getAccessToken_keeps hx) fun d r _ => ?_
  have hw := h.read (q := .sql (.getAccessToken (env.lib.sha256Hex rawToken))) rfl d
  dsimp only
  split
  · exact .ret ⟨rfl, hw⟩
  · exact .ret ⟨rfl, hw⟩
  · refine Unseen.lockstep (.sql rfl fun r => ?_) hw
    split <;> trivial

theorem logout_agrees {ctx : AuthContext} (h : w.Trails x t w')
    (hx : x.Keeps (env.lib.sha256Hex ctx.rawToken) w.db) :
    (logout env ctx).Alike backend Request.Fresh (Agrees x t) (logout env ctx) w w' := by
  refine .bind ((revokeRawToken_lockstep h hx).mono ?_)
  rintro a w _ w' ⟨rfl, h⟩
  exact (logoutRefreshTokens_unseen env ctx.userID).agrees h

/-- `CSRFMiddleware` passes the context on. -/
theorem csrfMiddleware_lockstep (r : HttpRequest) (ctx : Option AuthContext) (h : w.Trails x t w') :
    (csrfMiddleware r ctx).Lockstep backend
      (fun a v b v' => a = b ∧ World.Trails x t v v' ∧ v.db = w.db ∧ ∀ ctx', a = .ok ctx' → ctx' = ctx)
      (csrfMiddleware r ctx) w w' := by
  have hvalid : ∀ {cookieToken : Base64.Bytes} {ctx' : Option AuthContext},
      validateCSRF r ctx cookieToken = .ok ctx' → ctx' = ctx := by
    intro cookieToken ctx' hok
    unfold validateCSRF at hok
    split at hok
    · cases hok
    · exact (Except.ok.inj hok).symm
  unfold csrfMiddleware
  split
  · refine lockstep_call (fun d => (h.blind (q := .randBytes 32) trivial d).1) fun d bytes _ => ?_
    have hw := (h.blind (q := .randBytes 32) trivial d).2
    cases bytes with
    | none => exact .ret ⟨rfl, hw, rfl, fun _ h => (by cases h)⟩
    | some b => exact .ret ⟨rfl, hw, rfl, fun _ h => hvalid h⟩
  · exact .ret ⟨rfl, h, rfl, fun _ h => hvalid h⟩

/-- **Users.** The middlewares of the group decide alike, and a logout revokes the same row. -/
theorem serveUser_agrees (endpoint : UserEndpoint) {r : HttpRequest} (h : w.Trails x t w')
    (hout : ∀ token ∈ (requestToken r.headers).toOption, w.db.Outlives env token) :
    (serveUser env endpoint r).Alike backend Request.Fresh (Agrees x t) (serveUser env endpoint r) w w' := by
  have hchain : (chain (protectedAuth env) r none).Lockstep backend
      (fun a w b w' => a = b ∧ World.Trails x t w w' ∧
        ∀ c, a = .ok (some c) → x.Keeps (env.lib.sha256Hex c.rawToken) w.db)
      (chain (protectedAuth env) r none) w w' := by
    refine .bind ((useAuth_lockstep none h hout).mono ?_)
    rintro a w _ w' ⟨rfl, h, hkeeps⟩
    cases a with
    | error e => exact .ret ⟨rfl, h, fun _ h => (by cases h)⟩
    | ok ctx =>
      refine .bind ((csrfMiddleware_lockstep r ctx h).mono ?_)
      rintro a v _ v' ⟨rfl, h, hdb, hctx⟩
      cases a with
      | error e => exact .ret ⟨rfl, h, fun _ h => (by cases h)⟩
      | ok ctx' =>
        refine .ret ⟨rfl, h, fun c hc => ?_⟩
        obtain rfl := hctx ctx' rfl
        rw [hdb]
        exact hkeeps c hc
  refine .bind (hchain.mono ?_)
  rintro a w _ w' ⟨rfl, h, hkeeps⟩
  cases a with
  | error e => exact alike_ret h
  | ok ctx =>
    cases endpoint with
    | me => exact (getCurrentUser_unseen env ctx).agrees h
    | logout =>
      cases ctx with
      | none => exact alike_ret h
      | some c => exact .map ((logout_agrees h (hkeeps c rfl)).mono fun _ _ _ _ h => ⟨rfl, h.2⟩)

end Users

/-! ### Administrators -/

/-- The request is to one of the routes for sessions. -/
def HttpRequest.aboutSessions (r : HttpRequest) : Bool :=
  (adminEndpoint r.method r.path).any fun endpoint => endpoint.group = .sessions

section Administrators

variable {x : Removed} {t : Time} {w w' : World}

theorem chain_unseen {ms : List Middleware} (h : ∀ m ∈ ms, ∀ r ctx, Unseen (m r ctx)) (r : HttpRequest)
    (ctx : Option AuthContext) : Unseen (chain ms r ctx) := by
  induction ms generalizing ctx with
  | nil => trivial
  | cons m ms ih =>
    refine Unseen.bind (h m List.mem_cons_self r ctx) fun a => ?_
    cases a with
    | error e => trivial
    | ok ctx' => exact ih (fun m' hm' => h m' (List.mem_cons_of_mem m hm')) ctx'

/-- The middlewares of a group of administrators decide alike. -/
theorem adminGroup_lockstep {env : Env} (limits : AdminGroup → String → Bool) (g : AdminGroup)
    {r : HttpRequest} (h : w.Trails x t w')
    (hout : ∀ token ∈ (requestToken r.headers).toOption, w.db.Outlives env token) :
    (chain (g.middleware env limits) r none).Lockstep backend
      (fun a w b w' => a = b ∧ World.Trails x t w w') (chain (g.middleware env limits) r none) w w' := by
  refine .bind ((useAuth_lockstep none h hout).mono ?_)
  rintro a w _ w' ⟨rfl, h, _⟩
  cases a with
  | error e => exact .ret ⟨rfl, h⟩
  | ok ctx =>
    refine Unseen.lockstep (chain_unseen (fun m hm r ctx => ?_) r ctx) h
    simp only [List.mem_cons, List.not_mem_nil, or_false] at hm
    rcases hm with rfl | rfl | rfl
    · exact adminMiddleware_unseen env r ctx
    · exact rateLimitByUser_unseen (limits g) r ctx
    · exact csrfMiddleware_unseen r ctx

/-- The revocation of one row that a cleanup may have removed. -/
theorem sessionRevokeAuthorizationCode_behind (id : UUID) (h : w.Trails x t w') :
    LeadsBehind x t (sessionRevokeAuthorizationCode id) (sessionRevokeAuthorizationCode id) w w' := by
  cases hx : x.codes id with
  | false =>
    refine alike_call (P := fun _ => True) (fun d _ => ⟨h.getAuthorizationCodeByID d hx,
      h.read (q := .sql (.getAuthorizationCodeByID id)) rfl d, trivial⟩) fun r w w' h _ => ?_
    split
    · exact .ret h.behind
    · exact .ret h.behind
    · refine Unseen.leadsBehind (.sql rfl fun r => ?_) h
      split <;> trivial
  | true =>
    have hidle : (sessionRevokeAuthorizationCode id).Only (Request.Idle x) := by
      refine ⟨Request.Reads.idle rfl, fun r => ?_⟩
      dsimp only
      split
      · trivial
      · trivial
      · refine ⟨hx, fun r => ?_⟩
        dsimp only
        split <;> trivial
    exact alike_of_idle hidle hidle h.behind

theorem sessionRevokeAccessToken_behind (id : UUID) (h : w.Trails x t w') :
    LeadsBehind x t (sessionRevokeAccessToken id) (sessionRevokeAccessToken id) w w' := by
  cases hx : x.tokens id with
  | false =>
    refine alike_call (P := fun _ => True) (fun d _ => ⟨h.getAccessTokenByID d hx,
      h.read (q := .sql (.getAccessTokenByID id)) rfl d, trivial⟩) fun r w w' h _ => ?_
    split
    · exact .ret h.behind
    · exact .ret h.behind
    · refine Unseen.leadsBehind (.sql rfl fun r => ?_) h
      split <;> trivial
  | true =>
    have hidle : (sessionRevokeAccessToken id).Only (Request.Idle x) := by
      refine ⟨Request.Reads.idle rfl, fun r => ?_⟩
      dsimp only
      split
      · trivial
      · trivial
      · refine ⟨hx, fun r => ?_⟩
        dsimp only
        split <;> trivial
    exact alike_of_idle hidle hidle h.behind

theorem listAuthorizationCodes_reads (params : ListSessionsParams) :
    (listAuthorizationCodes params).Only Request.Reads := by
  refine ⟨rfl, fun r => ?_⟩
  dsimp only
  split
  · trivial
  · refine ⟨rfl, fun r => ?_⟩
    dsimp only
    split <;> trivial

theorem listAccessTokens_reads (params : ListSessionsParams) :
    (listAccessTokens params).Only Request.Reads := by
  refine ⟨rfl, fun r => ?_⟩
  dsimp only
  split
  · trivial
  · refine ⟨rfl, fun r => ?_⟩
    dsimp only
    split <;> trivial

/-- **The routes for sessions** may answer differently, but they leave the stores as they were to each other. -/
theorem ApiRequest.call_behind (env : AdminEnv) {req : ApiRequest} (hreq : req.session = true)
    (h : w.Trails x t w') : LeadsBehind x t (req.call env) (req.call env) w w' := by
  have hreads : ∀ {γ : Type} {p : Call γ}, p.Only Request.Reads → LeadsBehind x t p p w w' := by
    intro γ p hp
    have hidle := hp.mono fun _ hq => Request.Reads.idle (x := x) hq
    exact alike_of_idle hidle hidle h.behind
  cases req with
  | listAuthorizationCodes q =>
    refine .map ?_
    unfold listAuthorizationCodesHandler
    split
    · exact .ret h.behind
    · exact .map (hreads (listAuthorizationCodes_reads _))
  | revokeAuthorizationCode idParam =>
    refine .map ?_
    unfold revokeAuthorizationCodeHandler
    split
    · exact .ret h.behind
    · exact .map (sessionRevokeAuthorizationCode_behind _ h)
  | listAccessTokens q =>
    refine .map ?_
    unfold listAccessTokensHandler
    split
    · exact .ret h.behind
    · exact .map (hreads (listAccessTokens_reads _))
  | revokeAccessToken idParam =>
    refine .map ?_
    unfold revokeAccessTokenHandler
    split
    · exact .ret h.behind
    · exact .map (sessionRevokeAccessToken_behind _ h)
  | _ => cases hreq

/-- Two responses to a request of an administrator: they are equal, or both are those of a handler for sessions. -/
def SameAdminReply (r : HttpRequest) (a b : AdminReply ApiReply) : Prop :=
  a = b ∨ r.aboutSessions = true ∧ ∃ ra rb, a = .handled ra ∧ b = .handled rb

/-- **Administrators.** -/
theorem serveApi_alike (env : AdminEnv) (limits : AdminGroup → String → Bool) (input : AdminInput)
    {r : HttpRequest} (h : w.Trails x t w')
    (hout : ∀ token ∈ (requestToken r.headers).toOption, w.db.Outlives env.auth token) :
    (serveApi env limits input r).Alike backend Request.Fresh
      (fun a w b w' => SameAdminReply r a b ∧ w.Behind x t w') (serveApi env limits input r) w w' := by
  unfold serveApi serveAdmin
  cases hroute : adminEndpoint r.method r.path with
  | none => exact .ret ⟨Or.inl rfl, h.behind⟩
  | some endpoint =>
    refine .bind ((adminGroup_lockstep limits endpoint.group h hout).mono ?_)
    rintro a w _ w' ⟨rfl, h⟩
    cases a with
    | error e => exact .ret ⟨Or.inl rfl, h.behind⟩
    | ok ctx =>
      refine .map ?_
      have hsession := endpoint.session_request env.auth input ctx
      by_cases hgroup : endpoint.group = .sessions
      · rw [decide_eq_true hgroup] at hsession
        have habout : r.aboutSessions = true := by
          rw [HttpRequest.aboutSessions, hroute, Option.any_some, decide_eq_true hgroup]
        exact (ApiRequest.call_behind env hsession h).mono fun ra _ rb _ hb =>
          ⟨Or.inr ⟨habout, ra, rb, rfl, rfl⟩, hb⟩
      · rw [decide_eq_false hgroup] at hsession
        refine ((ApiRequest.call_unseen env hsession).agrees h).mono ?_
        rintro a w _ w' ⟨rfl, hb⟩
        exact ⟨Or.inl rfl, hb⟩

end Administrators

/-! ### All requests -/

/-- What a response shows to anyone but an administrator: nothing, if it is that of a handler for sessions. -/
def Inbound.shown : Inbound → InboundReply → Option InboundReply
  | .admin _ _ r, .admin (.handled a) => if r.aboutSessions then none else some (.admin (.handled a))
  | _, reply => some reply

theorem SameAdminReply.shown {limits : AdminGroup → String → Bool} {input : AdminInput} {r : HttpRequest}
    {a b : AdminReply ApiReply} (h : SameAdminReply r a b) :
    (Inbound.admin limits input r).shown (.admin a) = (Inbound.admin limits input r).shown (.admin b) := by
  rcases h with rfl | ⟨habout, ra, rb, rfl, rfl⟩
  · rfl
  · exact (if_pos habout).trans (if_pos habout).symm

/-- **A request.** With the same draws it is answered alike where cleanups have taken place, and the stores stay
as they were to each other. -/
theorem Inbound.call_alike (env : AdminEnv) (req : Inbound) {x : Removed} {t : Time} {w w' : World}
    (h : w.Trails x t w') (hout : ∀ token ∈ req.accessTokens, w.db.Outlives env.auth token) :
    (req.call env).Alike backend Request.Fresh
      (fun a w b w' => req.shown a = req.shown b ∧ w.Behind x t w') (req.call env) w w' := by
  have hagrees : ∀ {γ : Type} {p : Call γ} (f : γ → InboundReply),
      p.Alike backend Request.Fresh (Agrees x t) p w w' →
      (p.map f).Alike backend Request.Fresh
        (fun a w b w' => req.shown a = req.shown b ∧ w.Behind x t w') (p.map f) w w' := by
    intro γ p f hp
    refine .map (hp.mono ?_)
    rintro a w _ w' ⟨rfl, hb⟩
    exact ⟨rfl, hb⟩
  cases req with
  | token body => exact hagrees _ (tokenExchange_agrees body h)
  | login email password sourceIP => exact hagrees _ (login_agrees email password sourceIP h)
  | revoke authorization form =>
    exact hagrees _ (revoke_agrees authorization form h (hout _ List.mem_cons_self))
  | user endpoint r =>
    refine hagrees _ (serveUser_agrees endpoint h fun token htoken => hout token ?_)
    exact Option.mem_toList.mpr htoken
  | admin limits input r =>
    refine .map ((serveApi_alike env limits input h fun token htoken => hout token ?_).mono ?_)
    · exact Option.mem_toList.mpr htoken
    · intro a w b w' hab
      exact ⟨hab.1.shown, hab.2⟩

end GoauthServer
