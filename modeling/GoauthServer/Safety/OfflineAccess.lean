import GoauthServer.Safety.ExchangeSpec

/-!
# Refresh tokens and the scope `offline_access`

A scope is a list of values with blanks between them, and a refresh token is meant for those who were granted
`offline_access`. `ExchangeCodeForToken` does not split the scope: it looks for `offline_access` anywhere in the
text. So what a successful exchange issues is decided by `Client.mayRefresh` (`exchangeCodeForToken_issues`), and
this is as it should be unless `offline_access` stands inside of longer values only (`refresh_token_scope_iff`).

Nothing is assumed of the run: any statement may fail and time may pass. A failure that the call reports is not a
success, and the audit event, whose failure it does not report, goes to another table.
-/

namespace GoauthServer

open Interact Relational

variable {resp : TokenResponse} {bs : Base64.Bytes}

/-! ### What is issued -/

/-- The values of a scope. -/
def scopeValues (scope : String) : List String := (scope.toList.splitOn ' ').map String.ofList

/-- A refresh token is returned, and its row is the one that was added to the table. -/
structure RefreshIssued (env : Env) (before after : Table RefreshToken) (resp : TokenResponse) : Prop where
  token : resp.refreshToken ≠ ""
  row : ∃ t, after.rows = before.rows ++ [t] ∧ t.tokenHash = env.lib.sha256Hex resp.refreshToken

/-- No refresh token is returned, and none is stored. -/
structure NoneIssued (before after : Table RefreshToken) (resp : TokenResponse) : Prop where
  token : resp.refreshToken = ""
  rows : after = before

/-- A refresh token is issued if `offline` holds, and none otherwise. -/
structure IssuedExactly (env : Env) (before after : Table RefreshToken) (resp : TokenResponse)
    (offline : Prop) : Prop where
  issued : offline → RefreshIssued env before after resp
  none : ¬ offline → NoneIssued before after resp

/-- The two outcomes exclude each other. -/
theorem NoneIssued.not_issued {env : Env} {before after : Table RefreshToken}
    (h : NoneIssued before after resp) : ¬ RefreshIssued env before after resp :=
  fun h' => h'.token h.token

/-- What is issued says what it was issued for. -/
theorem IssuedExactly.congr_iff {env : Env} {before after : Table RefreshToken}
    {P Q : Prop} (h : IssuedExactly env before after resp P) :
    IssuedExactly env before after resp Q ↔ (P ↔ Q) := by
  constructor
  · intro h'
    constructor
    · intro hP
      by_contra hQ
      exact (h'.none hQ).not_issued (h.issued hP)
    · intro hQ
      by_contra hP
      exact (h.none hP).not_issued (h'.issued hQ)
  · intro hiff
    exact ⟨fun hQ => h.issued (hiff.mpr hQ), fun hQ => h.none fun hP => hQ (hiff.mp hP)⟩

/-! ### What an exchange issues -/

theorem encode_ne_nil (A : Base64.Alphabet) (h : bs ≠ []) : Base64.encode A bs ≠ [] := by
  unfold Base64.encode
  rw [Ne, List.map_eq_nil_iff]
  fun_cases Base64.toSextets bs with
  | case1 => exact absurd rfl h
  | _ => exact List.cons_ne_nil _ _

theorem secureToken_ne_empty (h : bs ≠ []) : secureToken bs ≠ "" := by
  unfold secureToken
  rw [Ne, String.ofList_eq_empty_iff]
  exact encode_ne_nil _ h

/-- The row of a refresh token that was stored. -/
theorem respond_createRefreshToken_ok {p : CreateRefreshTokenParams} {d : Draw} {w : World} {t : RefreshToken}
    (h : (respond (.sql (.createRefreshToken p)) d w).1 = .ok t) :
    (respond (.sql (.createRefreshToken p)) d w).2.db.refreshTokens.rows = w.db.refreshTokens.rows ++ [t] ∧
      t.tokenHash = p.tokenHash := by
  rcases respond_createRefreshToken d w p with ⟨e, herr, _⟩ | ⟨table, hins, hok, htable⟩
  · rw [herr] at h
    cases h
  · obtain rfl := Except.ok.inj (hok.symm.trans h)
    rw [htable]
    exact ⟨(Table.insert_eq_some hins).1, rfl⟩

/-- The call failed, or it issued what it should. -/
def IssuedOnSuccess (env : Env) (before : Table RefreshToken) (offline : Prop)
    (r : Except AuthError TokenResponse) (w : World) : Prop :=
  ∀ resp, r = .ok resp → IssuedExactly env before w.db.refreshTokens resp offline

section Stages

variable {env : Env} {w : World} {before : Table RefreshToken}

theorem issuedOnSuccess_error {offline : Prop} {e : AuthError} :
    IssuedOnSuccess env before offline (.error e) w := by
  intro resp h
  cases h

/-- **A statement on other tables.** -/
theorem ensures_elsewhere {α : Type} {Q : α → World → Prop} {q : Query} {k : Except DBError q.Row → Call α}
    (hq : ∀ now fresh s, (q.exec now fresh s).2.refreshTokens = s.refreshTokens)
    (hw : w.db.refreshTokens = before)
    (hok : ∀ r w', w'.db.refreshTokens = before → (k (.ok r)).Ensures backend anyRequest Q w')
    (herr : ∀ e w', (k (.error e)).Ensures backend anyRequest Q w') :
    (Call.sql q k).Ensures backend anyRequest Q w := by
  refine ensures_statement (fun d r hr => hok r _ ?_) fun d e _ => herr e _
  rw [(respond_sql_ok hr).2.2, hq, hw]

/-- A refresh token that is returned was stored. -/
theorem issueRefreshToken_issues (clientID : UUID) (c : AuthorizationCode) (user : User) (a : AccessToken)
    (tokenString : String) (hw : w.db.refreshTokens = before) :
    (issueRefreshToken env clientID c user a tokenString).Ensures backend anyRequest
      (IssuedOnSuccess env before True) w := by
  refine ensures_random (fun d => .call fun _ _ => .call fun _ _ => ?_) fun _ => .ret issuedOnSuccess_error
  refine ensures_statement (fun e t ht => ensures_logEvent_ret ?_) fun _ _ _ => .ret issuedOnSuccess_error
  rintro w' ⟨log, hlog⟩ resp hresp
  obtain rfl := Except.ok.inj hresp
  obtain ⟨hrows, hhash⟩ := respond_createRefreshToken_ok ht
  have hbytes : (List.range 32).map d.bytes ≠ [] := by simp
  have hadded : w'.db.refreshTokens.rows = before.rows ++ [t] := by
    rw [hlog, ← hw]
    exact hrows
  exact ⟨fun _ => ⟨secureToken_ne_empty hbytes, t, hadded, hhash⟩, fun hno => absurd trivial hno⟩

/-- The access token is stored, and then the scope decides. -/
theorem issueTokens_issues (client : Client) (clientID : UUID) (c : AuthorizationCode) (user : User)
    (tokenString : String) (hw : w.db.refreshTokens = before) :
    (issueTokens env client clientID c user tokenString).Ensures backend anyRequest
      (IssuedOnSuccess env before (client.mayRefresh c = true)) w := by
  refine .call fun d _ => ensures_elsewhere (w := (respond .now d w).2) (fun _ _ _ => rfl) hw (fun a w' hsame => ?_)
    fun _ _ => .ret issuedOnSuccess_error
  show Prog.Ensures backend anyRequest (if client.mayRefresh c then _ else _) _ _
  cases client.mayRefresh c with
  | true =>
    refine (issueRefreshToken_issues clientID c user a tokenString hsame).mono fun r w' hr resp hresp => ?_
    exact ⟨fun _ => (hr resp hresp).issued trivial, fun hno => absurd rfl hno⟩
  | false =>
    refine .ret fun resp hresp => ⟨fun h => absurd h Bool.false_ne_true, fun _ => ?_⟩
    obtain rfl := Except.ok.inj hresp
    exact ⟨rfl, hsame⟩

theorem generateAccessToken_refreshTokens (userID email : String) (hw : w.db.refreshTokens = before) :
    (generateAccessToken env userID email).Ensures backend anyRequest
      (fun _ w' => w'.db.refreshTokens = before) w := by
  refine .call fun _ _ => ensures_random (fun d => ?_) fun _ => .ret hw
  dsimp only
  split
  · exact .ret hw
  · exact .ret hw

theorem redeemCode_issues (client : Client) (clientID : UUID) (c : AuthorizationCode)
    (hw : w.db.refreshTokens = before) :
    (redeemCode env client clientID c).Ensures backend anyRequest
      (IssuedOnSuccess env before (client.mayRefresh c = true)) w := by
  refine ensures_elsewhere (fun _ _ _ => rfl) hw (fun _ w₁ hw₁ => ?_) fun _ _ => .ret issuedOnSuccess_error
  refine ensures_elsewhere (fun _ _ _ => rfl) hw₁ (fun user w₂ hw₂ => ?_) fun _ _ => .ret issuedOnSuccess_error
  refine .bind ((generateAccessToken_refreshTokens _ _ hw₂).mono fun r w' hw' => ?_)
  cases r with
  | error e => exact .ret issuedOnSuccess_error
  | ok tokenString => exact issueTokens_issues client clientID c user tokenString hw'

/-- **What an exchange issues**, to the client and for the code that it has read. -/
theorem exchangeCodeForToken_issues {code : String} {clientID : UUID} (clientSecret redirectURI : String)
    {client : Client} (hclient : client ∈ w.db.clients.rows) (hid : client.id = clientID) {c : AuthorizationCode}
    (hc : c ∈ w.db.authorizationCodes.rows) (hcode : c.code = code) :
    (exchangeCodeForToken env code clientID clientSecret redirectURI).Ensures backend anyRequest
      (IssuedOnSuccess env w.db.refreshTokens (client.mayRefresh c = true)) w := by
  rw [exchangeCodeForToken_eq]
  refine ensures_statement (fun d client' hfound => ?_) fun _ e _ => by cases e <;> exact .ret issuedOnSuccess_error
  have hdb : (respond (.sql (.getClient clientID)) d w).2.db = w.db :=
    respond_of_reads (q := .sql (.getClient clientID)) rfl d w
  -- the client that was found is the one with this identifier
  obtain ⟨hmem, hbeq⟩ := selectOne_ok (respond_sql_ok hfound).2.1
  have hsame : client.id = client'.id := hid.trans (beq_iff_eq.mp hbeq).symm
  obtain rfl : client = client' := Table.eq_of_clash hclient hmem (decide_eq_true hsame)
  dsimp only
  split
  · exact .ret issuedOnSuccess_error
  split
  · exact .ret issuedOnSuccess_error
  rw [exchangeAuthorized_eq]
  refine ensures_statement (fun d' c' hread => ?_) fun _ e _ => by cases e <;> exact .ret issuedOnSuccess_error
  have hdb' : (respond (.sql (.getAuthorizationCode code)) d' _).2.db = w.db :=
    (respond_of_reads (q := .sql (.getAuthorizationCode code)) rfl d' _).trans hdb
  -- and so is the code
  obtain ⟨hmem', hcode'⟩ := respond_getAuthorizationCode hread
  rw [hdb] at hmem'
  obtain rfl : c = c' := Store.code_eq hc hmem' (Or.inr (hcode.trans hcode'.symm))
  unfold exchangeFound
  dsimp only
  split
  · exact .ret issuedOnSuccess_error
  split
  · exact .ret issuedOnSuccess_error
  refine .call fun _ _ => ?_
  unfold exchangeTimed
  split
  · exact .ret issuedOnSuccess_error
  · exact redeemCode_issues client clientID c (congrArg Store.refreshTokens hdb')

end Stages

/-! ### What should be issued -/

/-- Where `offline_access` is one of the values it is also found in the text. -/
theorem infix_of_mem_scopeValues {value scope : String} (h : value ∈ scopeValues scope) :
    value.toList <:+: scope.toList := by
  obtain ⟨piece, hpiece, rfl⟩ := List.mem_map.mp h
  rw [String.toList_ofList]
  exact Text.infix_of_mem_splitOn hpiece

theorem mayRefresh_iff {client : Client} {c : AuthorizationCode} : client.mayRefresh c = true ↔
      client.allowRefreshTokens = true ∧ "offline_access".toList <:+: c.grantedScope.toList := by
  unfold Client.mayRefresh
  rw [Bool.and_eq_true, Text.contains_iff_infix]

/-- **Refresh tokens for `offline_access`.** A successful exchange issues a refresh token exactly for the clients
that may have one and the scopes that have `offline_access` among their values, if and only if this is not a
client that may have one and a scope in which `offline_access` is a part of the text but not a value. -/
theorem refresh_token_scope_iff {env : Env} {code : String} {clientID : UUID} {clientSecret redirectURI : String}
    {ds : ℕ → Draw} {w : World} {resp : TokenResponse} {client : Client} {c : AuthorizationCode}
    (hsuccess : ((exchangeCodeForToken env code clientID clientSecret redirectURI).run backend ds w).1 = .ok resp)
    (hclient : client ∈ w.db.clients.rows) (hid : client.id = clientID)
    (hc : c ∈ w.db.authorizationCodes.rows) (hcode : c.code = code) :
    IssuedExactly env w.db.refreshTokens
        ((exchangeCodeForToken env code clientID clientSecret redirectURI).run backend ds w).2.db.refreshTokens resp
        (client.allowRefreshTokens = true ∧ "offline_access" ∈ scopeValues c.grantedScope) ↔
      ¬ (client.allowRefreshTokens = true ∧ "offline_access".toList <:+: c.grantedScope.toList ∧
        "offline_access" ∉ scopeValues c.grantedScope) := by
  have hissued := (exchangeCodeForToken_issues clientSecret redirectURI hclient hid hc hcode).run ds resp hsuccess
  rw [hissued.congr_iff, mayRefresh_iff]
  have hinfix : "offline_access" ∈ scopeValues c.grantedScope →
      "offline_access".toList <:+: c.grantedScope.toList := infix_of_mem_scopeValues
  tauto

section Examples

open Deployment

/-- `ann`'s code, with this scope. -/
def scopedCode (scope : Option String) : AuthorizationCode := { annCode with scope := scope }

/-- The exchange of this code. -/
def exchangeScoped (scope : Option String) : Except AuthError TokenResponse × World :=
  (exchangeCodeForToken env "auth-code" 1 "s3cret" "https://app.example/callback").run backend
    (fun _ => draw 7 20)
    ⟨0, { store with authorizationCodes := ⟨[scopedCode scope], List.pairwise_singleton _ _⟩ }⟩

theorem refresh_token_scope_iff_openid :
    ∃ resp, (exchangeScoped (some "openid offline_access")).1 = .ok resp ∧
      IssuedExactly env store.refreshTokens (exchangeScoped (some "openid offline_access")).2.db.refreshTokens resp
        (app.allowRefreshTokens = true ∧ "offline_access" ∈ scopeValues "openid offline_access") := by
  obtain ⟨resp, hresp⟩ : ∃ resp, (exchangeScoped (some "openid offline_access")).1 = .ok resp := ⟨_, rfl⟩
  have happ : app ∈ store.clients.rows := by decide +kernel
  have hcode : scopedCode (some "openid offline_access") ∈ [scopedCode (some "openid offline_access")] :=
    List.mem_singleton_self _
  exact ⟨resp, hresp, (refresh_token_scope_iff hresp happ rfl hcode rfl).mpr (by decide +kernel)⟩

/-- **A scope that only looks like it.** The code was granted `no_offline_access`, and a refresh token is issued. -/
theorem refresh_token_without_offline_access :
    ∃ resp, (exchangeScoped (some "openid no_offline_access")).1 = .ok resp ∧
      "offline_access" ∉ scopeValues "openid no_offline_access" ∧
      ¬ IssuedExactly env store.refreshTokens
        (exchangeScoped (some "openid no_offline_access")).2.db.refreshTokens resp
        (app.allowRefreshTokens = true ∧ "offline_access" ∈ scopeValues "openid no_offline_access") := by
  have hvalues : "offline_access" ∉ scopeValues "openid no_offline_access" := by decide +kernel
  obtain ⟨resp, hresp, htoken⟩ : ∃ resp, (exchangeScoped (some "openid no_offline_access")).1 = .ok resp ∧
      resp.refreshToken ≠ "" := ⟨_, rfl, by decide +kernel⟩
  refine ⟨resp, hresp, hvalues, fun hexact => ?_⟩
  exact htoken (hexact.none fun hboth => hvalues hboth.2).token

end Examples

end GoauthServer
