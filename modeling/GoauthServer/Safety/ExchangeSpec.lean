import GoauthServer.Safety.Families
import GoauthServer.Spec.Success

/-!
# The exchange of a code, as a whole

`exchangeCodeForToken_spec` is the specification of `ExchangeCodeForToken` where the surroundings do their
part: every statement is answered with a row or with `ErrNoRows`, random bytes and signatures are given,
and `uuid.New()` returns the identifier of no family (`Undisturbed`). Then the call succeeds exactly if the
client, the code and the user of the code pass the checks; on success the tables have changed as
`Exchanged` says and in nothing else; and where no code passes the checks they have not changed at all.

The run is cut at the last check. Before it (`exchangeCodeForToken_cases`) the call only reads, and the
rows it has read are the ones the conditions speak of, since identifiers and codes are unique. After it
(`redeemCode_effect`) only a missing user can make it fail.
-/

namespace GoauthServer

open Interact Relational GoTime

/-! ### The specification -/

/-- The client has presented its secret. -/
structure AcceptedClient (env : Env) (s : Store) (clientID : UUID) (clientSecret : String)
    (client : Client) : Prop where
  mem : client ∈ s.clients.rows
  id : client.id = clientID
  isActive : client.isActive = some true
  secret : client.clientSecretHash = env.lib.sha256Hex clientSecret

/-- The code passes the checks at the time `now`. -/
structure ValidCode (c : AuthorizationCode) (clientID : UUID) (redirectURI : String) (now : Time) :
    Prop where
  isRevoked : c.isRevoked ≠ some true
  usedAt : c.usedAt = none
  expiresAt : now ≤ c.expiresAt
  clientID : c.clientID = clientID
  redirectUri : c.redirectUri = redirectURI

/-- The code is in the table, and it passes the checks. -/
structure AcceptedCode (s : Store) (code : String) (clientID : UUID) (redirectURI : String) (now : Time)
    (c : AuthorizationCode) : Prop where
  mem : c ∈ s.authorizationCodes.rows
  code : c.code = code
  valid : ValidCode c clientID redirectURI now

/-- The client may have a refresh token for the code. -/
def Client.mayRefresh (client : Client) (c : AuthorizationCode) : Bool :=
  client.allowRefreshTokens && Text.contains "offline_access".toList c.grantedScope.toList

/-- `a` is the row of the access token that was returned. -/
structure IssuedAccess (env : Env) (clientID : UUID) (c : AuthorizationCode) (resp : TokenResponse)
    (a : AccessToken) : Prop where
  tokenHash : a.tokenHash = env.lib.sha256Hex resp.accessToken
  clientID : a.clientID = some clientID
  userID : a.userID = c.userID
  scope : a.scope = c.scope

/-- `t` is the row of the refresh token that was returned: the first of a new family. -/
structure IssuedRefresh (env : Env) (before : Table RefreshToken) (clientID : UUID)
    (c : AuthorizationCode) (resp : TokenResponse) (a : AccessToken) (t : RefreshToken) : Prop where
  tokenHash : t.tokenHash = env.lib.sha256Hex resp.refreshToken
  clientID : t.clientID = clientID
  userID : t.userID = c.userID
  previousTokenID : t.previousTokenID = none
  accessTokenID : t.accessTokenID = some a.id
  family : ∀ t' ∈ before.rows, t'.tokenFamilyID ≠ t.tokenFamilyID

/-- **What an exchange changes.** -/
structure Exchanged (env : Env) (client : Client) (clientID : UUID) (c : AuthorizationCode)
    (s s' : Store) (resp : TokenResponse) : Prop where
  codes : ∃ now, s'.authorizationCodes.rows = s.authorizationCodes.rows.map fun r =>
    if r.id == c.id then { r with usedAt := some now } else r
  tokens : ∃ a, s'.accessTokens.rows = s.accessTokens.rows ++ [a] ∧
    IssuedAccess env clientID c resp a ∧
    if client.mayRefresh c then
      ∃ t, s'.refreshTokens.rows = s.refreshTokens.rows ++ [t] ∧
        IssuedRefresh env s.refreshTokens clientID c resp a t
    else s'.refreshTokens = s.refreshTokens ∧ resp.refreshToken = ""
  clients : s'.clients = s.clients
  users : s'.users = s.users

/-- The surroundings do their part. -/
def Undisturbed (q : Request) (d : Draw) (w : World) : Prop := Answered q d w ∧ FreshFamily q d w

instance (q : Request) (d : Draw) (w : World) : Decidable (Undisturbed q d w) :=
  inferInstanceAs (Decidable (_ ∧ _))

/-! ### Answers -/

section Answers

variable {d : Draw} {w : World}

/-- The code that is marked was read before. -/
theorem respond_markAuthorizationCodeUsed_answered {c : AuthorizationCode}
    (h : Answered (.sql (.markAuthorizationCodeUsed c.id)) d w) (hc : c ∈ w.db.authorizationCodes.rows) :
    ∃ r, respond (.sql (.markAuthorizationCodeUsed c.id)) d w = (.ok r,
      ⟨(w.wait d.wait).now, { w.db with
        authorizationCodes := w.db.authorizationCodes.update (fun r => r.id == c.id)
          (fun r => { r with usedAt := some (w.wait d.wait).now }) fun _ => rfl }⟩) := by
  obtain ⟨a, ha⟩ : ∃ a, w.db.authorizationCodes.select (fun r => r.id == c.id) = some a := by
    by_contra hnone
    have hnone' := Table.select_eq_none.mp (Option.eq_none_iff_forall_ne_some.mpr fun a ha =>
      hnone ⟨a, ha⟩) c hc
    exact hnone' (beq_self_eq_true c.id)
  rw [respond_sql _ h.fault]
  simp only [Query.exec, updateOne, Table.returning, ha, Option.map_some]
  exact ⟨_, rfl⟩

end Answers

/-! ### After the checks -/

section Effect

-- what is stored is of interest where `uuid.New()` has returned the identifier of no family
variable {C : (q : Request) → Draw → World → Prop} (hC : ∀ q d w, C q d w → Answered q d w) {fresh : Prop}
  (hfresh : fresh → ∀ d w, C .newUUID d w → FreshFamily .newUUID d w) {env : Env} {w : World}
  {c : AuthorizationCode}

include hC hfresh

/-- **The refresh token.** One row is added, and the rest of the tables stays. -/
theorem issueRefreshToken_effect (clientID : UUID) {user : User}
    (huser : user.id = c.userID) (a : AccessToken) (tokenString : String) :
    (issueRefreshToken env clientID c user a tokenString).Ensures backend C
      (fun r w' => ∃ resp t table log, r = .ok resp ∧ resp.accessToken = tokenString ∧
        w'.db = { w.db with refreshTokens := table, auditLog := log } ∧
        table.rows = w.db.refreshTokens.rows ++ [t] ∧
        (fresh → IssuedRefresh env w.db.refreshTokens clientID c resp a t)) w := by
  unfold issueRefreshToken
  refine ensures_randBytes hC fun bytes m => .call fun d hd => .call fun d' _ => .call fun e he => ?_
  obtain ⟨table, hrows, hresp⟩ := respond_createRefreshToken_answered (hC _ _ _ he)
  rw [show Backend.respond backend (.sql _) e _ = _ from hresp]
  refine ensures_logEvent_ret fun w' hlog => ?_
  obtain ⟨log, hlog⟩ := hlog
  exact ⟨_, _, table, log, rfl, rfl, hlog, hrows, fun hf => ⟨rfl, rfl, huser, rfl, rfl, (hfresh hf d _ hd :)⟩⟩

/-- **The access token**, and the refresh token if there is one. -/
theorem issueTokens_effect (client : Client) (clientID : UUID) {user : User}
    (huser : user.id = c.userID) (tokenString : String) :
    (issueTokens env client clientID c user tokenString).Ensures backend C (fun r w' => ∃ resp, r = .ok resp ∧
        w'.db.authorizationCodes = w.db.authorizationCodes ∧ w'.db.clients = w.db.clients ∧
        w'.db.users = w.db.users ∧
        ∃ a, w'.db.accessTokens.rows = w.db.accessTokens.rows ++ [a] ∧
          IssuedAccess env clientID c resp a ∧ (fresh → if client.mayRefresh c then
              ∃ t, w'.db.refreshTokens.rows = w.db.refreshTokens.rows ++ [t] ∧
                IssuedRefresh env w.db.refreshTokens clientID c resp a t
            else w'.db.refreshTokens = w.db.refreshTokens ∧ resp.refreshToken = "")) w := by
  unfold issueTokens
  refine .call fun d _ => .call fun e he => ?_
  obtain ⟨table, hrows, hresp⟩ := respond_createAccessToken_answered (hC _ _ _ he)
  rw [show Backend.respond backend (.sql _) e _ = _ from hresp]
  dsimp only
  show Prog.Ensures backend C (if client.mayRefresh c then _ else _) _ _
  cases hmay : client.mayRefresh c with
  | true =>
    rw [if_pos rfl]
    refine (issueRefreshToken_effect hC hfresh clientID huser _ tokenString).mono ?_
    rintro r w' ⟨resp, t, rtable, log, rfl, htok, hdb, hrt, hissued⟩
    refine ⟨resp, rfl, ?_⟩
    rw [hdb]
    exact ⟨rfl, rfl, rfl, _, hrows, ⟨by rw [htok]; rfl, rfl, huser, rfl⟩, fun hf => ⟨t, hrt, hissued hf⟩⟩
  | false =>
    rw [if_neg Bool.false_ne_true]
    exact .ret ⟨_, rfl, rfl, rfl, rfl, _, hrows, ⟨rfl, rfl, huser, rfl⟩, fun _ => ⟨rfl, rfl⟩⟩

/-- **After the checks** the exchange does all that it should, unless the user is missing. -/
theorem redeemCode_outcome (hsign : env.Signs) (client : Client) (clientID : UUID)
    (hc : c ∈ w.db.authorizationCodes.rows) : (redeemCode env client clientID c).Ensures backend C
      (fun r w' => ((∃ u ∈ w.db.users.rows, u.id = c.userID) ∧
          ∃ resp, r = .ok resp ∧ (fresh → Exchanged env client clientID c w.db w'.db resp)) ∨
        (¬ ∃ u ∈ w.db.users.rows, u.id = c.userID) ∧ ∃ e, r = .error e) w := by
  unfold redeemCode
  refine .call fun d hd => ?_
  obtain ⟨r, hmark⟩ := respond_markAuthorizationCodeUsed_answered (hC _ _ _ hd) hc
  rw [show Backend.respond backend (.sql _) d w = _ from hmark]
  refine ensures_getUserByID hC (fun u hu hid n => ?_) fun hnone _ => .ret (Or.inr ⟨hnone, _, rfl⟩)
  refine .bind ((generateAccessToken_effect hC hsign _ _).mono ?_)
  rintro r' w₁ ⟨⟨tokenString, rfl⟩, hdb⟩
  refine (issueTokens_effect hC hfresh client clientID hid tokenString).mono ?_
  rintro r'' w' ⟨resp, rfl, hcodes, hclients, husers, a, haccess, hissued, hrefresh⟩
  rw [hdb] at hcodes hclients husers haccess hrefresh
  refine Or.inl ⟨⟨u, hu, hid⟩, resp, rfl, fun hf => ⟨⟨(w.wait d.wait).now, ?_⟩,
    ⟨a, haccess, hissued, hrefresh hf⟩, hclients, husers⟩⟩
  rw [hcodes]
  rfl

omit hC hfresh

theorem redeemCode_effect (hsign : env.Signs) (client : Client) (clientID : UUID)
    (hc : c ∈ w.db.authorizationCodes.rows) : (redeemCode env client clientID c).Ensures backend Undisturbed
      (fun r w' => ((∃ u ∈ w.db.users.rows, u.id = c.userID) ∧
          ∃ resp, r = .ok resp ∧ Exchanged env client clientID c w.db w'.db resp) ∨
        (¬ ∃ u ∈ w.db.users.rows, u.id = c.userID) ∧ ∃ e, r = .error e) w := by
  have h := redeemCode_outcome (w := w) (C := Undisturbed) (fun _ _ _ h => h.1) (fun (_ : True) _ _ h => h.2)
    hsign client clientID hc
  exact h.mono fun r w' hr => hr.imp_left fun ⟨hu, resp, hresp, hex⟩ => ⟨hu, resp, hresp, hex trivial⟩

end Effect

/-! ### The checks -/

/-- The time at which the code is checked: the clock is read with the third request of the call. -/
def checkedAt (ds : ℕ → Draw) (w : World) : Time :=
  (((w.wait (ds 0).wait).wait (ds 1).wait).wait (ds 2).wait).now

section Checks

variable {env : Env} {code : String} {clientID : UUID} {clientSecret redirectURI : String}
  {ds : ℕ → Draw} {w : World} {s : Store} {client : Client} {c : AuthorizationCode}
  {r : Except AuthError TokenResponse × World}

/-- The accepted client is the one that is found. -/
theorem AcceptedClient.select (h : AcceptedClient env s clientID clientSecret client) :
    s.clients.select (fun c => c.id == clientID) = some client := by
  refine Table.select_eq_some h.mem (beq_iff_eq.mpr h.id) fun a ha => ?_
  exact decide_eq_true ((beq_iff_eq.mp ha).trans h.id.symm)

/-- The accepted code is the one that is found. -/
theorem AcceptedCode.select {now : Time} (h : AcceptedCode s code clientID redirectURI now c) :
    s.authorizationCodes.select (fun c => c.code == code) = some c := by
  refine Table.select_eq_some h.mem (beq_iff_eq.mpr h.code) fun a ha => ?_
  have hcode : a.code = c.code := (beq_iff_eq.mp ha).trans h.code.symm
  simp [Keyed.clash, Keyed.key, hcode]

theorem checkCode_none_iff {now : Time} : checkCode c clientID redirectURI now = none ↔
      now ≤ c.expiresAt ∧ c.clientID = clientID ∧ c.redirectUri = redirectURI := by
  unfold checkCode
  split
  · next h => simp [not_le.mpr h]
  next hexp =>
  split
  · next h => simp [h]
  next hclient =>
  split
  · next h => simp [h]
  · next h => simp [not_lt.mp hexp, not_not.mp hclient, not_not.mp h]

/-- The call goes on to redeem the code `c` for `client`, with the tables as they were. -/
def Redeems (env : Env) (clientID : UUID) (client : Client) (c : AuthorizationCode) (s : Store)
    (r : Except AuthError TokenResponse × World) : Prop :=
  ∃ ds w, w.db = s ∧ (redeemCode env client clientID c).Along backend Undisturbed ds w ∧
    r = (redeemCode env client clientID c).run backend ds w

/-- The call has failed, with the tables as they were. -/
def Refuses (s : Store) (r : Except AuthError TokenResponse × World) : Prop :=
  (∃ e, r.1 = .error e) ∧ r.2.db = s

/-- **The checks on the code.** -/
theorem exchangeAuthorized_cases
    (h : (exchangeAuthorized env code client clientID redirectURI).Along backend Undisturbed ds w)
    (hr : (exchangeAuthorized env code client clientID redirectURI).run backend ds w = r) :
    (∃ c, AcceptedCode w.db code clientID redirectURI
        ((w.wait (ds 0).wait).wait (ds 1).wait).now c ∧ Redeems env clientID client c w.db r) ∨
      (¬ ∃ c, AcceptedCode w.db code clientID redirectURI
        ((w.wait (ds 0).wait).wait (ds 1).wait).now c) ∧ Refuses w.db r := by
  unfold exchangeAuthorized at h hr
  have hf := h.1.1.fault
  rw [along_sql _ _ hf] at h
  rw [run_sql _ _ hf] at hr
  replace h := h.2
  simp only [Query.exec, selectOne] at h hr
  cases hcode : w.db.authorizationCodes.select (fun c => c.code == code) with
  | none =>
    rw [hcode] at hr
    obtain rfl := hr
    refine Or.inr ⟨?_, ⟨_, rfl⟩, rfl⟩
    rintro ⟨c, hc⟩
    rw [hc.select] at hcode
    cases hcode
  | some c =>
    rw [hcode] at h hr
    have hfound : ∀ c' now, AcceptedCode w.db code clientID redirectURI now c' → c' = c :=
      fun c' now hc => Option.some.inj (hc.select.symm.trans hcode)
    simp only at h hr
    by_cases hrevoked : c.isRevoked = some true
    · rw [if_pos hrevoked] at hr
      obtain rfl := hr
      refine Or.inr ⟨?_, ⟨_, rfl⟩, rfl⟩
      rintro ⟨c', hc⟩
      exact hc.valid.isRevoked (hfound c' _ hc ▸ hrevoked)
    rw [if_neg hrevoked] at h hr
    by_cases hused : c.usedAt.isSome = true
    · rw [if_pos hused] at hr
      obtain rfl := hr
      refine Or.inr ⟨?_, ⟨_, rfl⟩, rfl⟩
      rintro ⟨c', hc⟩
      rw [← hfound c' _ hc, hc.valid.usedAt] at hused
      cases hused
    rw [if_neg hused] at h hr
    rw [run_now] at hr
    replace h := h.2
    -- the clock is read, and the other checks are made at that time
    change (exchangeTimed env client clientID redirectURI c
      ((w.wait (ds 0).wait).wait (ds 1).wait).now).run backend (fun n => ds (n + 2))
        ((w.wait (ds 0).wait).wait (ds 1).wait) = r at hr
    change (exchangeTimed env client clientID redirectURI c
      ((w.wait (ds 0).wait).wait (ds 1).wait).now).Along backend Undisturbed (fun n => ds (n + 2))
        ((w.wait (ds 0).wait).wait (ds 1).wait) at h
    unfold exchangeTimed at h hr
    cases hcheck : checkCode c clientID redirectURI ((w.wait (ds 0).wait).wait (ds 1).wait).now with
    | some e =>
      rw [hcheck] at hr
      obtain rfl := hr
      refine Or.inr ⟨?_, ⟨_, rfl⟩, rfl⟩
      rintro ⟨c', hc⟩
      have hnone := checkCode_none_iff.mpr ⟨hc.valid.expiresAt, hc.valid.clientID, hc.valid.redirectUri⟩
      rw [hfound c' _ hc, hcheck] at hnone
      cases hnone
    | none =>
      rw [hcheck] at h hr
      obtain ⟨hexp, hcid, huri⟩ := checkCode_none_iff.mp hcheck
      have hunused : c.usedAt = none := by simpa using hused
      exact Or.inl ⟨c, ⟨Table.mem_of_select hcode, by simpa using Table.prop_of_select hcode,
        hrevoked, hunused, hexp, hcid, huri⟩, fun n => ds (n + 2),
        (w.wait (ds 0).wait).wait (ds 1).wait, rfl, h, hr.symm⟩

/-- **Up to the last check** the call only reads. -/
theorem exchangeCodeForToken_cases
    (h : (exchangeCodeForToken env code clientID clientSecret redirectURI).Along backend Undisturbed ds w)
    (hr : (exchangeCodeForToken env code clientID clientSecret redirectURI).run backend ds w = r) :
    (∃ client c, AcceptedClient env w.db clientID clientSecret client ∧
        AcceptedCode w.db code clientID redirectURI (checkedAt ds w) c ∧
        Redeems env clientID client c w.db r) ∨
      ¬ ((∃ client, AcceptedClient env w.db clientID clientSecret client) ∧
          ∃ c, AcceptedCode w.db code clientID redirectURI (checkedAt ds w) c) ∧ Refuses w.db r := by
  rw [exchangeCodeForToken_eq] at h hr
  have hf := h.1.1.fault
  rw [along_sql _ _ hf] at h
  rw [run_sql _ _ hf] at hr
  replace h := h.2
  simp only [Query.exec, selectOne] at h hr
  cases hsel : w.db.clients.select (fun c => c.id == clientID) with
  | none =>
    rw [hsel] at hr
    obtain rfl := hr
    refine Or.inr ⟨?_, ⟨_, rfl⟩, rfl⟩
    rintro ⟨⟨client, hclient⟩, _⟩
    rw [hclient.select] at hsel
    cases hsel
  | some client =>
    rw [hsel] at h hr
    have hfound : ∀ client', AcceptedClient env w.db clientID clientSecret client' → client' = client :=
      fun client' hc => Option.some.inj (hc.select.symm.trans hsel)
    simp only at h hr
    by_cases hactive : client.isActive = some true
    swap
    · rw [if_pos hactive] at hr
      obtain rfl := hr
      refine Or.inr ⟨?_, ⟨_, rfl⟩, rfl⟩
      rintro ⟨⟨client', hc⟩, _⟩
      exact hactive (hfound client' hc ▸ hc.isActive)
    rw [if_neg (not_not.mpr hactive)] at h hr
    by_cases hsecret : client.clientSecretHash = env.lib.sha256Hex clientSecret
    swap
    · rw [if_pos hsecret] at hr
      obtain rfl := hr
      refine Or.inr ⟨?_, ⟨_, rfl⟩, rfl⟩
      rintro ⟨⟨client', hc⟩, _⟩
      exact hsecret (hfound client' hc ▸ hc.secret)
    rw [if_neg (not_not.mpr hsecret)] at h hr
    have hclient : AcceptedClient env w.db clientID clientSecret client :=
      ⟨Table.mem_of_select hsel, by simpa using Table.prop_of_select hsel, hactive, hsecret⟩
    rcases exchangeAuthorized_cases h hr with ⟨c, hc, hredeems⟩ | ⟨hnone, hrefuses⟩
    · exact Or.inl ⟨client, c, hclient, hc, hredeems⟩
    · exact Or.inr ⟨fun hboth => hnone hboth.2, hrefuses⟩

/-- **The specification of the exchange.** -/
theorem exchangeCodeForToken_spec (hsign : env.Signs)
    (h : (exchangeCodeForToken env code clientID clientSecret redirectURI).Along backend Undisturbed ds w)
    {r : Except AuthError TokenResponse × World}
    (hr : (exchangeCodeForToken env code clientID clientSecret redirectURI).run backend ds w = r) :
    ((∃ resp, r.1 = .ok resp) ↔
      ∃ client c u, AcceptedClient env w.db clientID clientSecret client ∧
        AcceptedCode w.db code clientID redirectURI (checkedAt ds w) c ∧
        u ∈ w.db.users.rows ∧ u.id = c.userID) ∧
    (∀ resp, r.1 = .ok resp → ∃ client c, AcceptedClient env w.db clientID clientSecret client ∧
      AcceptedCode w.db code clientID redirectURI (checkedAt ds w) c ∧
      Exchanged env client clientID c w.db r.2.db resp) ∧
    ((¬ ∃ c, AcceptedCode w.db code clientID redirectURI (checkedAt ds w) c) → r.2.db = w.db) := by
  rcases exchangeCodeForToken_cases h hr with
    ⟨client, c, hclient, hc, ds', w', hdb, halong, rfl⟩ | ⟨hnone, ⟨e, he⟩, hsame⟩
  · have hmem : c ∈ w'.db.authorizationCodes.rows := hdb ▸ hc.mem
    have heffect := redeemCode_effect hsign client clientID hmem ds' halong
    rw [hdb] at heffect
    rcases heffect with ⟨⟨u, hu, hid⟩, resp, hresp, hexchanged⟩ | ⟨hno, e, he⟩
    · refine ⟨⟨fun _ => ⟨client, c, u, hclient, hc, hu, hid⟩, fun _ => ⟨resp, hresp⟩⟩, ?_,
        fun hnone => absurd ⟨c, hc⟩ hnone⟩
      intro resp' hresp'
      obtain rfl : resp = resp' := Except.ok.inj (hresp.symm.trans hresp')
      exact ⟨client, c, hclient, hc, hexchanged⟩
    · -- the user of the code is missing
      have hfails : ¬ ∃ resp, (Prog.run backend (redeemCode env client clientID c) ds' w').1 = .ok resp := by
        rintro ⟨resp, hresp⟩
        rw [he] at hresp
        cases hresp
      refine ⟨⟨fun hok => absurd hok hfails, ?_⟩, fun resp hresp => absurd ⟨resp, hresp⟩ hfails,
        fun hnone => absurd ⟨c, hc⟩ hnone⟩
      rintro ⟨_, c', u, _, hc', hu, hid⟩
      obtain rfl : c' = c := Option.some.inj (hc'.select.symm.trans hc.select)
      exact absurd ⟨u, hu, hid⟩ hno
  · have hfails : ¬ ∃ resp, r.1 = .ok resp := by
      rintro ⟨resp, hresp⟩
      rw [he] at hresp
      cases hresp
    refine ⟨⟨fun hok => absurd hok hfails, ?_⟩, fun resp hresp => absurd ⟨resp, hresp⟩ hfails,
      fun _ => hsame⟩
    rintro ⟨client, c, _, hclient, hc, _⟩
    exact absurd ⟨⟨client, hclient⟩, c, hc⟩ hnone

end Checks

/-- The client exchanges the code of `ann`: the call succeeds, and the tables change as specified. -/
theorem exchangeCodeForToken_spec_ann :
    (∃ resp client c, ((exchangeCodeForToken Deployment.env "auth-code" 1 "s3cret"
        "https://app.example/callback").run backend (fun _ => Deployment.draw 7 20)
          ⟨0, Deployment.store⟩).1 = .ok resp ∧
      Exchanged Deployment.env client 1 c Deployment.store
        ((exchangeCodeForToken Deployment.env "auth-code" 1 "s3cret"
          "https://app.example/callback").run backend (fun _ => Deployment.draw 7 20)
            ⟨0, Deployment.store⟩).2.db resp) := by
  have hsign : Deployment.env.Signs := fun _ _ => Option.some_ne_none _
  have halong : (exchangeCodeForToken Deployment.env "auth-code" 1 "s3cret"
      "https://app.example/callback").Along backend Undisturbed (fun _ => Deployment.draw 7 20)
        ⟨0, Deployment.store⟩ := by decide +kernel
  obtain ⟨hsucceeds, hchanges, -⟩ := exchangeCodeForToken_spec hsign halong rfl
  have hclient : AcceptedClient Deployment.env Deployment.store 1 "s3cret" Deployment.app := by
    refine ⟨?_, ?_, ?_, ?_⟩ <;> decide +kernel
  have hcode : AcceptedCode Deployment.store "auth-code" 1 "https://app.example/callback"
      (checkedAt (fun _ => Deployment.draw 7 20) ⟨0, Deployment.store⟩) Deployment.annCode := by
    refine ⟨?_, ?_, ?_, ?_, ?_, ?_, ?_⟩ <;> decide +kernel
  obtain ⟨resp, hresp⟩ := hsucceeds.mpr
    ⟨Deployment.app, Deployment.annCode, Deployment.ann, hclient, hcode, by decide +kernel, by decide +kernel⟩
  obtain ⟨client, c, -, -, hexchanged⟩ := hchanges resp hresp
  exact ⟨resp, client, c, hresp, hexchanged⟩

end GoauthServer
