import GoauthServer.Safety.Identities

/-!
# Where tokens come from

Every token that a client holds goes back to a user who signed in for that client. The trace of a token
is a ghost: it is not in the database, where codes are deleted and rows change, but in the logs of the
calls, which only grow. A code was stored by a callback for its client that had resolved to its user
(`CodeOrigin`). A refresh token was stored by an exchange of such a code, or by a rotation of a token
that has such a trace itself (`TokenOrigin`), and an access token likewise (`AccessOrigin`). In each of
these calls the client was authenticated, and the code was presented with its own redirect URI.

The invariant of the proof (`Traced`) says this of all rows in the tables, and of all rows that a call in
progress has read. The second part is what an interleaving needs: by the time a call stores a token, the
code or the token it has read may be used, revoked or deleted.

`tokens_have_provenance` holds for every interleaving of any operations from a database without codes
and tokens.
-/

namespace GoauthServer

open Interact Relational

/-! ### Origins -/

section Origins

variable {ι : Type} (env : Env) (ops : ι → Operation) (c : Pool backend ι Outcome)

/-- The code was stored by a callback for its client, with its redirect URI and scope, which had resolved
to its user. -/
structure CodeOrigin (code : AuthorizationCode) : Prop where
  intro ::
  callback : ∃ i providerName providerCode callbackURL,
    ops i = .handleProviderCallback code.clientID providerName providerCode callbackURL
      code.redirectUri code.scope ∧
    (∃ p stored, (⟨.sql (.createAuthorizationCode p), .ok stored⟩ : Event effects) ∈
      (c.threads i).log ∧ stored.Later code) ∧
    ∃ e ∈ (c.threads i).log, ∃ u, Event.signedIn? e = some u ∧ u.id = code.userID

/-- Call `i` is an exchange of `code`, by its authenticated client and with its redirect URI. -/
structure Exchanges (i : ι) (code : AuthorizationCode) : Prop where
  intro ::
  call : ∃ text clientSecret,
    ops i = .exchangeCodeForToken text code.clientID clientSecret code.redirectUri ∧
      Authenticated env code.clientID clientSecret (c.threads i).log
  read : ∃ e ∈ (c.threads i).log, Event.code? e = some code

/-- Call `i` is a rotation of `t`, by its authenticated client. -/
structure Rotates (i : ι) (t : RefreshToken) : Prop where
  intro ::
  call : ∃ rawToken clientID clientSecret, ops i = .rotateRefreshToken rawToken clientID clientSecret ∧
    env.lib.uuidParse clientID = some t.clientID ∧
    Authenticated env t.clientID clientSecret (c.threads i).log
  read : ∃ e ∈ (c.threads i).log, Event.record? e = some t

/-- `t` is for the client and the user of the code, with its scope, and the first of its family. -/
structure RefreshToken.FirstOf (t : RefreshToken) (code : AuthorizationCode) : Prop where
  clientID : t.clientID = code.clientID
  userID : t.userID = code.userID
  scope : t.scope = code.grantedScope
  previousTokenID : t.previousTokenID = none

/-- `t` follows `r` in its family, for the same client and user and with the same scope. -/
structure RefreshToken.Follows (t r : RefreshToken) : Prop where
  clientID : t.clientID = r.clientID
  userID : t.userID = r.userID
  scope : t.scope = r.scope
  tokenFamilyID : t.tokenFamilyID = r.tokenFamilyID
  previousTokenID : t.previousTokenID = some r.id

/-- Call `i` has stored the refresh token `t`. -/
def StoredToken (i : ι) (t : RefreshToken) : Prop :=
  ∃ p stored, (⟨.sql (.createRefreshToken p), .ok stored⟩ : Event effects) ∈ (c.threads i).log ∧
    stored.Later t

/-- Call `i` has stored the access token `a`. -/
def StoredAccess (i : ι) (a : AccessToken) : Prop :=
  ∃ p stored, (⟨.sql (.createAccessToken p), .ok stored⟩ : Event effects) ∈ (c.threads i).log ∧
    stored.Later a

/-- The refresh token goes back to the code, through a chain of rotations in its family. -/
inductive TokenOrigin (code : AuthorizationCode) : RefreshToken → Prop
  | exchanged {i : ι} {t : RefreshToken} (hcall : Exchanges env ops c i code)
    (hstored : StoredToken c i t) (hfirst : t.FirstOf code) : TokenOrigin code t
  | rotated {i : ι} {r t : RefreshToken} (hr : TokenOrigin code r) (hcall : Rotates env ops c i r)
    (hstored : StoredToken c i t) (hfollows : t.Follows r) : TokenOrigin code t

/-- The access token goes back to the code: it was stored by the exchange, or by a rotation of a refresh
token that does. -/
inductive AccessOrigin (code : AuthorizationCode) (a : AccessToken) : Prop
  | exchanged {i : ι} (hcall : Exchanges env ops c i code) (hstored : StoredAccess c i a)
    (hclient : a.clientID = some code.clientID) (huser : a.userID = code.userID)
  | rotated {i : ι} {r : RefreshToken} (hr : TokenOrigin env ops c code r)
    (hcall : Rotates env ops c i r) (hstored : StoredAccess c i a)
    (hclient : a.clientID = some r.clientID) (huser : a.userID = r.userID)

end Origins

/-! ### Chains -/

section Chains

variable {ι : Type} {env : Env} {ops : ι → Operation} {c : Pool backend ι Outcome}
  {code : AuthorizationCode} {t : RefreshToken} {i : ι} {a : AccessToken}

/-- Along a chain client, user and scope are those of the code. -/
theorem TokenOrigin.shared (h : TokenOrigin env ops c code t) :
    t.clientID = code.clientID ∧ t.userID = code.userID ∧ t.scope = code.grantedScope := by
  induction h with
  | exchanged _ _ hfirst => exact ⟨hfirst.clientID, hfirst.userID, hfirst.scope⟩
  | rotated _ _ _ hfollows ih =>
    obtain ⟨hclient, huser, hscope⟩ := ih
    exact ⟨hfollows.clientID.trans hclient, hfollows.userID.trans huser, hfollows.scope.trans hscope⟩

theorem AccessOrigin.shared (h : AccessOrigin env ops c code a) :
    a.clientID = some code.clientID ∧ a.userID = code.userID := by
  cases h with
  | exchanged _ _ hclient huser => exact ⟨hclient, huser⟩
  | rotated hr _ _ hclient huser =>
    obtain ⟨hclient', huser', _⟩ := hr.shared
    exact ⟨hclient.trans (congrArg some hclient'), huser.trans huser'⟩

/-- What may become of a row keeps its origin. -/
theorem CodeOrigin.later {code' : AuthorizationCode} (h : CodeOrigin ops c code)
    (hlater : code.Later code') : CodeOrigin ops c code' := by
  obtain ⟨i, name, providerCode, url, hop, ⟨p, stored, hmem, hstored⟩, e, he, u, hu, hid⟩ := h.callback
  refine ⟨i, name, providerCode, url, ?_, ⟨p, stored, hmem, hstored.trans hlater⟩, e, he, u, hu, ?_⟩
  · rw [hlater.clientID, hlater.redirectUri, hlater.scope]
    exact hop
  · rw [hlater.userID]
    exact hid

theorem TokenOrigin.later {t t' : RefreshToken} (h : TokenOrigin env ops c code t)
    (hlater : t.Later t') : TokenOrigin env ops c code t' := by
  cases h with
  | exchanged hcall hstored hfirst =>
    obtain ⟨p, stored, hmem, hlater₀⟩ := hstored
    refine .exchanged hcall ⟨p, stored, hmem, hlater₀.trans hlater⟩ ?_
    exact ⟨hlater.clientID.trans hfirst.clientID, hlater.userID.trans hfirst.userID,
      hlater.scope.trans hfirst.scope, hlater.previousTokenID.trans hfirst.previousTokenID⟩
  | rotated hr hcall hstored hfollows =>
    obtain ⟨p, stored, hmem, hlater₀⟩ := hstored
    refine .rotated hr hcall ⟨p, stored, hmem, hlater₀.trans hlater⟩ ?_
    exact ⟨hlater.clientID.trans hfollows.clientID, hlater.userID.trans hfollows.userID,
      hlater.scope.trans hfollows.scope, hlater.tokenFamilyID.trans hfollows.tokenFamilyID,
      hlater.previousTokenID.trans hfollows.previousTokenID⟩

theorem AccessOrigin.later {a a' : AccessToken} (h : AccessOrigin env ops c code a)
    (hlater : a.Later a') : AccessOrigin env ops c code a' := by
  cases h with
  | exchanged hcall hstored hclient huser =>
    obtain ⟨p, stored, hmem, hlater₀⟩ := hstored
    exact .exchanged hcall ⟨p, stored, hmem, hlater₀.trans hlater⟩ (hlater.clientID.trans hclient)
      (hlater.userID.trans huser)
  | rotated hr hcall hstored hclient huser =>
    obtain ⟨p, stored, hmem, hlater₀⟩ := hstored
    exact .rotated hr hcall ⟨p, stored, hmem, hlater₀.trans hlater⟩ (hlater.clientID.trans hclient)
      (hlater.userID.trans huser)

/-! ### Logs only grow -/

variable {c' : Pool backend ι Outcome}

/-- Everything that the calls have done in `c` they have done in `c'`. -/
def LogsGrow (c c' : Pool backend ι Outcome) : Prop :=
  ∀ i, ∀ e ∈ (c.threads i).log, e ∈ (c'.threads i).log

theorem CodeOrigin.mono (hgrow : LogsGrow c c') (h : CodeOrigin ops c code) : CodeOrigin ops c' code := by
  obtain ⟨i, name, providerCode, url, hop, ⟨p, stored, hmem, hstored⟩, e, he, u, hu, hid⟩ := h.callback
  exact ⟨i, name, providerCode, url, hop, ⟨p, stored, hgrow i _ hmem, hstored⟩, e, hgrow i e he, u, hu, hid⟩

theorem Exchanges.mono (hgrow : LogsGrow c c') (h : Exchanges env ops c i code) :
    Exchanges env ops c' i code := by
  obtain ⟨⟨text, secret, hop, client, hmem, hclient⟩, e, he, hcode⟩ := h
  exact ⟨⟨text, secret, hop, client, hgrow i _ hmem, hclient⟩, e, hgrow i e he, hcode⟩

theorem Rotates.mono (hgrow : LogsGrow c c') (h : Rotates env ops c i t) : Rotates env ops c' i t := by
  obtain ⟨⟨raw, text, secret, hop, hparse, client, hmem, hclient⟩, e, he, hrecord⟩ := h
  exact ⟨⟨raw, text, secret, hop, hparse, client, hgrow i _ hmem, hclient⟩, e, hgrow i e he, hrecord⟩

theorem StoredToken.mono (hgrow : LogsGrow c c') (h : StoredToken c i t) : StoredToken c' i t := by
  obtain ⟨p, stored, hmem, hlater⟩ := h
  exact ⟨p, stored, hgrow i _ hmem, hlater⟩

theorem StoredAccess.mono (hgrow : LogsGrow c c') (h : StoredAccess c i a) : StoredAccess c' i a := by
  obtain ⟨p, stored, hmem, hlater⟩ := h
  exact ⟨p, stored, hgrow i _ hmem, hlater⟩

theorem TokenOrigin.mono (hgrow : LogsGrow c c')
    (h : TokenOrigin env ops c code t) : TokenOrigin env ops c' code t := by
  induction h with
  | exchanged hcall hstored hfirst => exact .exchanged (hcall.mono hgrow) (hstored.mono hgrow) hfirst
  | rotated _ hcall hstored hfollows ih =>
    exact .rotated ih (hcall.mono hgrow) (hstored.mono hgrow) hfollows

theorem AccessOrigin.mono (hgrow : LogsGrow c c')
    (h : AccessOrigin env ops c code a) : AccessOrigin env ops c' code a := by
  cases h with
  | exchanged hcall hstored hclient huser =>
    exact .exchanged (hcall.mono hgrow) (hstored.mono hgrow) hclient huser
  | rotated hr hcall hstored hclient huser =>
    exact .rotated (hr.mono hgrow) (hcall.mono hgrow) (hstored.mono hgrow) hclient huser

end Chains

/-! ### The invariant -/

/-- All rows, in the tables and in the hands of the calls, have an origin. -/
structure Traced {ι : Type} (env : Env) (ops : ι → Operation) (c : Pool backend ι Outcome) : Prop where
  codes : ∀ code ∈ c.world.db.authorizationCodes.rows, CodeOrigin ops c code
  tokens : ∀ t ∈ c.world.db.refreshTokens.rows,
    ∃ code, CodeOrigin ops c code ∧ TokenOrigin env ops c code t
  access : ∀ a ∈ c.world.db.accessTokens.rows, a.clientID ≠ none →
    ∃ code, CodeOrigin ops c code ∧ AccessOrigin env ops c code a
  readCodes : ∀ i code, readCode (c.threads i).log = some code → CodeOrigin ops c code
  readRecords : ∀ i t, readRecord (c.threads i).log = some t →
    ∃ code, CodeOrigin ops c code ∧ TokenOrigin env ops c code t
  users : ∀ i, LoadedUser (ops i) (c.threads i).log

/-- What was looked up is in the log. -/
theorem mem_of_readCode {log : Log effects} {code : AuthorizationCode} (h : readCode log = some code) :
    ∃ e ∈ log, Event.code? e = some code := List.exists_of_findSome?_eq_some h

theorem mem_of_readRecord {log : Log effects} {t : RefreshToken} (h : readRecord log = some t) :
    ∃ e ∈ log, Event.record? e = some t := List.exists_of_findSome?_eq_some h

section Grounds

variable {ι : Type} {env : Env} {ops : ι → Operation} {c : Pool backend ι Outcome} {i : ι}

/-- What an exchange rests on when it stores a token: its own code, presented by its client. -/
theorem Traced.exchange (h : Traced env ops c) {text clientSecret redirectURI : String} {clientID : UUID}
    (hop : ops i = .exchangeCodeForToken text clientID clientSecret redirectURI)
    (hgrant : CodeGrant env clientID clientSecret redirectURI (c.threads i).log) {code : AuthorizationCode}
    (hread : readCode (c.threads i).log = some code) {u : User} (huser : readUser (c.threads i).log = some u) :
    CodeOrigin ops c code ∧ Exchanges env ops c i code ∧ u.id = code.userID := by
  obtain ⟨hauth, code', hread', rfl, rfl⟩ := hgrant
  obtain rfl : code' = code := Option.some.inj (hread'.symm.trans hread)
  obtain ⟨code'', hread'', hid⟩ := (h.users i).exchange _ _ _ _ hop u huser
  obtain rfl : code'' = code' := Option.some.inj (hread''.symm.trans hread)
  exact ⟨h.readCodes i _ hread, ⟨⟨text, clientSecret, hop, hauth⟩, mem_of_readCode hread⟩, hid⟩

/-- What a rotation rests on when it stores a token: its own refresh token, presented by its client. -/
theorem Traced.rotation (h : Traced env ops c) {rawToken clientID clientSecret : String}
    (hop : ops i = .rotateRefreshToken rawToken clientID clientSecret)
    (hgrant : ∃ cid, TokenGrant env clientID clientSecret cid (c.threads i).log) {r : RefreshToken}
    (hread : readRecord (c.threads i).log = some r) {u : User} (huser : readUser (c.threads i).log = some u) :
    (∃ code, CodeOrigin ops c code ∧ TokenOrigin env ops c code r) ∧ Rotates env ops c i r ∧
      u.id = r.userID := by
  obtain ⟨cid, hparse, hauth, r', hread', rfl⟩ := hgrant
  obtain rfl : r' = r := Option.some.inj (hread'.symm.trans hread)
  obtain ⟨r'', hread'', hid⟩ := (h.users i).rotation _ _ _ hop u huser
  obtain rfl : r'' = r' := Option.some.inj (hread''.symm.trans hread)
  exact ⟨h.readRecords i _ hread,
    ⟨⟨rawToken, clientID, clientSecret, hop, hparse, hauth⟩, mem_of_readRecord hread⟩, hid⟩

end Grounds

section Step

variable {ι : Type} [DecidableEq ι] {env : Env} {ops : ι → Operation} {c : Pool backend ι Outcome}
  {i : ι} {d : Draw} {q : Request} {k : q.Reply → Call Outcome}

theorem logsGrow_step (c : Pool backend ι Outcome) (i : ι) (d : Draw) : LogsGrow c (c.step i d) :=
  fun _ _ => Pool.mem_log_step

/-- A code that this step stores. -/
theorem Traced.code_step (hi : (c.threads i).prog = .call q k)
    (hq : ((ops i).fullProtocol env).request q (c.threads i).log) (h : Traced env ops c)
    {code : AuthorizationCode} (hmem : code ∈ (respond q d c.world).2.db.authorizationCodes.rows) :
    CodeOrigin ops (c.step i d) code := by
  have hgrow := logsGrow_step c i d
  rcases respond_authorizationCode_stored hmem with ⟨old, hold, hlater⟩ | ⟨p, rfl, rfl, hr⟩
  · exact ((h.codes old hold).later hlater).mono hgrow
  · obtain ⟨clientID, name, providerCode, url, uri, scope, hop⟩ :=
      Operation.eq_of_createAuthorizationCode hq.1
    unfold Operation.fullProtocol at hq
    rw [hop] at hq
    obtain ⟨⟨u, hin, huser⟩, hclient, huri, hscope⟩ := hq
    obtain ⟨e, he, hsigned⟩ := List.exists_of_findSome?_eq_some hin
    refine ⟨i, name, providerCode, url, ?_, ⟨p, _, ?_, .refl _⟩, e, hgrow i e he, u, hsigned, huser.symm⟩
    · rw [hop]
      simp only [CreateAuthorizationCodeParams.row, hclient, huri, hscope]
    · rw [step_log hi, hr]
      exact List.mem_cons_self

/-- A refresh token that this step stores. -/
theorem Traced.token_step (hi : (c.threads i).prog = .call q k)
    (hq : ((ops i).fullProtocol env).request q (c.threads i).log) (h : Traced env ops c)
    {t : RefreshToken} (hmem : t ∈ (respond q d c.world).2.db.refreshTokens.rows) :
    ∃ code, CodeOrigin ops (c.step i d) code ∧ TokenOrigin env ops (c.step i d) code t := by
  have hgrow := logsGrow_step c i d
  rcases respond_refreshToken_stored hmem with ⟨old, hold, hlater⟩ | ⟨p, rfl, rfl, hr⟩
  · obtain ⟨code, hcode, horigin⟩ := h.tokens old hold
    exact ⟨code, hcode.mono hgrow, (horigin.later hlater).mono hgrow⟩
  have hstored : StoredToken (c.step i d) i (p.row (c.world.wait d.wait).now d.uuid) := by
    refine ⟨p, _, ?_, .refl _⟩
    rw [step_log hi, hr]
    exact List.mem_cons_self
  rcases Operation.eq_of_createRefreshToken hq.1 with
    ⟨rawToken, clientID, clientSecret, hop⟩ | ⟨text, clientID, clientSecret, redirectURI, hop⟩
  · unfold Operation.fullProtocol at hq
    rw [hop] at hq
    obtain ⟨⟨r, u, a, hread, _, _, _, huser, _, hp⟩, hgrant⟩ := hq
    obtain ⟨⟨code, hcode, horigin⟩, hcall, hid⟩ := h.rotation hop hgrant hread huser
    refine ⟨code, hcode.mono hgrow, .rotated (horigin.mono hgrow) (hcall.mono hgrow) hstored ?_⟩
    exact ⟨hp.clientID, hp.userID.trans hid, hp.scope, hp.tokenFamilyID, hp.previousTokenID⟩
  · unfold Operation.fullProtocol at hq
    rw [hop] at hq
    obtain ⟨⟨code, u, a, F, hread, _, _, _, huser, _, _, hp⟩, hgrant⟩ := hq
    obtain ⟨hcode, hcall, hid⟩ := h.exchange hop hgrant hread huser
    refine ⟨code, hcode.mono hgrow, .exchanged (hcall.mono hgrow) hstored ?_⟩
    exact ⟨hp.clientID, hp.userID.trans hid, hp.scope, hp.previousTokenID⟩

/-- An access token that this step stores. -/
theorem Traced.access_step (hi : (c.threads i).prog = .call q k)
    (hq : ((ops i).fullProtocol env).request q (c.threads i).log) (h : Traced env ops c) {a : AccessToken}
    (hmem : a ∈ (respond q d c.world).2.db.accessTokens.rows) (hclient : a.clientID ≠ none) :
    ∃ code, CodeOrigin ops (c.step i d) code ∧ AccessOrigin env ops (c.step i d) code a := by
  have hgrow := logsGrow_step c i d
  rcases respond_accessToken_stored hmem with ⟨old, hold, hlater⟩ | ⟨p, rfl, rfl, hr⟩
  · rw [hlater.clientID] at hclient
    obtain ⟨code, hcode, horigin⟩ := h.access old hold hclient
    exact ⟨code, hcode.mono hgrow, (horigin.later hlater).mono hgrow⟩
  have hstored : StoredAccess (c.step i d) i (p.row (c.world.wait d.wait).now d.uuid) := by
    refine ⟨p, _, ?_, .refl _⟩
    rw [step_log hi, hr]
    exact List.mem_cons_self
  rcases Operation.eq_of_createAccessToken hq.1 with
    ⟨email, password, sourceIP, hop⟩ | ⟨challengeToken, newPassword, hop⟩ |
    ⟨rawToken, clientID, clientSecret, hop⟩ | ⟨text, clientID, clientSecret, redirectURI, hop⟩
  all_goals
    unfold Operation.fullProtocol at hq
    rw [hop] at hq
  -- the tokens of the direct login are of no client
  · exact absurd hq.2.1 hclient
  · exact absurd hq.2.1 hclient
  · obtain ⟨⟨r, u, token, now, hread, _, _, huser, _, _, _, rfl⟩, hgrant⟩ := hq
    obtain ⟨⟨code, hcode, horigin⟩, hcall, hid⟩ := h.rotation hop hgrant hread huser
    exact ⟨code, hcode.mono hgrow, .rotated (horigin.mono hgrow) (hcall.mono hgrow) hstored rfl hid⟩
  · obtain ⟨⟨code, u, token, now, hread, _, _, huser, _, _, _, rfl⟩, hgrant⟩ := hq
    obtain ⟨hcode, hcall, hid⟩ := h.exchange hop hgrant hread huser
    exact ⟨code, hcode.mono hgrow, .exchanged (hcall.mono hgrow) hstored rfl hid⟩

/-- **One request of one call** keeps everything traced. -/
theorem Traced.step (hi : (c.threads i).prog = .call q k)
    (hq : ((ops i).fullProtocol env).request q (c.threads i).log) (h : Traced env ops c) :
    Traced env ops (c.step i d) where
  codes := by
    rw [Pool.step_world_of_call hi]
    exact fun code hmem => h.code_step hi hq hmem
  tokens := by
    rw [Pool.step_world_of_call hi]
    exact fun t hmem => h.token_step hi hq hmem
  access := by
    rw [Pool.step_world_of_call hi]
    exact fun a hmem hclient => h.access_step hi hq hmem hclient
  readCodes := by
    intro j code hread
    refine CodeOrigin.mono (logsGrow_step c i d) ?_
    by_cases hij : j = i
    · subst hij
      rw [step_log hi] at hread
      -- the call had the code before, or has just read a row
      rcases readCode_respond hread with hold | ⟨_, _, hmem, _⟩
      · exact h.readCodes j code hold
      · exact h.codes code hmem
    · rw [Pool.step_threads_of_ne hij] at hread
      exact h.readCodes j code hread
  readRecords := by
    intro j t hread
    suffices horigin : ∃ code, CodeOrigin ops c code ∧ TokenOrigin env ops c code t by
      obtain ⟨code, hcode, ht⟩ := horigin
      exact ⟨code, hcode.mono (logsGrow_step c i d), ht.mono (logsGrow_step c i d)⟩
    by_cases hij : j = i
    · subst hij
      rw [step_log hi] at hread
      rcases readRecord_respond hread with hold | ⟨_, _, hmem, _⟩
      · exact h.readRecords j t hold
      · exact h.tokens t hmem
    · rw [Pool.step_threads_of_ne hij] at hread
      exact h.readRecords j t hread
  users := by
    refine Pool.forall_log_step (J := fun j log _ => LoadedUser (ops j) log) hi ?_ ?_ h.users
    · exact fun hj => hj.step hq.1
    · exact fun j _ hj => hj

end Step

/-! ### All runs -/

/-- The database has no codes and no tokens. -/
structure Store.NoGrants (s : Store) : Prop where
  codes : s.authorizationCodes.rows = []
  accessTokens : s.accessTokens.rows = []
  refreshTokens : s.refreshTokens.rows = []

/-- Nothing is stored and nothing is read before the first step. -/
theorem Traced.start {ι : Type} (env : Env) (ops : ι → Operation) {w : World} (hw : w.db.NoGrants) :
    Traced env ops (operations env ops w) where
  codes code hmem := by
    rw [show (operations env ops w).world = w from rfl, hw.codes] at hmem
    cases hmem
  tokens t hmem := by
    rw [show (operations env ops w).world = w from rfl, hw.refreshTokens] at hmem
    cases hmem
  access a hmem := by
    rw [show (operations env ops w).world = w from rfl, hw.accessTokens] at hmem
    cases hmem
  readCodes _ _ hread := by cases hread
  readRecords _ _ hread := by cases hread
  users _ := ⟨fun _ _ _ _ _ _ hu => (by cases hu), fun _ _ _ _ _ hu => (by cases hu)⟩

/-- **Provenance.** After any interleaving of any operations, from a database without codes and tokens:
every refresh token, and every access token of a client, goes back through a chain of rotations in one
family to one code, which a callback for the same client stored after it had resolved to the same user.
Each request on the way was authenticated as that client, the refresh tokens have the scope of the code,
and the exchange presented its redirect URI. -/
theorem tokens_have_provenance {ι : Type} [DecidableEq ι] (env : Env) (ops : ι → Operation) (w : World)
    (hw : w.db.NoGrants) (ls : List (ι × Draw)) :
    (∀ t ∈ ((operations env ops w).run ls).world.db.refreshTokens.rows, ∃ code,
      CodeOrigin ops ((operations env ops w).run ls) code ∧
      TokenOrigin env ops ((operations env ops w).run ls) code t ∧
      t.clientID = code.clientID ∧ t.userID = code.userID ∧ t.scope = code.grantedScope) ∧
    ∀ a ∈ ((operations env ops w).run ls).world.db.accessTokens.rows, a.clientID ≠ none → ∃ code,
      CodeOrigin ops ((operations env ops w).run ls) code ∧
      AccessOrigin env ops ((operations env ops w).run ls) code a ∧
      a.clientID = some code.clientID ∧ a.userID = code.userID := by
  have htraced : Traced env ops ((operations env ops w).run ls) :=
    Pool.invariant_of_step (fun c i d q k hi hq h => h.step hi hq) (operations_obeys_full env ops w)
      (.start env ops hw) ls
  refine ⟨fun t ht => ?_, fun a ha hclient => ?_⟩
  · obtain ⟨code, hcode, horigin⟩ := htraced.tokens t ht
    exact ⟨code, hcode, horigin, horigin.shared⟩
  · obtain ⟨code, hcode, horigin⟩ := htraced.access a ha hclient
    exact ⟨code, hcode, horigin, horigin.shared⟩

section Examples

open Deployment

/-- A database without codes and tokens, in which `ann` is known to the provider. -/
def annAtGoogle : Store :=
  { providerStore with
    users := ⟨[{ ann with provider := some "google", providerID := some "42" }],
      List.pairwise_singleton _ _⟩
    authorizationCodes := ⟨[], List.Pairwise.nil⟩
    accessTokens := ⟨[], List.Pairwise.nil⟩
    refreshTokens := ⟨[], List.Pairwise.nil⟩ }

/-- `ann` signs in at the provider, and `app` exchanges the code. -/
def annSignsIn : Bool → Operation
  | true => .handleProviderCallback 1 "google" "code" "https://auth.example/callback"
      "https://app.example/callback" (some "offline_access")
  | false => .exchangeCodeForToken "BwgJCgsMDQ4PEBESExQVFhcYGRobHB0eHyAhIiMkJSY" 1 "s3cret"
      "https://app.example/callback"

/-- The callback and then the exchange, each to its end. -/
def annSchedule : List (Bool × Draw) :=
  List.replicate 10 (true, answer 7 20 "42" "ann@example.com") ++ turns 13 false

/-- The refresh token that the exchange stores goes back to the callback. -/
theorem tokens_have_provenance_ann :
    annAtGoogle.NoGrants ∧ ∃ t code,
      t ∈ ((operations providerEnv annSignsIn ⟨0, annAtGoogle⟩).run
        annSchedule).world.db.refreshTokens.rows ∧
      CodeOrigin annSignsIn ((operations providerEnv annSignsIn ⟨0, annAtGoogle⟩).run annSchedule)
        code ∧
      TokenOrigin providerEnv annSignsIn
        ((operations providerEnv annSignsIn ⟨0, annAtGoogle⟩).run annSchedule) code t := by
  have hnone : annAtGoogle.NoGrants := ⟨rfl, rfl, rfl⟩
  have hstored : ((operations providerEnv annSignsIn ⟨0, annAtGoogle⟩).run
      annSchedule).world.db.refreshTokens.rows ≠ [] := by
    decide +kernel
  obtain ⟨t, ht⟩ := List.exists_mem_of_ne_nil _ hstored
  obtain ⟨code, hcode, horigin, _⟩ :=
    (tokens_have_provenance providerEnv annSignsIn ⟨0, annAtGoogle⟩ hnone annSchedule).1 t ht
  exact ⟨hnone, t, code, ht, hcode, horigin⟩

end Examples

end GoauthServer
