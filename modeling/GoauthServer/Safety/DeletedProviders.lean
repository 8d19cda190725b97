import GoauthServer.Safety.AccessRevocation
import GoauthServer.Safety.ProviderConfinement
import GoauthServer.Safety.RedirectUris
import GoauthServer.Spec.Apart
import GoauthServer.Spec.Providers

/-!
# What a deleted provider leaves behind

`DELETE FROM oauth_providers` takes the authorization codes of the provider with it, and nothing else: the
token tables have no column for the provider. So a code of the provider cannot be exchanged from then on, and a
token that goes back to such a code lives on, unless it was revoked before.

Which tokens go back to the provider is a ghost (`Descent`): it is computed along the run from what the calls
have read (`descend`). The deletion does what it is expected to do where there is nothing left to invalidate
(`Undone`): all tokens that go back to the provider are revoked or have expired, and no call is about to store
another one. That this stays so is an invariant of the rest of the run (`Gone`).
-/

namespace GoauthServer

open Interact Relational

/-! ### Provenance -/

/-- Which tokens go back to a code of the provider, by their digests. -/
structure Descent where
  access : String → Bool
  refresh : String → Bool

/-- What the call has read goes back to the provider: an exchange a code of it, a rotation a token that does. -/
def Grounded (p : UUID) (g : Descent) : ServerOperation → Log effects → Bool
  | .auth (.exchangeCodeForToken _ _ _ _), log => (readCode log).any fun code => code.providerID == p
  | .auth (.rotateRefreshToken _ _ _), log => (readRecord log).any fun t => g.refresh t.tokenHash
  | _, _ => false

section Ghost

variable {ι : Type} (ops : ι → ServerOperation) (p : UUID)

/-- A token that a call stores goes back to the provider if what the call has read does. -/
def descend (c : Pool backend ι ServerReply) (i : ι) (d : Draw) (g : Descent) : Descent :=
  match c.next? i with
  | some (.sql (.createAccessToken params)) =>
    match (respond (.sql (.createAccessToken params)) d c.world).1 with
    | .ok a =>
      { g with access := Function.update g.access a.tokenHash (Grounded p g (ops i) (c.threads i).log) }
    | .error _ => g
  | some (.sql (.createRefreshToken params)) =>
    match (respond (.sql (.createRefreshToken params)) d c.world).1 with
    | .ok t =>
      { g with refresh := Function.update g.refresh t.tokenHash (Grounded p g (ops i) (c.threads i).log) }
    | .error _ => g
  | _ => g

/-- The tokens that go back to the provider after a schedule. -/
abbrev descendants [DecidableEq ι] (g : Descent) (c : Pool backend ι ServerReply) (ls : List (ι × Draw)) :
    Descent :=
  Pool.ghost (descend ops p) g c ls

variable {ops p} {c : Pool backend ι ServerReply} {i : ι} {d : Draw} {g : Descent}

theorem descend_done (h : c.next? i = none) : descend ops p c i d g = g := by
  unfold descend
  rw [h]

/-- An access token that goes back to the provider did so before, or this step has stored it. -/
theorem descend_access {h : String} (hg : (descend ops p c i d g).access h = true) :
    g.access h = true ∨ ∃ params a, c.next? i = some (.sql (.createAccessToken params)) ∧
      (respond (.sql (.createAccessToken params)) d c.world).1 = .ok a ∧ a.tokenHash = h ∧
      Grounded p g (ops i) (c.threads i).log = true := by
  unfold descend at hg
  split at hg
  · next params hnext =>
    split at hg
    · next a ha =>
      dsimp only at hg
      by_cases heq : h = a.tokenHash
      · subst heq
        rw [Function.update_self] at hg
        exact Or.inr ⟨params, a, hnext, ha, rfl, hg⟩
      · rw [Function.update_of_ne heq] at hg
        exact Or.inl hg
    · exact Or.inl hg
  · split at hg <;> exact Or.inl hg
  · exact Or.inl hg

/-- A refresh token that goes back to the provider did so before, or this step has stored it. -/
theorem descend_refresh {h : String} (hg : (descend ops p c i d g).refresh h = true) :
    g.refresh h = true ∨ ∃ params, c.next? i = some (.sql (.createRefreshToken params)) ∧
      Grounded p g (ops i) (c.threads i).log = true := by
  unfold descend at hg
  split at hg
  · split at hg <;> exact Or.inl hg
  · next params hnext =>
    split at hg
    · next t ht =>
      dsimp only at hg
      by_cases heq : h = t.tokenHash
      · subst heq
        rw [Function.update_self] at hg
        exact Or.inr ⟨params, hnext, hg⟩
      · rw [Function.update_of_ne heq] at hg
        exact Or.inl hg
    · exact Or.inl hg
  · exact Or.inl hg

/-- A refresh token that this step stores is as the call that stores it. -/
theorem descend_stored {params : CreateRefreshTokenParams} {t : RefreshToken}
    (hnext : c.next? i = some (.sql (.createRefreshToken params)))
    (ht : (respond (.sql (.createRefreshToken params)) d c.world).1 = .ok t) :
    (descend ops p c i d g).refresh t.tokenHash = Grounded p g (ops i) (c.threads i).log := by
  unfold descend
  rw [hnext]
  dsimp only
  rw [ht]
  exact Function.update_self ..

end Ghost

/-! ### The calls -/

/-- What an operation may do about tokens. -/
def ServerOperation.tokenProtocol (env : WebEnv) : ServerOperation → Protocol effects ServerReply
  | .auth op => ⟨op.request env.auth, fun r log => ∃ outcome, r = .auth outcome ∧ op.result env.auth outcome log⟩
  | _ => ⟨fun q _ => q.Apart, fun r _ => ∀ outcome, r ≠ .auth outcome⟩

theorem ServerOperation.tokenProtocol_obeys (env : WebEnv) (admin : AdminEnv) (op : ServerOperation) :
    (op.call env admin).Obeys (op.tokenProtocol env) [] := by
  -- an operation that is apart, under a name for its result
  have hother : ∀ {α : Type} {call : Call α} {f : α → ServerReply}, Apart call →
      (∀ a outcome, f a ≠ .auth outcome) → (call.map f).Obeys
        ⟨fun q _ => Request.Apart q, fun r _ => ∀ outcome, r ≠ ServerReply.auth outcome⟩ [] := by
    intro α call f hcall hf
    have hobeys : call.Obeys ⟨fun q _ => Request.Apart q, fun _ _ => True⟩ [] :=
      Prog.Only.obeys (fun _ _ h => h) (fun _ _ => trivial) hcall []
    exact hobeys.map (fun _ _ h => h) fun a _ _ => hf a
  cases op with
  | auth op => exact (op.obeys env.auth).map (fun _ _ h => h) fun r _ h => ⟨r, rfl, h⟩
  | webLogin r => exact hother (webLogin_apart env r) fun _ _ h => by cases h
  | webCallback r => exact hother (webCallback_apart env r) fun _ _ h => by cases h
  | client op => exact hother (clientOperation_apart admin op) fun _ _ h => by cases h
  | provider op => exact hother (providerOperation_apart admin op) fun _ _ h => by cases h

/-- The call will not store a token on the strength of what it has read of the provider: an exchange has read a
code of it and not redeemed it, a rotation has found the token revoked. -/
def Stale (p : UUID) (g : Descent) : ServerOperation → Log effects → Prop
  | .auth (.exchangeCodeForToken _ _ _ _), log =>
    ∀ code, readCode log = some code → code.providerID = p → redeemed log = false
  | .auth (.rotateRefreshToken _ _ _), log =>
    ∀ t, readRecord log = some t → g.refresh t.tokenHash = true → t.isRevoked = true
  | _, _ => True

section Calls

variable {env : WebEnv} {p : UUID} {g : Descent} {op : ServerOperation} {log : Log effects}

theorem Stale.not_grounded_of_redeemed {code : AuthorizationCode} {text clientSecret redirectURI : String}
    {clientID : UUID} (h : Stale p g (.auth (.exchangeCodeForToken text clientID clientSecret redirectURI)) log)
    (hread : readCode log = some code) (hred : redeemed log = true) :
    Grounded p g (.auth (.exchangeCodeForToken text clientID clientSecret redirectURI)) log = false := by
  have hne : code.providerID ≠ p := by
    intro hp
    rw [h code hread hp] at hred
    cases hred
  simp [Grounded, hread, hne]

theorem Stale.not_grounded_of_live {t : RefreshToken} {rawToken clientID clientSecret : String}
    (h : Stale p g (.auth (.rotateRefreshToken rawToken clientID clientSecret)) log)
    (hread : readRecord log = some t) (hlive : t.isRevoked = false) :
    Grounded p g (.auth (.rotateRefreshToken rawToken clientID clientSecret)) log = false := by
  have hg : g.refresh t.tokenHash ≠ true := by
    intro hg
    rw [h t hread hg] at hlive
    cases hlive
  simp [Grounded, hread, hg]

/-- A stale call does not store an access token that goes back to the provider. -/
theorem Stale.not_grounded_access {params : CreateAccessTokenParams} (h : Stale p g op log)
    (hq : (op.tokenProtocol env).request (.sql (.createAccessToken params)) log) :
    Grounded p g op log = false := by
  cases op with
  | auth op =>
    cases op with
    | exchangeCodeForToken text clientID clientSecret redirectURI =>
      obtain ⟨code, _, _, _, hread, _, hred, _⟩ := hq
      exact h.not_grounded_of_redeemed hread hred
    | rotateRefreshToken rawToken clientID clientSecret =>
      obtain ⟨t, _, _, _, hread, hlive, _⟩ := hq
      exact h.not_grounded_of_live hread hlive
    | _ => rfl
  | _ => rfl

/-- Nor such a refresh token. -/
theorem Stale.not_grounded_refresh {params : CreateRefreshTokenParams} (h : Stale p g op log)
    (hq : (op.tokenProtocol env).request (.sql (.createRefreshToken params)) log) :
    Grounded p g op log = false := by
  cases op with
  | auth op =>
    cases op with
    | exchangeCodeForToken text clientID clientSecret redirectURI =>
      obtain ⟨code, _, _, _, hread, _, hred, _⟩ := hq
      exact h.not_grounded_of_redeemed hread hred
    | rotateRefreshToken rawToken clientID clientSecret =>
      obtain ⟨t, _, _, hread, hlive, _⟩ := hq
      exact h.not_grounded_of_live hread hlive
    | _ => rfl
  | _ => rfl

/-- And it does not hand one out. -/
theorem Stale.not_grounded_result {resp : TokenResponse} (h : Stale p g op log)
    (hr : (op.tokenProtocol env).result (.auth (.tokens (.ok resp))) log) : Grounded p g op log = false := by
  cases op with
  | auth op =>
    obtain ⟨outcome, heq, hr⟩ := hr
    obtain rfl := ServerReply.auth.inj heq
    cases op with
    | exchangeCodeForToken text clientID clientSecret redirectURI =>
      obtain ⟨reply, heq, hresult⟩ := hr
      obtain ⟨code, _, hread, _, hred, _⟩ := hresult resp (Outcome.tokens.inj heq).symm
      exact h.not_grounded_of_redeemed hread hred
    | rotateRefreshToken rawToken clientID clientSecret =>
      obtain ⟨reply, heq, hresult⟩ := hr
      obtain ⟨t, _, hread, hlive, _⟩ := hresult resp (Outcome.tokens.inj heq).symm
      exact h.not_grounded_of_live hread hlive
    | _ => rfl
  | _ => rfl

/-- With fewer descendants a call is stale all the more. -/
theorem Stale.anti {g' : Descent} (h : Stale p g op log)
    (hle : ∀ hash, g'.refresh hash = true → g.refresh hash = true) : Stale p g' op log := by
  cases op with
  | auth op =>
    cases op with
    | exchangeCodeForToken => exact h
    | rotateRefreshToken => exact fun t hread hg => h t hread (hle _ hg)
    | _ => trivial
  | _ => trivial

/-- An access token that is stored was signed by the call. -/
theorem ServerOperation.stores_of_create {params : CreateAccessTokenParams}
    (hq : (op.tokenProtocol env).request (.sql (.createAccessToken params)) log) :
    ∃ userID email token, Stores env.auth log userID email token params := by
  cases op with
  | auth op => exact Operation.stores_of_create hq
  | _ => exact absurd hq (by simp [ServerOperation.tokenProtocol, Request.Apart, Query.apart])

end Calls

/-! ### Rows -/

section Rows

variable {p : UUID} {q : Request} {d : Draw} {w : World}

/-- A code that is marked is there. -/
theorem mem_of_redeemed {log : Log effects} (hbefore : redeemed log = false)
    (hafter : redeemed (⟨q, (respond q d w).1⟩ :: log) = true) :
    ∃ id, q = .sql (.markAuthorizationCodeUsed id) ∧ ∃ code ∈ w.db.authorizationCodes.rows, code.id = id := by
  rcases redeemed_respond hafter with hred | ⟨id, rfl, hf⟩
  · rw [hbefore] at hred
    cases hred
  · cases hr : (respond (.sql (.markAuthorizationCodeUsed id)) d w).1 with
    | error e =>
      rw [hr] at hafter
      exact absurd (hbefore.symm.trans hafter) (by simp)
    | ok code =>
      have hupd : (updateOne w.db.authorizationCodes (fun c => c.id == id)
        (fun c => { c with usedAt := some (w.wait d.wait).now }) fun _ => rfl).1 = .ok code :=
        (respond_sql_ok hr).2.1
      obtain ⟨old, hold, hid, _⟩ := updateOne_ok hupd
      exact ⟨id, rfl, old, hold, by simpa using hid⟩

/-- Once the provider is gone it stays so, unless its identifier is drawn again. -/
theorem noProvider_respond (h : ∀ o ∈ w.db.oauthProviders.rows, o.id ≠ p)
    (hfresh : ∀ params, q = .sql (.createOAuthProvider params) → d.uuid ≠ p) :
    ∀ o ∈ (respond q d w).2.db.oauthProviders.rows, o.id ≠ p := by
  intro o ho
  rcases respond_providers q d w with hsame | ⟨q', rfl, _, ⟨params, rfl, _, hins⟩ | hrows⟩
  · rw [hsame] at ho
    exact h o ho
  · rcases (Table.mem_of_insert hins).mp ho with hold | rfl
    · exact h o hold
    · exact hfresh params rfl
  · rw [hrows] at ho
    obtain ⟨old, hold, hrow⟩ := List.mem_filterMap.mp ho
    rw [(Query.providerRow_fixed hrow).1]
    exact h old hold

end Rows

/-! ### Before the deletion -/

section Before

variable {ι : Type}

/-- A code that is stored does not get the identifier of a code that some call has read. -/
def FreshCode (c : Pool backend ι ServerReply) (i : ι) (d : Draw) : Prop :=
  ∀ params, c.next? i = some (.sql (.createAuthorizationCode params)) →
    ∀ j code, readCode (c.threads j).log = some code → d.uuid ≠ code.id

/-- The row with the identifier of a code that a call has read is of the same provider. -/
def CodesKnown (c : Pool backend ι ServerReply) : Prop :=
  ∀ j code, readCode (c.threads j).log = some code →
    ∀ row ∈ c.world.db.authorizationCodes.rows, row.id = code.id → row.providerID = code.providerID

/-- The token has a row, or it is not accepted from now on. -/
def Known (env : Env) (t : String) (w : World) : Prop :=
  (∃ a ∈ w.db.accessTokens.rows, a.tokenHash = env.lib.sha256Hex t) ∨
    ∀ now claims, w.now ≤ now → env.checkAccessToken t now ≠ .ok claims

theorem known_respond {env : Env} {t : String} {w : World} (hout : w.db.Outlives env t) (h : Known env t w)
    (q : Request) (d : Draw) : Known env t (respond q d w).2 := by
  rcases h with ⟨a, ha, hhash⟩ | hnever
  · rcases row_respond hout ha hhash q d with ⟨a', ha', hlater⟩ | hnever
    · exact Or.inl ⟨a', ha', hlater.tokenHash.trans hhash⟩
    · exact Or.inr hnever
  · exact Or.inr fun now claims hle => hnever now claims ((le_now_respond q d w).trans hle)

/-- What the run knows about the access token `t`: the clocks are in order, its row outlives it, and it has one
if it goes back to the provider. -/
structure Ledger (env : Env) (t : String) (g : Descent) (c : Pool backend ι ServerReply) : Prop where
  clock : ∀ i, Clocked (c.threads i).log c.world
  outlives : c.world.db.Outlives env t
  known : g.access (env.lib.sha256Hex t) = true → Known env t c.world

variable [DecidableEq ι] {env : WebEnv} {ops : ι → ServerOperation} {p : UUID} {g : Descent} {t : String}
  {c : Pool backend ι ServerReply} {i : ι} {d : Draw} {q : Request} {k : q.Reply → Call ServerReply}

theorem CodesKnown.step (hi : (c.threads i).prog = .call q k) (hfresh : FreshCode c i d) (h : CodesKnown c) :
    CodesKnown (c.step i d) := by
  -- what was read before this step
  have hold : ∀ j code, readCode (c.threads j).log = some code →
      ∀ row ∈ (respond q d c.world).2.db.authorizationCodes.rows, row.id = code.id →
        row.providerID = code.providerID := by
    intro j code hread row hrow hid
    rcases respond_authorizationCode_origin hrow with ⟨old, hold, hlater, hprov, _⟩ | ⟨params, rfl, rfl, _⟩
    · rw [hprov]
      exact h j code hread old hold (hlater.id.symm.trans hid)
    · exact absurd hid (hfresh params (Pool.next?_of_call hi) j code hread)
  refine Pool.forall_log_step (B := backend) (J := fun _ log w => ∀ code, readCode log = some code →
    ∀ row ∈ w.db.authorizationCodes.rows, row.id = code.id → row.providerID = code.providerID) hi
    (fun _ code hread row hrow hid => ?_) (fun j _ _ => hold j) h
  rcases readCode_respond hread with hread | ⟨text, rfl, hcode, _⟩
  · exact hold i code hread row hrow hid
  · -- the code has just been read, from the one row with its identifier
    have hsame := respond_of_reads (q := .sql (.getAuthorizationCode text)) rfl d c.world
    rw [hsame] at hrow
    rw [Table.eq_of_clash hrow hcode (by simp [Keyed.clash, Keyed.key, hid])]

theorem Ledger.step (hf : Faithful env.auth t) (hi : (c.threads i).prog = .call q k)
    (hq : ((ops i).tokenProtocol env).request q (c.threads i).log) (h : Ledger env.auth t g c) :
    Ledger env.auth t (descend ops p c i d g) (c.step i d) where
  clock := Pool.forall_log_step (J := fun _ => Clocked) hi (fun hc => hc.self) (fun _ _ hc => hc.other) h.clock
  outlives := by
    rw [step_world hi]
    intro a' ha' hhash
    rcases respond_accessToken_origin ha' with ⟨a, ha, hlater⟩ | ⟨params, rfl, rfl⟩
    · rw [hlater.expiresAt]
      exact h.outlives a ha (hlater.tokenHash.symm.trans hhash)
    · obtain ⟨userID, email, token, hst⟩ := ServerOperation.stores_of_create hq
      exact acceptedUntil_of_stores hf (h.clock i) hst hhash
  known := by
    intro hg
    rw [step_world hi]
    rcases descend_access hg with hg | ⟨params, a, hnext, ha, hhash, _⟩
    · exact known_respond h.outlives (h.known hg) q d
    · -- the token has just been stored
      obtain rfl := Option.some.inj ((Pool.next?_of_call hi).symm.trans hnext)
      rcases respond_createAccessToken d c.world params with ⟨e, he, _⟩ | ⟨table, hins, hr, hdb⟩
      · rw [ha] at he
        cases he
      · rw [ha] at hr
        obtain rfl := Except.ok.inj hr
        exact Or.inl ⟨_, by rw [hdb]; exact (Table.mem_of_insert hins).mpr (Or.inr rfl), hhash⟩

end Before

/-! ### After the deletion -/

section After

variable {ι : Type}

/-- There is nothing that the deletion would have to invalidate: the tokens that go back to the provider are
revoked or have expired, and no call is about to store another one. -/
structure Undone (p : UUID) (ops : ι → ServerOperation) (g : Descent) (c : Pool backend ι ServerReply) :
    Prop where
  refresh : ∀ t ∈ c.world.db.refreshTokens.rows, g.refresh t.tokenHash = true → t.isRevoked = true
  access : ∀ a ∈ c.world.db.accessTokens.rows, g.access a.tokenHash = true →
    a.isRevoked = some true ∨ a.expiresAt < c.world.now
  calls : ∀ i, c.result? i = none → Stale p g (ops i) (c.threads i).log

/-- The provider is gone, with its codes; the refresh tokens that go back to it are revoked; and none of the
calls `late` that are not finished will store another token for it. -/
structure Gone (p : UUID) (ops : ι → ServerOperation) (late : ι → Prop) (g : Descent)
    (c : Pool backend ι ServerReply) : Prop where
  codes : ∀ code ∈ c.world.db.authorizationCodes.rows, code.providerID ≠ p
  provider : ∀ o ∈ c.world.db.oauthProviders.rows, o.id ≠ p
  tokens : ∀ t ∈ c.world.db.refreshTokens.rows, g.refresh t.tokenHash = true → t.isRevoked = true
  calls : ∀ i, late i → Stale p g (ops i) (c.threads i).log
  running : ∀ i, c.result? i = none → late i

/-- The identifier of the provider is not drawn for another one. -/
def FreshProvider (p : UUID) (c : Pool backend ι ServerReply) (i : ι) (d : Draw) : Prop :=
  ∀ params, c.next? i = some (.sql (.createOAuthProvider params)) → d.uuid ≠ p

variable {env : WebEnv} {ops : ι → ServerOperation} {p : UUID} {late : ι → Prop} {g : Descent} {t : String}
  {c : Pool backend ι ServerReply} {i : ι} {d : Draw} {q : Request} {k : q.Reply → Call ServerReply}
  {hash : String} {ls : List (ι × Draw)}

/-- A call that makes a request has not finished. -/
theorem Gone.stale (h : Gone p ops late g c) (hi : (c.threads i).prog = .call q k) :
    Stale p g (ops i) (c.threads i).log := by
  refine h.calls i (h.running i ?_)
  unfold Pool.result?
  rw [hi]
  rfl

/-- What a stale call reads after the deletion leaves it stale. -/
theorem Gone.stale_self (h : Gone p ops late g c) (hknown : CodesKnown c)
    (hq : ((ops i).tokenProtocol env).request q (c.threads i).log)
    (hstale : Stale p g (ops i) (c.threads i).log) :
    Stale p g (ops i) (⟨q, (respond q d c.world).1⟩ :: (c.threads i).log) := by
  cases hop : ops i with
  | auth op =>
    rw [hop] at hq hstale
    cases op with
    | exchangeCodeForToken text clientID clientSecret redirectURI =>
      intro code hread hp
      rcases readCode_respond hread with hread | ⟨_, _, hcode, _⟩
      · have hnot := hstale code hread hp
        by_contra hred
        obtain ⟨id, rfl, row, hrow, hid⟩ := mem_of_redeemed hnot (Bool.not_eq_false _ ▸ hred)
        -- the row it marks would be one of the provider
        obtain ⟨code', hread', _, rfl, _⟩ := hq
        obtain rfl : code' = code := Option.some.inj (hread'.symm.trans hread)
        exact h.codes row hrow ((hknown i code' hread row hrow hid).trans hp)
      · exact absurd hp (h.codes code hcode)
    | rotateRefreshToken rawToken clientID clientSecret =>
      intro t hread hg
      rcases readRecord_respond hread with hread | ⟨_, _, ht, _⟩
      · exact hstale t hread hg
      · exact h.tokens t ht hg
    | _ => trivial
  | _ => trivial

/-- A stale call adds no refresh token to those that go back to the provider. -/
theorem refresh_of_stale (hi : (c.threads i).prog = .call q k)
    (hq : ((ops i).tokenProtocol env).request q (c.threads i).log)
    (hstale : Stale p g (ops i) (c.threads i).log)
    (hg : (descend ops p c i d g).refresh hash = true) : g.refresh hash = true := by
  rcases descend_refresh hg with hg | ⟨params, hnext, hground⟩
  · exact hg
  · obtain rfl := Option.some.inj ((Pool.next?_of_call hi).symm.trans hnext)
    rw [hstale.not_grounded_refresh hq] at hground
    cases hground

/-- Nor an access token. -/
theorem access_of_stale (hi : (c.threads i).prog = .call q k)
    (hq : ((ops i).tokenProtocol env).request q (c.threads i).log)
    (hstale : Stale p g (ops i) (c.threads i).log)
    (hg : (descend ops p c i d g).access hash = true) : g.access hash = true := by
  rcases descend_access hg with hg | ⟨params, a, hnext, _, _, hground⟩
  · exact hg
  · obtain rfl := Option.some.inj ((Pool.next?_of_call hi).symm.trans hnext)
    rw [hstale.not_grounded_access hq] at hground
    cases hground

variable [DecidableEq ι]

/-- **One step after the deletion.** -/
theorem Gone.step (h : Gone p ops late g c) (hknown : CodesKnown c) (hi : (c.threads i).prog = .call q k)
    (hq : ((ops i).tokenProtocol env).request q (c.threads i).log) (hfresh : FreshProvider p c i d) :
    Gone p ops late (descend ops p c i d g) (c.step i d) := by
  have hnext := Pool.next?_of_call hi
  have hstale := h.stale hi
  constructor
  · -- a code is stored only for a provider that exists
    rw [step_world hi]
    intro code' hcode'
    rcases respond_authorizationCode_origin hcode' with ⟨code, hcode, _, hprov, _⟩ | ⟨_, _, rfl, o, ho, hid⟩
    · rw [hprov]
      exact h.codes code hcode
    · intro hp
      exact h.provider o ho (hid.trans hp)
  · rw [step_world hi]
    refine noProvider_respond h.provider ?_
    rintro params rfl
    exact hfresh params hnext
  · rw [step_world hi]
    intro t' ht' hg
    rcases respond_refreshToken_stored ht' with ⟨t, ht, hlater⟩ | ⟨params, rfl, _, hr⟩
    · rw [hlater.tokenHash] at hg
      exact hlater.isRevoked (h.tokens t ht (refresh_of_stale hi hq hstale hg))
    · rw [descend_stored hnext hr, hstale.not_grounded_refresh hq] at hg
      cases hg
  · intro j hj
    refine Stale.anti ?_ fun hash => refresh_of_stale hi hq hstale
    refine Pool.forall_log_step (B := backend) (J := fun j log _ => late j → Stale p g (ops j) log) hi
      (fun hself hlate => h.stale_self hknown hq (hself hlate)) (fun _ _ hother => hother) h.calls j hj
  · intro j hj
    refine h.running j ?_
    cases hres : c.result? j with
    | none => rfl
    | some r =>
      rw [Pool.step_result? hres] at hj
      cases hj

/-- The deletion leaves the tokens alone. -/
theorem respond_deleteOAuthProvider_tokens (p : UUID) (d : Draw) (w : World) :
    (respond (.sql (.deleteOAuthProvider p)) d w).2.db.accessTokens = w.db.accessTokens ∧
      (respond (.sql (.deleteOAuthProvider p)) d w).2.db.refreshTokens = w.db.refreshTokens := by
  rcases respond_db (.sql (.deleteOAuthProvider p)) d w with ⟨_, hdb⟩ | ⟨q, hq, _, hdb⟩
  · rw [hdb]
    exact ⟨rfl, rfl⟩
  · obtain rfl := Request.sql.inj hq
    rw [hdb]
    exact ⟨rfl, rfl⟩

/-- **The deletion.** -/
theorem Undone.gone {j : ι} {k : Except DBError Unit → Call ServerReply} (h : Undone p ops g c)
    (hj : (c.threads j).prog = .call (.sql (.deleteOAuthProvider p)) k) (hf : d.fault = false) :
    Gone p ops (fun i => (c.step j d).result? i = none) g (c.step j d) := by
  have hdb : (c.step j d).world.db = c.world.db.deleteOAuthProvider p := by
    rw [step_world hj, respond_sql _ hf]
    rfl
  constructor
  · rw [hdb]
    intro code hcode hp
    exact absurd (beq_iff_eq.mpr hp) (by simpa using (Table.mem_delete.mp hcode).2)
  · rw [hdb]
    intro o ho hid
    exact absurd (beq_iff_eq.mpr hid) (by simpa using (Table.mem_delete.mp ho).2)
  · rw [hdb]
    exact h.refresh
  · intro i hi
    have hrunning : c.result? i = none := by
      cases hres : c.result? i with
      | none => rfl
      | some r =>
        rw [Pool.step_result? hres] at hi
        cases hi
    refine Pool.forall_log_step (B := backend)
      (J := fun i log _ => c.result? i = none → Stale p g (ops i) log) hj (fun hself hnone => ?_)
      (fun _ _ hother => hother) h.calls i hrunning
    -- the deletion itself reads nothing
    have hstale := hself hnone
    cases hop : ops j with
    | auth op =>
      rw [hop] at hstale
      cases op <;> exact hstale
    | _ => trivial
  · exact fun _ hi => hi

omit [DecidableEq ι] in
/-- A token whose row is revoked or has expired is dead. -/
theorem Undone.dead {env : Env} (h : Undone p ops g c) (hledger : Ledger env t g c)
    (hg : g.access (env.lib.sha256Hex t) = true) : Dead env t c.world := by
  rcases hledger.known hg with ⟨a, ha, hhash⟩ | hnever
  · rcases h.access a ha (by rw [hhash]; exact hg) with hrev | hexp
    · exact Or.inl ⟨a, ha, hhash, hrev⟩
    · refine Or.inr fun now claims hle hok => ?_
      exact absurd (hledger.outlives a ha hhash now claims hok) (not_le.mpr (hexp.trans_le hle))
  · exact Or.inr hnever

/-- **The rest of the run.** -/
theorem Gone.run (h : CodesKnown c ∧ Gone p ops late g c)
    (hobeys : Pool.Obeys (fun i => (ops i).tokenProtocol env) c)
    (hcodes : Pool.Along FreshCode c ls) (hprov : Pool.Along (FreshProvider p) c ls) :
    CodesKnown (c.run ls) ∧ Gone p ops late (descendants ops p g c ls) (c.run ls) :=
  Pool.ghost_invariant_along (I := fun g c => CodesKnown c ∧ Gone p ops late g c)
    (fun _ _ _ _ => descend_done)
    (fun _ _ _ _ _ _ hi hq hfresh hI => ⟨hI.1.step hi hfresh.1, hI.2.step hI.1 hi hq hfresh.2⟩)
    hobeys h (hcodes.and hprov)

/-- Tokens that go back to the provider are dead and stay so. -/
theorem Gone.dead_run (hf : Faithful env.auth t) (h : CodesKnown c ∧ Gone p ops late g c)
    (hledger : Ledger env.auth t g c)
    (hdead : g.access (env.auth.lib.sha256Hex t) = true → Dead env.auth t c.world)
    (hobeys : Pool.Obeys (fun i => (ops i).tokenProtocol env) c)
    (hcodes : Pool.Along FreshCode c ls) (hprov : Pool.Along (FreshProvider p) c ls)
    (hg : (descendants ops p g c ls).access (env.auth.lib.sha256Hex t) = true) :
    Dead env.auth t (c.run ls).world := by
  refine (Pool.ghost_invariant_along (I := fun g c => (CodesKnown c ∧ Gone p ops late g c) ∧
    Ledger env.auth t g c ∧ (g.access (env.auth.lib.sha256Hex t) = true → Dead env.auth t c.world))
    (fun _ _ _ _ => descend_done) ?_ hobeys ⟨h, hledger, hdead⟩ (hcodes.and hprov)).2.2 hg
  rintro g c i d q k hi hq hfresh ⟨hgone, hledger, hdead⟩
  refine ⟨⟨hgone.1.step hi hfresh.1, hgone.2.step hgone.1 hi hq hfresh.2⟩, hledger.step hf hi hq, ?_⟩
  intro hg
  rw [step_world hi]
  exact dead_respond hledger.outlives (hdead (access_of_stale hi hq (hgone.2.stale hi) hg)) q d

end After

/-! ### Whole runs -/

/-- The reply hands out tokens. -/
def ServerReply.issues : ServerReply → Bool
  | .auth (.tokens r) => r.isOk
  | _ => false

/-- **A deleted provider, with nothing left to invalidate.** The deletion removes the codes of the provider and
no token. Where the tokens that go back to the provider are revoked or have expired, and no call is about to
store another one (`Undone`), no code of the provider is exchanged from then on, no refresh token that goes back
to it is rotated, and no access token that does is let through. -/
theorem deleted_provider_invalidates {ι : Type} [DecidableEq ι] (env : WebEnv) (admin : AdminEnv)
    (ops : ι → ServerOperation) (w : World) (p : UUID) (g₀ : Descent)
    (hg₀ : ∀ hash, g₀.access hash = true → ∃ a ∈ w.db.accessTokens.rows, a.tokenHash = hash)
    (before after : List (ι × Draw)) (j : ι) (d : Draw)
    (hnext : ((serverOperations env admin ops w).run before).next? j = some (.sql (.deleteOAuthProvider p)))
    (hf : d.fault = false)
    (hundone : Undone p ops (descendants ops p g₀ (serverOperations env admin ops w) before)
      ((serverOperations env admin ops w).run before))
    (hcodes : Pool.Along FreshCode (serverOperations env admin ops w) (before ++ (j, d) :: after))
    (hprov : Pool.Along (FreshProvider p) (((serverOperations env admin ops w).run before).step j d) after) :
    let c₀ := (serverOperations env admin ops w).run before
    let c₁ := c₀.step j d
    let c₂ := c₁.run after
    let g₂ := descendants ops p g₀ (serverOperations env admin ops w) (before ++ (j, d) :: after)
    (c₁.world.db.accessTokens = c₀.world.db.accessTokens ∧
      c₁.world.db.refreshTokens = c₀.world.db.refreshTokens) ∧
    (∀ code ∈ c₂.world.db.authorizationCodes.rows, code.providerID ≠ p) ∧
    (∀ i r, c₁.result? i = none → c₂.result? i = some r → r.issues = true →
      Grounded p g₂ (ops i) (c₂.threads i).log = false) ∧
    ∀ t headers, Faithful env.auth t → w.db.Outlives env.auth t →
      g₂.access (env.auth.lib.sha256Hex t) = true → requestToken headers = .ok t →
      ∀ ds ctx, ((authMiddleware env.auth headers).run backend ds c₂.world).1 ≠ .ok ctx := by
  intro c₀ c₁ c₂ g₂
  have hobeys : Pool.Obeys (fun i => (ops i).tokenProtocol env) (serverOperations env admin ops w) :=
    fun i => (ops i).tokenProtocol_obeys env admin
  obtain ⟨k, hk⟩ := Pool.call_of_next? hnext
  obtain ⟨hbefore, hat, hafter⟩ := Pool.along_append.mp hcodes
  -- the deletion stores no token
  have hsame : descend ops p c₀ j d (descendants ops p g₀ (serverOperations env admin ops w) before) =
      descendants ops p g₀ (serverOperations env admin ops w) before := by
    unfold descend
    rw [hnext]
  have hghost : g₂ =
      descendants ops p (descendants ops p g₀ (serverOperations env admin ops w) before) c₁ after := by
    have happend := Pool.ghost_append (descend ops p) g₀ (serverOperations env admin ops w) before
      ((j, d) :: after)
    refine happend.trans ?_
    show Pool.ghost (descend ops p) (descend ops p c₀ j d _) c₁ after = _
    rw [hsame]
  have hobeys₁ := (hobeys.run before).step j d
  have hknown : CodesKnown c₀ :=
    Pool.invariant (I := CodesKnown) (fun _ _ _ _ _ hi _ hfresh hI => hI.step hi hfresh) hobeys
      (fun _ _ hread => by cases hread) hbefore
  have hstart := And.intro (hknown.step hk hat) (hundone.gone hk hf)
  have hend := Gone.run hstart hobeys₁ hafter hprov
  rw [← hghost] at hend
  refine ⟨?_, hend.2.codes, fun i r hi hr hissues => ?_, ?_⟩
  · have hworld : c₁.world = (respond (.sql (.deleteOAuthProvider p)) d c₀.world).2 := step_world hk
    rw [hworld]
    exact respond_deleteOAuthProvider_tokens p d c₀.world
  · -- a call that hands out tokens is not stale
    have hresult := (hobeys₁.run after).result hr
    cases r with
    | auth outcome =>
      cases outcome with
      | tokens reply =>
        cases reply with
        | error e => cases hissues
        | ok resp => exact (hend.2.calls i hi).not_grounded_result hresult
      | _ => cases hissues
    | _ => cases hissues
  · intro t headers hfaithful hout hg hheaders ds ctx hok
    have hledger : Ledger env.auth t (descendants ops p g₀ (serverOperations env admin ops w) before) c₀ := by
      have hfirst : Ledger env.auth t g₀ (serverOperations env admin ops w) :=
        ⟨fun _ => Clocked.nil w, hout, fun hg => Or.inl (hg₀ _ hg)⟩
      exact Pool.ghost_invariant (g := descend ops p) (I := Ledger env.auth t) (fun _ _ _ _ => descend_done)
        (fun _ _ _ _ _ _ hi hq hI => hI.step hfaithful hi hq) hobeys hfirst before
    have hledger₁ := hledger.step (p := p) (d := d) hfaithful hk ((hobeys.run before).request hk)
    rw [hsame] at hledger₁
    have hdead₁ : (descendants ops p g₀ (serverOperations env admin ops w) before).access
        (env.auth.lib.sha256Hex t) = true → Dead env.auth t c₁.world := by
      intro hg
      have hworld : c₁.world = (respond (.sql (.deleteOAuthProvider p)) d c₀.world).2 := step_world hk
      rw [hworld]
      exact dead_respond hledger.outlives (hundone.dead hledger hg) _ d
    rw [hghost] at hg
    have hdead := Gone.dead_run hfaithful hstart hledger₁ hdead₁ hobeys₁ hafter hprov hg
    -- a dead token fails one of the two checks
    unfold authMiddleware at hok
    rw [hheaders] at hok
    obtain ⟨claims, hclaims, _, hnot, _⟩ := authenticateToken_ok.mp hok
    rcases hdead with hrev | hnever
    · exact hnot hrev
    · exact hnever _ claims (le_now_respond .now (ds 0) c₂.world) hclaims

section Examples

open Deployment

/-- The provider of `annCode`. -/
def annProvider : OauthProvider := { appProvider with id := 3 }

/-- The database of the deployment, with the provider. -/
def annProviderStore : Store :=
  { store with oauthProviders := ⟨[annProvider], List.pairwise_singleton _ _⟩ }

/-- The web flow over the deployment. -/
def plainWebEnv : WebEnv := { webEnv with auth := env }

/-- The code is exchanged, the provider is deleted, and the new refresh token is rotated. -/
def deleteAfterExchange : Fin 3 → ServerOperation
  | 0 => .auth (.exchangeCodeForToken "auth-code" 1 "s3cret" "https://app.example/callback")
  | 1 => .provider (.delete 3 1)
  | 2 => .auth (.rotateRefreshToken "BwgJCgsMDQ4PEBESExQVFhcYGRobHB0eHyAhIiMkJSY" appText "s3cret")

/-- One after the other. -/
def oneByOne : List (Fin 3 × Draw) :=
  List.replicate 14 (0, draw 7 20) ++ List.replicate 2 (1, draw 7 20) ++ List.replicate 14 (2, draw 9 21)

/-- The provider is gone with its code, and the tokens of the code are as good as before: the access token is let
through, and the refresh token is rotated. -/
theorem deleted_provider_tokens_live :
    let start := serverOperations plainWebEnv admin deleteAfterExchange ⟨0, annProviderStore⟩
    let c := start.run oneByOne
    let g := descendants deleteAfterExchange 3 ⟨fun _ => false, fun _ => false⟩ start oneByOne
    c.result? 1 ≠ none ∧ c.world.db.oauthProviders.rows = [] ∧ c.world.db.authorizationCodes.rows = [] ∧
      g.access (env.lib.sha256Hex (annToken signatureA)) = true ∧
      (∃ ctx, ((authMiddleware env ⟨"", some (annToken signatureA)⟩).run backend (fun _ => draw 7 20)
        c.world).1 = .ok ctx) ∧
      (c.result? 2).any ServerReply.issues = true ∧
      Grounded 3 g (deleteAfterExchange 2) (c.threads 2).log = true := by
  intro start c g
  have hrun : c.world.db.oauthProviders.rows = [] ∧ c.world.db.authorizationCodes.rows = [] ∧
      (c.world.wait (draw 7 20).wait).now = 0 ∧ (c.result? 1).isSome = true ∧
      (c.result? 2).any ServerReply.issues = true ∧
      Grounded 3 g (deleteAfterExchange 2) (c.threads 2).log = true ∧
      g.access "27b35c4e2c0bf206843e6dd3c380ba8e3cd405db326734c8a6890155707bfc54" = true ∧
      ¬ c.world.db.TokenRevoked "27b35c4e2c0bf206843e6dd3c380ba8e3cd405db326734c8a6890155707bfc54" := by
    decide +kernel
  obtain ⟨hproviders, hcodes, hnow, hdeleted, hissues, hgrounded, haccess, hlive⟩ := hrun
  have hhash : env.lib.sha256Hex (annToken signatureA) =
      "27b35c4e2c0bf206843e6dd3c380ba8e3cd405db326734c8a6890155707bfc54" := sha256Hex_annToken
  refine ⟨?_, hproviders, hcodes, by rw [hhash]; exact haccess,
    ⟨{ rawToken := annToken signatureA, userID := annClaims.userID, email := annClaims.email }, ?_⟩, hissues,
    hgrounded⟩
  · rw [← Option.isSome_iff_ne_none]
    exact hdeleted
  · refine authenticateToken_ok.mpr ⟨annClaims, ?_, rfl, ?_, rfl⟩
    · rw [hnow]
      exact checkAccessToken_annToken
    · rw [hhash]
      exact hlive

/-- The code is exchanged, the tokens of the user are revoked, the provider is deleted, and the new refresh token
is presented. -/
def deleteAfterRevocation : Fin 5 → ServerOperation
  | 0 => .auth (.exchangeCodeForToken "auth-code" 1 "s3cret" "https://app.example/callback")
  | 1 => .auth (.revokeAllUserAccessTokens 2)
  | 2 => .auth (.revokeUserRefreshTokens 2 "admin")
  | 3 => .provider (.delete 3 1)
  | 4 => .auth (.rotateRefreshToken "BwgJCgsMDQ4PEBESExQVFhcYGRobHB0eHyAhIiMkJSY" appText "s3cret")

/-- Up to the deletion. -/
def exchangeRevoke : List (Fin 5 × Draw) :=
  List.replicate 14 (0, draw 7 20) ++ [(1, draw 7 20), (2, draw 7 20), (3, draw 7 20)]

/-- After the deletion. -/
def lateRotation : List (Fin 5 × Draw) := List.replicate 14 (4, draw 9 21)

/-- The statements that make a code or a provider. -/
def Request.makesCodeOrProvider : Request → Bool
  | .sql (.createAuthorizationCode _) | .sql (.createOAuthProvider _) => true
  | _ => false

/-- The provider that the request deletes. -/
def Request.deletedProvider? : Request → Option UUID
  | .sql (.deleteOAuthProvider id) => some id
  | _ => none

theorem next?_of_deletedProvider? {ι α : Type} {c : Pool backend ι α} {i : ι} {id : UUID}
    (h : (c.next? i).bind Request.deletedProvider? = some id) :
    c.next? i = some (.sql (.deleteOAuthProvider id)) := by
  obtain ⟨q, hq, hid⟩ := Option.bind_eq_some_iff.mp h
  rw [hq]
  unfold Request.deletedProvider? at hid
  split at hid
  · rw [Option.some.inj hid]
  · cases hid

/-- What the run amounts to. -/
theorem exchangeRevoke_run :
    let start := serverOperations plainWebEnv admin deleteAfterRevocation ⟨0, annProviderStore⟩
    let c := start.run exchangeRevoke
    let g := descendants deleteAfterRevocation 3 ⟨fun _ => false, fun _ => false⟩ start
    ((∀ t ∈ c.world.db.refreshTokens.rows,
        (g exchangeRevoke).refresh t.tokenHash = true → t.isRevoked = true) ∧
      (∀ a ∈ c.world.db.accessTokens.rows, (g exchangeRevoke).access a.tokenHash = true →
        a.isRevoked = some true ∨ a.expiresAt < c.world.now) ∧
      (c.result? 0).isNone = false ∧ (readRecord (c.threads 4).log).isSome = false) ∧
    (c.next? 3).bind Request.deletedProvider? = some 3 ∧
    Pool.Along (fun c i _ => (c.next? i).any Request.makesCodeOrProvider = false) start
      (exchangeRevoke ++ (3, draw 7 20) :: lateRotation) ∧
    (((c.step 3 (draw 7 20)).run lateRotation).result? 4).isSome = true ∧
    (g (exchangeRevoke ++ (3, draw 7 20) :: lateRotation)).access
      "27b35c4e2c0bf206843e6dd3c380ba8e3cd405db326734c8a6890155707bfc54" = true := by
  decide +kernel

/-- After the revocations there is nothing left to invalidate, and nothing comes back. -/
theorem deleted_provider_invalidates_example :
    let start := serverOperations plainWebEnv admin deleteAfterRevocation ⟨0, annProviderStore⟩
    let c := ((start.run exchangeRevoke).step 3 (draw 7 20)).run lateRotation
    (∀ code ∈ c.world.db.authorizationCodes.rows, code.providerID ≠ 3) ∧ (c.result? 4).isSome = true ∧
      ∀ ctx, ((authMiddleware env ⟨"", some (annToken signatureA)⟩).run backend (fun _ => draw 7 20)
        c.world).1 ≠ .ok ctx := by
  obtain ⟨⟨hrefresh, haccess, hdone, hread⟩, hnext, hmakes, hend, hdescends⟩ := exchangeRevoke_run
  have hundone : Undone 3 deleteAfterRevocation
      (descendants deleteAfterRevocation 3 ⟨fun _ => false, fun _ => false⟩
        (serverOperations plainWebEnv admin deleteAfterRevocation ⟨0, annProviderStore⟩) exchangeRevoke)
      ((serverOperations plainWebEnv admin deleteAfterRevocation ⟨0, annProviderStore⟩).run exchangeRevoke) := by
    refine ⟨hrefresh, haccess, fun i hi => ?_⟩
    match i with
    | 0 => exact absurd (Option.isNone_iff_eq_none.mpr hi) (Bool.not_eq_true _ ▸ hdone)
    | 1 | 2 | 3 => trivial
    | 4 => exact fun t ht => absurd (Option.isSome_iff_exists.mpr ⟨t, ht⟩) (Bool.not_eq_true _ ▸ hread)
  have hnot : ∀ {c : Pool backend (Fin 5) ServerReply} {i : Fin 5} {q : Request},
      (c.next? i).any Request.makesCodeOrProvider = false → c.next? i = some q →
      q.makesCodeOrProvider = false := by
    intro c i q hany hq
    rw [hq] at hany
    exact hany
  obtain ⟨_, hcodes, _, hrefused⟩ := deleted_provider_invalidates plainWebEnv admin deleteAfterRevocation
    ⟨0, annProviderStore⟩ 3 ⟨fun _ => false, fun _ => false⟩ (fun _ hg => by cases hg) exchangeRevoke
    lateRotation 3 (draw 7 20) (next?_of_deletedProvider? hnext) rfl hundone
    (hmakes.mono fun c i d hc params hnext => by cases hnot hc hnext)
    ((Pool.along_append.mp hmakes).2.2.mono fun c i d hc params hnext => by cases hnot hc hnext)
  have hhash : plainWebEnv.auth.lib.sha256Hex (annToken signatureA) =
      "27b35c4e2c0bf206843e6dd3c380ba8e3cd405db326734c8a6890155707bfc54" := sha256Hex_annToken
  refine ⟨hcodes, hend, ?_⟩
  refine hrefused (annToken signatureA) _ faithful_annToken (fun a ha => by cases ha) ?_ rfl _
  rw [hhash]
  exact hdescends

end Examples

end GoauthServer
