import GoauthServer.Safety.ExchangeSpec
import GoauthServer.Safety.RotationSpec
import GoauthServer.Transport.Token

/-!
# The token endpoint is not an oracle about grants

A request to the token endpoint that fails does not tell its sender why the grant was refused. The code or
the refresh token may be unknown, expired, used, revoked, replayed, issued to another client or bound to
another redirect URI: the response is the same.

A statement about two runs follows from a statement about one. A failing response is `tokenFailure`, which
reads the request and the table of clients, and neither the codes, nor the refresh tokens, nor the clock. The
assumptions are the ones of `Spec/Success.lean`: the repository and the source of randomness do not fail, the
key of the server signs, and codes and tokens belong to users who exist.
-/

namespace GoauthServer

open Interact Relational

/-- The response to a request that names a grant, where it fails: the client is not authenticated, or the
grant is refused. -/
def grantFailure (env : Env) (clients : Table Client) (clientID : UUID) (clientSecret : String)
    (refused : ErrorReply) : ErrorReply :=
  if env.authenticates clients clientID clientSecret then refused else invalidClient

/-- The response to a request that fails. -/
def tokenFailure (env : Env) (clients : Table Client) (body : TokenBody) : ErrorReply :=
  match body.grantCheck with
  | .error message => invalidRequest message
  | .ok grantType =>
    if grantType = "authorization_code" then
      match body.codeGrant with
      | .error message => invalidRequest message
      | .ok req =>
        match env.lib.uuidParse req.clientID with
        | none => ⟨400, "invalid_client", some (.text "client_id is not a valid UUID")⟩
        | some clientID => grantFailure env clients clientID req.clientSecret invalidCodeGrant
    else if grantType = "refresh_token" then
      match body.refreshGrant with
      | .error message => invalidRequest message
      | .ok req =>
        match env.lib.uuidParse req.clientID with
        | none => invalidRefreshGrant
        | some clientID => grantFailure env clients clientID req.clientSecret invalidRefreshGrant
    else
      ⟨400, "unsupported_grant_type",
        some (.text "supported grant types: authorization_code, refresh_token")⟩

section Failure

variable {env : Env} {w : World} {handle : AuthError → ErrorReply} {reply : ErrorReply}

/-- The error of the call, if it failed, is mapped to `reply`. -/
def FailsWith {α : Type} (handle : AuthError → ErrorReply) (reply : ErrorReply) (r : Except AuthError α)
    (_ : World) : Prop :=
  ∀ e, r = .error e → handle e = reply

theorem failsWith_ok {α : Type} {a : α} : FailsWith handle reply (.ok a : Except AuthError α) w := by
  intro e he
  cases he

theorem failsWith_error {α : Type} {e : AuthError}
    {w : World} (h : handle e = reply) : FailsWith handle reply (.error e : Except AuthError α) w := by
  intro e' he
  rw [← Except.error.inj he]
  exact h

/-- What the handler makes of such a result. -/
theorem eq_of_failsWith
    {r : Except AuthError TokenResponse} {w : World} (h : FailsWith handle reply r w) (e : ErrorReply)
    (he : (match r with
      | .error e => TokenReply.failed (handle e)
      | .ok tokenResp => .issued tokenResp) = .failed e) : e = reply := by
  cases r with
  | error err => rw [← TokenReply.failed.inj he, h err rfl]
  | ok tokenResp => cases he

/-- The exchange of a code fails in one way. -/
theorem exchangeCodeForToken_failure (hsign : env.Signs) (hkeys : w.db.OwnersExist) (code : String)
    (clientID : UUID) (clientSecret redirectURI : String) :
    (exchangeCodeForToken env code clientID clientSecret redirectURI).Ensures backend Answered
      (FailsWith handleTokenExchangeError
        (grantFailure env w.db.clients clientID clientSecret invalidCodeGrant)) w := by
  refine ensures_clientAuth rfl (fun _ => rfl) (fun hauth e he n => failsWith_error ?_)
    fun hauth client n => ?_
  · rw [grantFailure, hauth]
    cases e <;> first | rfl | cases he
  · rw [grantFailure, if_pos hauth]
    refine ensures_read (fun _ _ _ h => h) rfl (fun d authCode hok => ?_) fun _ _ => .ret (failsWith_error rfl)
    obtain ⟨hcode, _⟩ := selectOne_ok hok
    dsimp only
    split
    · exact .ret (failsWith_error rfl)
    · split
      · exact .ret (failsWith_error rfl)
      · refine ensures_now fun n => ?_
        split
        · next hcheck =>
          rcases checkCode_error hcheck with rfl | rfl | rfl <;> exact .ret (failsWith_error rfl)
        · refine (redeemCode_outcome (fun _ _ _ h => h) False.elim hsign client clientID ?_).mono fun r w' hr => ?_
          · exact hcode
          rcases hr with ⟨_, resp, rfl, _⟩ | ⟨hno, _⟩
          · exact failsWith_ok
          · exact absurd (hkeys _ (.code hcode)) hno

/-- A rotation fails in one way. -/
theorem rotateRefreshToken_failure (hsign : env.Signs) (hkeys : w.db.OwnersExist)
    (rawToken clientID clientSecret : String) :
    (rotateRefreshToken env rawToken clientID clientSecret).Ensures backend Answered
      (FailsWith handleRefreshTokenError (match env.lib.uuidParse clientID with
        | none => invalidRefreshGrant
        | some cid => grantFailure env w.db.clients cid clientSecret invalidRefreshGrant)) w := by
  cases hparse : env.lib.uuidParse clientID with
  | none =>
    unfold rotateRefreshToken
    rw [hparse]
    exact .ret (failsWith_error rfl)
  | some cid =>
    refine (rotateRefreshToken_ends hsign hparse).mono fun r w' ⟨_, _, _, h⟩ => ?_
    dsimp only
    generalize w'.db = s' at h
    cases h with
    | @refused e hauth he hr =>
      rw [hr, grantFailure, hauth]
      refine failsWith_error ?_
      cases e <;> first | rfl | cases he
    | unknown hauth _ hr =>
      rw [hr, grantFailure, if_pos hauth]
      exact failsWith_error rfl
    | found hauth ht hr =>
      rw [grantFailure, if_pos hauth]
      -- a replay and a token of another client are answered like an unknown token
      cases hr with
      | replayed => exact failsWith_error rfl
      | expired => exact failsWith_error rfl
      | foreign => exact failsWith_error rfl
      | orphaned _ hno => exact absurd (hkeys _ (.refresh ht.mem)) hno
      | rotated => exact failsWith_ok

/-- **A request fails in one way.** -/
theorem tokenExchange_failure (hsign : env.Signs) (hkeys : w.db.OwnersExist) (body : TokenBody) :
    (tokenExchange env body).Ensures backend Answered
      (fun r _ => ∀ e, r = .failed e → e = tokenFailure env w.db.clients body) w := by
  unfold tokenExchange tokenFailure
  cases body.grantCheck with
  | error message => exact .ret fun e he => (TokenReply.failed.inj he).symm
  | ok grantType =>
    dsimp only
    split
    · unfold handleAuthorizationCodeGrant
      cases body.codeGrant with
      | error message => exact .ret fun e he => (TokenReply.failed.inj he).symm
      | ok req =>
        dsimp only
        cases env.lib.uuidParse req.clientID with
        | none => exact .ret fun e he => (TokenReply.failed.inj he).symm
        | some clientID =>
          refine .bind ((exchangeCodeForToken_failure hsign hkeys req.code clientID req.clientSecret
            req.redirectURI).mono fun r w' hr => .ret ?_)
          exact eq_of_failsWith hr
    · split
      · unfold handleRefreshTokenGrant
        cases body.refreshGrant with
        | error message => exact .ret fun e he => (TokenReply.failed.inj he).symm
        | ok req =>
          refine .bind ((rotateRefreshToken_failure hsign hkeys req.refreshToken req.clientID
            req.clientSecret).mono fun r w' hr => .ret ?_)
          exact eq_of_failsWith hr
      · exact .ret fun e he => (TokenReply.failed.inj he).symm

end Failure

/-- **Two runs.** A request that fails in two databases with the same clients is answered with the same
response, whatever codes and refresh tokens they hold, and whatever the time is. -/
theorem failed_requests_look_alike (env : Env) (hsign : env.Signs) (body : TokenBody) (w₁ w₂ : World)
    (hclients : w₁.db.clients = w₂.db.clients) (hkeys₁ : w₁.db.OwnersExist) (hkeys₂ : w₂.db.OwnersExist)
    (ds₁ ds₂ : ℕ → Draw) (hans₁ : (tokenExchange env body).Along backend Answered ds₁ w₁)
    (hans₂ : (tokenExchange env body).Along backend Answered ds₂ w₂) (e₁ e₂ : ErrorReply)
    (h₁ : ((tokenExchange env body).run backend ds₁ w₁).1 = .failed e₁)
    (h₂ : ((tokenExchange env body).run backend ds₂ w₂).1 = .failed e₂) : e₁ = e₂ := by
  rw [tokenExchange_failure hsign hkeys₁ body ds₁ hans₁ e₁ h₁,
    tokenExchange_failure hsign hkeys₂ body ds₂ hans₂ e₂ h₂, hclients]

section Examples

open Deployment

/-- `app` presents the code `auth-code`. -/
def codeBody : TokenBody where
  grantCheck := .ok "authorization_code"
  codeGrant := .ok ⟨"authorization_code", "auth-code", appText, "s3cret", "https://app.example/callback"⟩
  refreshGrant := .error "Key: 'RefreshTokenGrantRequest.RefreshToken' Error"

/-- A database in which the code was used, and one without codes. -/
def usedCodeStore : Store :=
  { store with
    authorizationCodes := ⟨[{ annCode with usedAt := some 1 }], List.pairwise_singleton _ _⟩ }

def noCodeStore : Store := { store with authorizationCodes := Table.empty }

theorem failed_requests_look_alike_app : ∃ e₁ e₂,
    ((tokenExchange env codeBody).run backend (fun _ => draw 7 20) ⟨2, usedCodeStore⟩).1 = .failed e₁ ∧
      ((tokenExchange env codeBody).run backend (fun _ => draw 7 20) ⟨2, noCodeStore⟩).1 = .failed e₂ ∧
      e₁ = e₂ := by
  have h₁ : ((tokenExchange env codeBody).run backend (fun _ => draw 7 20) ⟨2, usedCodeStore⟩).1 =
      .failed invalidCodeGrant := by decide +kernel
  have h₂ : ((tokenExchange env codeBody).run backend (fun _ => draw 7 20) ⟨2, noCodeStore⟩).1 =
      .failed invalidCodeGrant := by decide +kernel
  have hused : usedCodeStore.OwnersExist := by
    rintro id (hmem | hmem | hmem)
    · obtain rfl := List.mem_singleton.mp hmem
      exact ⟨ann, List.mem_singleton.mpr rfl, rfl⟩
    · cases hmem
    · obtain rfl := List.mem_singleton.mp hmem
      exact ⟨ann, List.mem_singleton.mpr rfl, rfl⟩
  have hnone : noCodeStore.OwnersExist := by
    rintro id (hmem | hmem | hmem)
    · cases hmem
    · cases hmem
    · obtain rfl := List.mem_singleton.mp hmem
      exact ⟨ann, List.mem_singleton.mpr rfl, rfl⟩
  refine ⟨_, _, h₁, h₂, ?_⟩
  exact failed_requests_look_alike env (fun _ _ => Option.some_ne_none _) codeBody ⟨2, usedCodeStore⟩
    ⟨2, noCodeStore⟩ rfl hused hnone _ _ (by decide +kernel) (by decide +kernel) _ _ h₁ h₂

end Examples

end GoauthServer
