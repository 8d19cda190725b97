import GoauthServer.Service.Deployment
import GoauthServer.Spec.Authentication

/-!
# Two readers of one header

`AuthMiddleware` and `authenticateRevokeRequest` both look for a bearer token in the `Authorization` header. The
first compares the seven characters in front of the token with `bearer ` and ignores the case, as HTTP has it for
names of schemes; `extractBearerToken` compares them with `Bearer `. Behind that they make the same two checks
(`Spec/Authentication.lean`). So the readers agree, on the token and on whom it authenticates, for every header
but those that spell the scheme in another case (`bearer_readers_agree_iff`).
-/

namespace GoauthServer

open Interact

/-- `BasicAuth` of `net/http` reads headers of the scheme `Basic` only. -/
def Lib.BasicScheme (lib : Lib) : Prop :=
  ∀ header c, lib.basicAuth header = some c → (header.toList.take 6).map Char.toLower = "basic ".toList

/-- `AuthMiddleware` lets the request through, as one of this user. -/
def AuthenticatesUser (env : Env) (h : RequestHeaders) (ds : ℕ → Draw) (w : World) (userID : String) : Prop :=
  ∃ ctx, ((authMiddleware env h).run backend ds w).1 = .ok ctx ∧ ctx.userID = userID

/-- `authenticateRevokeRequest` lets the request through, and it was the token of this user that it has checked. -/
def RevokeAuthenticatesUser (env : Env) (authorization : String) (ds : ℕ → Draw) (w : World) (userID : String) :
    Prop :=
  ((authenticateRevokeRequest env authorization).run backend ds w).1 = true ∧
    env.lib.basicAuth authorization = none ∧
    ∃ claims, env.checkAccessToken (extractBearerToken authorization) (w.wait (ds 0).wait).now = .ok claims ∧
      claims.userID = userID

/-- **The readers agree** on a header: they find the same token, or none, and the header authenticates the same
users. The cookie counts only where there is no header. -/
structure ReadersAgree (env : Env) (authorization : String) : Prop where
  token : bearerOfHeader authorization = strPtr (extractBearerToken authorization)
  user : ∀ cookie, (authorization = "" → cookie = none) → ∀ ds w userID,
    AuthenticatesUser env ⟨authorization, cookie⟩ ds w userID ↔ RevokeAuthenticatesUser env authorization ds w userID

/-- The header has a bearer token, and spells the scheme in another way than `Bearer`. -/
structure SpelledOtherwise (authorization : String) : Prop where
  length : authorization.toList.length > 7
  scheme : (authorization.toList.take 7).map Char.toLower = "bearer ".toList
  spelling : authorization.toList.take 7 ≠ "Bearer ".toList

instance (authorization : String) : Decidable (SpelledOtherwise authorization) :=
  decidable_of_iff (authorization.toList.length > 7 ∧
      (authorization.toList.take 7).map Char.toLower = "bearer ".toList ∧
      authorization.toList.take 7 ≠ "Bearer ".toList)
    ⟨fun h => ⟨h.1, h.2.1, h.2.2⟩, fun h => ⟨h.length, h.scheme, h.spelling⟩⟩

section Readers

variable {env : Env} {authorization : String} {token : String}

/-- Something stands behind the scheme. -/
theorem token_ne_empty (h : authorization.toList.length > 7) :
    String.ofList (authorization.toList.drop 7) ≠ "" := by
  rw [Ne, String.ofList_eq_empty_iff, List.drop_eq_nil_iff]
  omega

/-- The second reader finds a token only where the first does, and the same one. -/
theorem bearerOfHeader_of_extract (h : extractBearerToken authorization ≠ "") :
    bearerOfHeader authorization = some (extractBearerToken authorization) := by
  unfold extractBearerToken at h ⊢
  split at h
  · next hbearer =>
    have hlower : (authorization.toList.take 7).map Char.toLower = "bearer ".toList := by
      rw [hbearer.2]
      decide
    rw [if_pos hbearer]
    exact if_pos ⟨hbearer.1, hlower⟩
  · exact absurd rfl h

/-- **The tokens.** -/
theorem tokens_agree_iff :
    bearerOfHeader authorization = strPtr (extractBearerToken authorization) ↔ ¬ SpelledOtherwise authorization := by
  by_cases hextract : extractBearerToken authorization = ""
  · -- the second reader finds none; does the first?
    rw [hextract]
    show bearerOfHeader authorization = none ↔ _
    have hnot : ¬ (authorization.toList.length > 7 ∧ authorization.toList.take 7 = "Bearer ".toList) := by
      intro hbearer
      unfold extractBearerToken at hextract
      rw [if_pos hbearer] at hextract
      exact token_ne_empty hbearer.1 hextract
    unfold bearerOfHeader
    constructor
    · intro hnone hother
      rw [if_pos ⟨hother.length, hother.scheme⟩] at hnone
      cases hnone
    · intro hother
      refine if_neg fun hscheme => hother ⟨hscheme.1, hscheme.2, fun hspelled => ?_⟩
      exact hnot ⟨hscheme.1, hspelled⟩
  · have hsame := bearerOfHeader_of_extract hextract
    rw [hsame, strPtr, if_neg hextract]
    refine iff_of_true rfl fun hother => hextract ?_
    exact if_neg fun hbearer => hother.spelling hbearer.2

/-- A header of a bearer token has no credentials of a client. -/
theorem basicAuth_eq_none (hbasic : env.lib.BasicScheme) (h : extractBearerToken authorization ≠ "") :
    env.lib.basicAuth authorization = none := by
  by_contra hsome
  obtain ⟨c, hc⟩ := Option.ne_none_iff_exists'.mp hsome
  have hlower := hbasic _ _ hc
  unfold extractBearerToken at h
  split at h
  · next hbearer =>
    have hsix : authorization.toList.take 6 = "Bearer".toList := by
      have htake : (authorization.toList.take 7).take 6 = authorization.toList.take 6 := by
        rw [List.take_take]
        rfl
      rw [← htake, hbearer.2]
      rfl
    rw [hsix] at hlower
    exact absurd hlower (by decide)
  · exact h rfl

/-- **The users**, where the tokens are the same. -/
theorem users_agree (hbasic : env.lib.BasicScheme)
    (htoken : bearerOfHeader authorization = strPtr (extractBearerToken authorization)) {cookie : Option String}
    (hcookie : authorization = "" → cookie = none) (ds : ℕ → Draw) (w : World) (userID : String) :
    AuthenticatesUser env ⟨authorization, cookie⟩ ds w userID ↔
      RevokeAuthenticatesUser env authorization ds w userID := by
  by_cases hextract : extractBearerToken authorization = ""
  · -- no token: both refuse
    rw [hextract] at htoken
    have hnone : bearerOfHeader authorization = none := htoken
    refine iff_of_false ?_ ?_
    · rintro ⟨ctx, hctx, _⟩
      have herror : ∃ e, requestToken ⟨authorization, cookie⟩ = .error e := by
        unfold requestToken
        by_cases hempty : authorization = ""
        · rw [hcookie hempty, if_neg (not_not.mpr hempty)]
          exact ⟨_, rfl⟩
        · rw [if_pos hempty]
          simp only [hnone]
          exact ⟨_, rfl⟩
      obtain ⟨e, he⟩ := herror
      unfold authMiddleware at hctx
      rw [he] at hctx
      cases hctx
    · rintro ⟨htrue, hnobasic, _⟩
      unfold authenticateRevokeRequest at htrue
      rw [hnobasic] at htrue
      dsimp only at htrue
      rw [if_neg (not_not.mpr hextract)] at htrue
      cases htrue
  · -- the same token goes through the same checks
    have hsame := bearerOfHeader_of_extract hextract
    have hne : authorization ≠ "" := by
      rintro rfl
      exact hextract rfl
    have hreq : requestToken ⟨authorization, cookie⟩ = .ok (extractBearerToken authorization) := by
      unfold requestToken
      rw [if_pos hne]
      simp only [hsame]
    have hnobasic := basicAuth_eq_none hbasic hextract
    have hrevoke : authenticateRevokeRequest env authorization =
        authenticateRevokeBearer env (extractBearerToken authorization) := by
      unfold authenticateRevokeRequest
      rw [hnobasic]
      dsimp only
      rw [if_pos hextract]
    have hauth : authMiddleware env ⟨authorization, cookie⟩ =
        authenticateToken env (extractBearerToken authorization) := by
      unfold authMiddleware
      rw [hreq]
    unfold AuthenticatesUser RevokeAuthenticatesUser
    rw [hrevoke, hauth]
    constructor
    · rintro ⟨ctx, hctx, huser⟩
      obtain ⟨claims, hclaims, hfault, hrevoked, rfl⟩ := authenticateToken_ok.mp hctx
      exact ⟨authenticateRevokeBearer_true.mpr ⟨claims, hclaims, hfault, hrevoked⟩, hnobasic, claims, hclaims, huser⟩
    · rintro ⟨htrue, _, claims, hclaims, huser⟩
      obtain ⟨_, _, hfault, hrevoked⟩ := authenticateRevokeBearer_true.mp htrue
      exact ⟨_, authenticateToken_ok.mpr ⟨claims, hclaims, hfault, hrevoked, rfl⟩, huser⟩

/-- **The readers agree** exactly on the headers that do not spell the scheme in another way. -/
theorem bearer_readers_agree_iff (env : Env) (hbasic : env.lib.BasicScheme) (authorization : String) :
    ReadersAgree env authorization ↔ ¬ SpelledOtherwise authorization := by
  constructor
  · intro hagree
    exact tokens_agree_iff.mp hagree.token
  · intro hspelled
    have htoken := tokens_agree_iff.mpr hspelled
    exact ⟨htoken, fun cookie hcookie ds w userID => users_agree hbasic htoken hcookie ds w userID⟩

/-- A scheme in lower case, and any token. -/
theorem spelledOtherwise_lower (h : token ≠ "") : SpelledOtherwise ("bearer " ++ token) := by
  have hpos : token.toList ≠ [] := by simpa using h
  refine ⟨?_, by simp, by simp⟩
  rw [String.toList_append, List.length_append]
  have := List.length_pos_iff.mpr hpos
  simp
  omega

/-- The middleware takes the token, and makes its checks. -/
theorem authMiddleware_lower (env : Env) (h : token ≠ "") (cookie : Option String) :
    authMiddleware env ⟨"bearer " ++ token, cookie⟩ = authenticateToken env token := by
  have hother := spelledOtherwise_lower h
  have hbearer : bearerOfHeader ("bearer " ++ token) = some token := by
    unfold bearerOfHeader
    rw [if_pos ⟨hother.length, hother.scheme⟩]
    simp
  unfold authMiddleware requestToken
  rw [if_pos (by simp)]
  simp only [hbearer]

/-- The other reader finds none. -/
theorem authenticateRevokeRequest_lower (h : token ≠ "")
    (hnobasic : env.lib.basicAuth ("bearer " ++ token) = none) :
    authenticateRevokeRequest env ("bearer " ++ token) = .ret false := by
  have hextract : extractBearerToken ("bearer " ++ token) = "" :=
    if_neg fun hbearer => (spelledOtherwise_lower h).spelling hbearer.2
  unfold authenticateRevokeRequest
  rw [hnobasic]
  dsimp only
  rw [if_neg (not_not.mpr hextract)]

end Readers

section Examples

open Deployment

theorem bearer_readers_agree_iff_ann : ReadersAgree env ("Bearer " ++ annToken signatureA) := by
  have hbasic : env.lib.BasicScheme := fun _ _ h => by cases h
  refine (bearer_readers_agree_iff env hbasic _).mpr fun hother => hother.spelling ?_
  simp

theorem annToken_ne_empty : annToken signatureA ≠ "" := by
  unfold annToken Jwt.signedString
  simp [Jwt.signingString]

/-- **A scheme in lower case.** With `bearer` and `ann`'s token the middleware lets `ann` through, and
`POST /auth/revoke` does not. -/
theorem lower_case_scheme_refused :
    AuthenticatesUser env ⟨"bearer " ++ annToken signatureA, none⟩ (fun _ => draw 7 20) ⟨0, store⟩
        annClaims.userID ∧
      ((authenticateRevokeRequest env ("bearer " ++ annToken signatureA)).run backend (fun _ => draw 7 20)
        ⟨0, store⟩).1 = false ∧
      ¬ ReadersAgree env ("bearer " ++ annToken signatureA) := by
  have hclaims := checkAccessToken_annToken
  have hne := annToken_ne_empty
  generalize annToken signatureA = token at hclaims hne
  refine ⟨?_, ?_, fun h => tokens_agree_iff.mp h.token (spelledOtherwise_lower hne)⟩
  · have hrevoked : ¬ store.TokenRevoked (env.lib.sha256Hex token) := by
      rintro ⟨t, ht, _⟩
      cases ht
    unfold AuthenticatesUser
    rw [authMiddleware_lower env hne]
    exact ⟨_, authenticateToken_ok.mpr ⟨annClaims, hclaims, rfl, hrevoked, rfl⟩, rfl⟩
  · rw [authenticateRevokeRequest_lower hne rfl]
    rfl

end Examples

end GoauthServer
