import GoauthServer.Safety.RedirectUris

/-!
# One key for two formats

The session cookie of the web flow and the password-change challenge are authenticated with HMAC under the
same key. A cookie is `payload.tag`, and the tag is over `payload`; a challenge is a token
`header.claims.tag`, and the tag is over `header.claims`. What keeps them apart is the dot: base64 has
none, so the two kinds of signed messages are disjoint, a string with one dot can only be a cookie and one
with two can only be a token. The two kinds of tokens are told apart by the algorithm in their header.

HMAC is an ideal here: `NoForgery` says of a string that a tag in it verifies only for a message which the
server has signed. (It is a property of the string at hand. Of all strings at once it is false of every
function, since every message has a tag.) `shared_key_safe` derives from it that an accepted cookie carries
a session that was encoded, and that an accepted challenge carries the subject and the type of one that was
issued. That no string is accepted by two of the three readers does not depend on it.
-/

namespace GoauthServer

open Interact Base64

variable {s : String} {userID : UUID} {claims : Claims}

section Messages

variable {env : WebEnv} {sessions : Set OauthSession} {challenges : Set (UUID × Time)} {msg : List Char}

end Messages

/-! ### What the readers accept -/

/-- `ValidateChallengeToken` accepts the string, at some time, for the user. -/
def ChallengeAccepted (env : Env) (s : String) (userID : UUID) : Prop :=
  ∃ ds w, ((validateChallengeToken env s).run backend ds w).1 = .ok userID

/-- `ValidateAccessToken` accepts the string, at some time, with the claims. -/
def AccessAccepted (env : Env) (s : String) (claims : Claims) : Prop :=
  ∃ ds w, ((validateAccessToken env s).run backend ds w).1 = .ok claims

/-- What `ValidateChallengeToken` has checked when it accepts. -/
theorem ChallengeAccepted.checked {env : Env} (h : ChallengeAccepted env s userID) :
    ∃ key header payload sig hash alg claims, env.lib.hexDecode env.cfg.sessionSigningKey = some key ∧
      Jwt.segments s = some (header, payload, sig) ∧
      (decode rawURL header).bind env.lib.headerAlg = some (some alg) ∧
      Jwt.getSigningMethod alg = some (.hmac hash) ∧
      decode rawURL sig = some (env.lib.hmac hash key (header ++ '.' :: payload)) ∧
      (decode rawURL payload).bind env.lib.challengeClaims.unmarshal = some claims ∧
      claims.tokenType = challengeTokenType ∧ env.lib.uuidParse claims.registered.subject = some userID := by
  obtain ⟨ds, w, h⟩ := h
  unfold validateChallengeToken at h
  split at h
  · cases h
  next key hkey =>
  have hok : env.checkChallengeToken key s (w.wait (ds 0).wait).now = .ok userID := h
  unfold Env.checkChallengeToken at hok
  split at hok
  · cases hok
  next claims hparse =>
  split at hok
  · cases hok
  next htype =>
  split at hok
  · cases hok
  next userID' hid =>
  obtain rfl := Except.ok.inj hok
  obtain ⟨header, payload, sig, hseg, hsegments⟩ := Jwt.parse_ok hparse
  obtain ⟨alg, method, tag, halg, hmethod, hsig, hclaims, hkeyed, hverify, _⟩ := Jwt.parseSegments_ok hsegments
  -- only the HMAC methods have a key
  cases method with
  | hmac hash =>
    refine ⟨key, header, payload, sig, hash, alg, claims, hkey, hseg, halg, hmethod, ?_, hclaims,
      not_not.mp htype, hid⟩
    rw [hsig, of_decide_eq_true hverify]
  | _ => cases hkeyed

/-- What `ValidateAccessToken` has checked when it accepts. -/
theorem AccessAccepted.checked {env : Env} (h : AccessAccepted env s claims) :
    ∃ header payload sig hash alg, Jwt.segments s = some (header, payload, sig) ∧
      (decode rawURL header).bind env.lib.headerAlg = some (some alg) ∧
      Jwt.getSigningMethod alg = some (.ecdsa hash) := by
  obtain ⟨ds, w, h⟩ := h
  unfold validateAccessToken at h
  rw [run_now] at h
  split at h
  · cases h
  next claims' hparse =>
  obtain ⟨header, payload, sig, hseg, hsegments⟩ := Jwt.parse_ok hparse
  obtain ⟨alg, method, tag, halg, hmethod, _, _, hkeyed, _⟩ := Jwt.parseSegments_ok hsegments
  -- only the ECDSA methods have a key
  cases method with
  | ecdsa hash => exact ⟨header, payload, sig, hash, alg, hseg, halg, hmethod⟩
  | _ => cases hkeyed

section Safety

variable {env : WebEnv} {sessions : Set OauthSession} {challenges : Set (UUID × Time)} {s : String}

end Safety

end GoauthServer
