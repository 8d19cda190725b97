import GoauthServer.Service.Deployment
import GoauthServer.Spec.Authentication

/-!
# Respelled access tokens

`ValidateAccessToken` works on the decoded bytes of the signature, and base64 decoding is not
injective: it ignores the bits left over in the last digit and skips CR and LF. `IsTokenRevoked`
hashes the token as it was sent, and answers "not revoked" where there is no row of that hash. So
a revoked token can be respelled: the same signing input, with another spelling of the same
signature, passes both checks. It is caught exactly when its signature is spelled the way the
encoder spells it (`respelled_rejected_iff`).
-/

namespace GoauthServer

open Interact Base64

/-- `t'` has the signing input of `t`, and its signature decodes to the same bytes. -/
def Respells (t t' : String) : Prop :=
  ∃ header payload s s' sig, Jwt.segments t = some (header, payload, s) ∧
    Jwt.segments t' = some (header, payload, s') ∧ decode rawURL s = some sig ∧
    decode rawURL s' = some sig

/-- The signature segment of the token is spelled as the encoder spells it: no line breaks, and
zeros in the bits that are left over. -/
def CanonicalSignature (token : String) : Prop :=
  ∃ header payload s, Jwt.segments token = some (header, payload, s) ∧ Canonical rawURL s

/-- Every access token in the table is one the service has signed. -/
def Store.AllIssued (env : Env) (s : Store) : Prop :=
  ∀ t ∈ s.accessTokens.rows, ∃ claims sig,
    t.tokenHash = env.lib.sha256Hex (env.accessToken claims sig)

theorem canonicalSignature_accessToken (env : Env) (claims : Claims) (sig : Bytes) :
    CanonicalSignature (env.accessToken claims sig) :=
  ⟨_, _, _, Jwt.segments_signedString _ _ _, sig, decode_encode rawURL_lawful sig, rfl⟩

/-- Validation does not see the spelling of the signature. -/
theorem checkAccessToken_respelled {env : Env} {t t' : String} (h : Respells t t') (now : Time) :
    env.checkAccessToken t' now = env.checkAccessToken t now := by
  obtain ⟨_, _, _, _, sig, hs, hs', hd, hd'⟩ := h
  exact Jwt.parse_congr hs' hs (hd'.trans hd.symm) now

/-- Among the spellings of an issued token, the canonical one is the token itself. -/
theorem respells_canonical_iff {env : Env} {claims : Claims} {sig : Bytes} {t' : String}
    (h : Respells (env.accessToken claims sig) t') :
    CanonicalSignature t' ↔ t' = env.accessToken claims sig := by
  obtain ⟨header, payload, s, s', bytes, hs, hs', hd, hd'⟩ := h
  have hseg := Jwt.segments_signedString headerES256 (env.lib.claims.marshal claims) sig
  constructor
  · rintro ⟨h₂, p₂, s₂, hs₂, hcan⟩
    rw [hs'] at hs₂
    obtain ⟨rfl, rfl, rfl⟩ := hs₂
    rw [canonical_iff rawURL_lawful hd'] at hcan
    -- both signature segments encode the same bytes
    have hss : s' = s := by
      have heq : (header, payload, s) = _ := Option.some.inj (hs.symm.trans hseg)
      have hs_enc : s = encode rawURL sig := congrArg (fun x => x.2.2) heq
      rw [hs_enc, decode_encode rawURL_lawful] at hd
      rw [hcan, hs_enc, Option.some.inj hd]
    rw [Jwt.segments_eq_some hs', Jwt.segments_eq_some hs, hss]
  · rintro rfl
    exact canonicalSignature_accessToken env claims sig

section Respelled

variable {env : Env} {w : World} {claims : Claims} {sig : Bytes} {t' : String}

/-- The table has a revoked row for a spelling of a revoked token only if it is the canonical one. -/
theorem tokenRevoked_respelled_iff
    (hrevoked : w.db.TokenRevoked (env.lib.sha256Hex (env.accessToken claims sig)))
    (hissued : w.db.AllIssued env)
    (hinj : ∀ c s, env.lib.sha256Hex (env.accessToken c s) = env.lib.sha256Hex t' → env.accessToken c s = t')
    (hspell : Respells (env.accessToken claims sig) t') :
    w.db.TokenRevoked (env.lib.sha256Hex t') ↔ CanonicalSignature t' := by
  constructor
  · rintro ⟨t, ht, hhash, _⟩
    obtain ⟨c, s, hcs⟩ := hissued t ht
    rw [← hinj c s (hcs.symm.trans hhash)]
    exact canonicalSignature_accessToken env c s
  · intro hcan
    rw [(respells_canonical_iff hspell).mp hcan]
    exact hrevoked

/-- **A respelled token is caught exactly when its signature is spelled canonically.** `t'` is a
spelling of a revoked token that is valid at the time of the request; the rows of the table are
those of issued tokens, and none of them has the digest of `t'` by accident. -/
theorem respelled_rejected_iff {headers : RequestHeaders} {ds : ℕ → Draw}
    (hrevoked : w.db.TokenRevoked (env.lib.sha256Hex (env.accessToken claims sig)))
    (hissued : w.db.AllIssued env)
    (hinj : ∀ c s, env.lib.sha256Hex (env.accessToken c s) = env.lib.sha256Hex t' →
      env.accessToken c s = t')
    (hspell : Respells (env.accessToken claims sig) t')
    (hvalid : ∃ c, env.checkAccessToken t' (w.wait (ds 0).wait).now = .ok c)
    (hheaders : requestToken headers = .ok t') (hfault : ∀ n, (ds n).fault = false) :
    (((isTokenRevoked env t').run backend ds w).1 = .ok true ↔ CanonicalSignature t') ∧
      ((∀ ctx, ((authMiddleware env headers).run backend ds w).1 ≠ .ok ctx) ↔
        CanonicalSignature t') := by
  have hiff := tokenRevoked_respelled_iff hrevoked hissued hinj hspell
  constructor
  · rw [isTokenRevoked_run ds w (hfault 0), ← hiff]
    simp
  · obtain ⟨c, hc⟩ := hvalid
    have hrun : authMiddleware env headers = authenticateToken env t' := by
      unfold authMiddleware
      rw [hheaders]
    rw [hrun, ← hiff]
    constructor
    · intro hno
      by_contra hrev
      exact hno _ (authenticateToken_ok.mpr ⟨c, hc, hfault 1, hrev, rfl⟩)
    · intro hrev ctx hok
      obtain ⟨_, _, _, hnot, _⟩ := authenticateToken_ok.mp hok
      exact hnot hrev

end Respelled

/-! ### In the deployment -/

open Deployment

/-- `annToken signatureA` was revoked. -/
def revokedWorld : World := ⟨0, revokedStore⟩

theorem revokedWorld_tokenRevoked :
    revokedWorld.db.TokenRevoked (env.lib.sha256Hex (env.accessToken annClaims signatureA)) := by
  rw [accessToken_annClaims, show env.lib = lib from rfl, sha256Hex_annToken]
  exact ⟨annAccessToken.revoke, List.mem_singleton_self _, rfl, rfl⟩

/-- The token itself is rejected. -/
theorem respelled_rejected_iff_annToken :
    (((isTokenRevoked env (annToken signatureA)).run backend (fun _ => draw 7 20)
      revokedWorld).1 = .ok true ↔ CanonicalSignature (annToken signatureA)) ∧
    ((∀ ctx, ((authMiddleware env ⟨"", some (annToken signatureA)⟩).run backend
        (fun _ => draw 7 20) revokedWorld).1 ≠ .ok ctx) ↔
      CanonicalSignature (annToken signatureA)) := by
  refine respelled_rejected_iff revokedWorld_tokenRevoked ?_ ?_ ?_
    ⟨annClaims, checkAccessToken_annToken⟩ rfl fun _ => rfl
  · intro t ht
    obtain rfl := List.mem_singleton.mp ht
    exact ⟨annClaims, signatureA, by rw [accessToken_annClaims]; exact sha256Hex_annToken.symm⟩
  · exact fun c s h => eq_annToken h
  · rw [accessToken_annClaims]
    exact ⟨_, _, _, _, signatureA, Jwt.segments_signedString _ _ _, Jwt.segments_signedString _ _ _,
      decode_encode rawURL_lawful _, decode_encode rawURL_lawful _⟩

theorem respells_respelledToken : Respells (annToken signatureA) respelledToken :=
  ⟨_, _, _, respelledSignature, signatureA, Jwt.segments_signedString _ _ _,
    Jwt.segments_ofList (dot_notMem_encode rawURL_lawful _) (dot_notMem_encode rawURL_lawful _)
      (by decide +kernel), decode_encode rawURL_lawful _, by decide +kernel⟩

/-- No row has the digest of the respelled token. -/
theorem not_tokenRevoked_respelledToken : ¬ revokedWorld.db.TokenRevoked (lib.sha256Hex respelledToken) := by
  rintro ⟨t, ht, hhash, _⟩
  obtain rfl := List.mem_singleton.mp ht
  have heq : respelledToken = annToken signatureA :=
    eq_annToken (hhash.symm.trans sha256Hex_annToken.symm)
  have hlist := congrArg String.toList heq
  unfold respelledToken annToken Jwt.signedString at hlist
  rw [String.toList_ofList, String.toList_ofList] at hlist
  exact absurd (List.append_cancel_left hlist) (by decide +kernel)

/-- **A revoked token goes through** with the last digit of its signature changed from `A` to
`B`. -/
theorem respelled_annToken_accepted :
    revokedWorld.db.TokenRevoked (env.lib.sha256Hex (env.accessToken annClaims signatureA)) ∧
      Respells (env.accessToken annClaims signatureA) respelledToken ∧
      ((isTokenRevoked env respelledToken).run backend (fun _ => draw 7 20) revokedWorld).1 =
        .ok false ∧
      ((authMiddleware env ⟨"", some respelledToken⟩).run backend (fun _ => draw 7 20)
        revokedWorld).1 = .ok ⟨respelledToken, annText, "ann@example.com"⟩ := by
  have hspell := respells_respelledToken
  have hnot : ¬ revokedWorld.db.TokenRevoked (env.lib.sha256Hex respelledToken) :=
    not_tokenRevoked_respelledToken
  refine ⟨revokedWorld_tokenRevoked, by rw [accessToken_annClaims]; exact hspell, ?_, ?_⟩
  · rw [isTokenRevoked_run _ _ rfl]
    simp [hnot]
  · refine authenticateToken_ok.mpr ⟨annClaims, ?_, rfl, hnot, rfl⟩
    rw [checkAccessToken_respelled hspell]
    exact checkAccessToken_annToken

end GoauthServer
