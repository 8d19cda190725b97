import GoauthServer.Spec.Exchange
import GoauthServer.Spec.Login
import GoauthServer.Spec.Rotation

/-!
# What any operation may do

The protocols of the operations, collected: `Operation.request` says which requests an operation
may make, `Operation.result` what it may hand out. `Operation.obeys` is the one fact about the
text of the server that the results about whole runs use.
-/

namespace GoauthServer

open Interact

variable {op : Operation} {log : Log effects}

/-- The requests of an operation. -/
def Operation.request (env : Env) : Operation → Request → Log effects → Prop
  | .login email password _ => loginRequest env email password
  | .changePasswordHandler challengeToken _ => changePasswordRequest env challengeToken
  | .handleProviderCallback _ providerName _ _ _ _ => callbackRequest providerName
  | .exchangeCodeForToken code _ _ _ => exchangeRequest env code
  | .rotateRefreshToken rawToken _ _ => rotationRequest env (env.lib.sha256Hex rawToken)
  | .updateUserStatus id isActive => fun q _ =>
    q = .sql (.updateUserActiveStatus id isActive) ∨ q.Quiet
  | _ => fun q _ => q.Quiet

/-- The outcomes of an operation. -/
def Operation.result (env : Env) : Operation → Outcome → Log effects → Prop
  | .login _ _ _, r, log => ∃ reply, r = .login reply ∧ loginResult env reply log
  | .changePasswordHandler _ _, r, log =>
    ∃ reply, r = .login reply ∧ changePasswordResult env reply log
  | .handleProviderCallback _ _ _ _ _ _, r, _ => ∃ reply, r = .code reply
  | .exchangeCodeForToken _ _ _ _, r, log =>
    ∃ reply, r = .tokens reply ∧ exchangeResult env reply log
  | .rotateRefreshToken _ _ _, r, log => ∃ reply, r = .tokens reply ∧ rotationResult env reply log
  | _, r, _ => r = .done

/-- The protocol of an operation. -/
def Operation.protocol (env : Env) (op : Operation) : Protocol effects Outcome :=
  ⟨op.request env, op.result env⟩

/-- A quiet call whose result is thrown away. -/
theorem Quiet.obeys_done {α : Type} {p : Call α} (hp : Quiet p) :
    (p.map fun _ => Outcome.done).Obeys ⟨fun q _ => Request.Quiet q, fun r _ => r = .done⟩ [] := by
  have hobeys : p.Obeys ⟨fun q _ => Request.Quiet q, fun _ _ => True⟩ [] :=
    Prog.Only.obeys (fun _ _ h => h) (fun _ _ => trivial) hp []
  exact hobeys.map (fun _ _ h => h) fun _ _ _ => rfl

/-- **Every operation obeys its protocol.** -/
theorem Operation.obeys (env : Env) (op : Operation) : (op.call env).Obeys (op.protocol env) [] := by
  cases op with
  | login email password sourceIP =>
    exact (login_obeys env email password sourceIP).map (fun _ _ h => h) fun r _ h => ⟨r, rfl, h⟩
  | changePasswordHandler challengeToken newPassword =>
    exact (changePasswordHandler_obeys env challengeToken newPassword).map (fun _ _ h => h)
      fun r _ h => ⟨r, rfl, h⟩
  | handleProviderCallback clientID providerName code callbackURL clientRedirectURI scope =>
    exact (handleProviderCallback_obeys env clientID providerName code callbackURL
      clientRedirectURI scope).map (fun _ _ h => h) fun r _ _ => ⟨r, rfl⟩
  | exchangeCodeForToken code clientID clientSecret redirectURI =>
    exact (exchangeCodeForToken_obeys env code clientID clientSecret redirectURI).map
      (fun _ _ h => h) fun r _ h => ⟨r, rfl, h⟩
  | rotateRefreshToken rawToken clientID clientSecret =>
    exact (rotateRefreshToken_obeys env rawToken clientID clientSecret).map (fun _ _ h => h)
      fun r _ h => ⟨r, rfl, h⟩
  | updateUserStatus id isActive =>
    refine ⟨Or.inl rfl, fun r => ?_⟩
    rcases r with e | u
    · cases e <;> rfl
    · rfl
  | changePassword userID newPassword => exact (changePassword_quiet env userID newPassword).obeys_done
  | revoke authorization form => exact (revoke_quiet env authorization form).obeys_done
  | revokeAnyToken rawToken tokenTypeHint => exact (revokeAnyToken_quiet env rawToken tokenTypeHint).obeys_done
  | revokeToken tokenHash => exact (revokeToken_quiet tokenHash).obeys_done
  | revokeRawToken rawToken => exact (revokeToken_quiet _).obeys_done
  | revokeAllUserAccessTokens userID => exact Quiet.obeys_done (revokeAllUserAccessTokens_only rfl)
  | revokeUserRefreshTokens userID reason => exact (revokeUserRefreshTokens_quiet userID reason).obeys_done
  | logout headers => exact (logoutRequest_quiet env headers).obeys_done
  | revokeUserSessions idParam actorID => exact (revokeUserSessions_quiet env idParam actorID).obeys_done
  | sessionRevokeAuthorizationCode id => exact Quiet.obeys_done (sessionRevokeAuthorizationCode_only rfl rfl)
  | sessionRevokeAccessToken id => exact Quiet.obeys_done (sessionRevokeAccessToken_only rfl rfl)
  | sessionRevokeUserSessions userID => exact Quiet.obeys_done (sessionRevokeUserSessions_only rfl)
  | sessionRevokeClientSessions clientID => exact Quiet.obeys_done (sessionRevokeClientSessions_only rfl)
  | unlockUserAccount userID => exact (unlockUserAccount_quiet userID).obeys_done
  | cleanupExpiredCodes => exact cleanupExpiredCodes_quiet.obeys_done
  | cleanupExpiredTokens => exact cleanupExpiredTokens_quiet.obeys_done

/-- Only rotation and exchange store refresh tokens. -/
theorem Operation.eq_of_createRefreshToken {env : Env}
    {p : CreateRefreshTokenParams} (h : op.request env (.sql (.createRefreshToken p)) log) :
    (∃ rawToken clientID clientSecret, op = .rotateRefreshToken rawToken clientID clientSecret) ∨
      ∃ code clientID clientSecret redirectURI,
        op = .exchangeCodeForToken code clientID clientSecret redirectURI := by
  cases op with
  | rotateRefreshToken rawToken clientID clientSecret => exact Or.inl ⟨_, _, _, rfl⟩
  | exchangeCodeForToken code clientID clientSecret redirectURI => exact Or.inr ⟨_, _, _, _, rfl⟩
  | updateUserStatus =>
    rcases h with h | h
    · cases h
    · cases h
  | _ => cases h

/-- Only callbacks store codes. -/
theorem Operation.eq_of_createAuthorizationCode {env : Env}
    {p : CreateAuthorizationCodeParams} (h : op.request env (.sql (.createAuthorizationCode p)) log) :
    ∃ clientID providerName code callbackURL clientRedirectURI scope,
      op = .handleProviderCallback clientID providerName code callbackURL clientRedirectURI scope := by
  cases op with
  | handleProviderCallback => exact ⟨_, _, _, _, _, _, rfl⟩
  | updateUserStatus =>
    rcases h with h | h
    · cases h
    · cases h
  | _ => cases h

/-- Only logins, changes of password, rotations and exchanges store access tokens. -/
theorem Operation.eq_of_createAccessToken {env : Env}
    {p : CreateAccessTokenParams} (h : op.request env (.sql (.createAccessToken p)) log) :
    (∃ email password sourceIP, op = .login email password sourceIP) ∨
      (∃ challengeToken newPassword, op = .changePasswordHandler challengeToken newPassword) ∨
      (∃ rawToken clientID clientSecret, op = .rotateRefreshToken rawToken clientID clientSecret) ∨
      ∃ code clientID clientSecret redirectURI,
        op = .exchangeCodeForToken code clientID clientSecret redirectURI := by
  cases op with
  | login => exact Or.inl ⟨_, _, _, rfl⟩
  | changePasswordHandler => exact Or.inr (Or.inl ⟨_, _, rfl⟩)
  | rotateRefreshToken => exact Or.inr (Or.inr (Or.inl ⟨_, _, _, rfl⟩))
  | exchangeCodeForToken => exact Or.inr (Or.inr (Or.inr ⟨_, _, _, _, rfl⟩))
  | updateUserStatus =>
    rcases h with h | h
    · cases h
    · cases h
  | _ => cases h

theorem operations_obeys {ι : Type} (env : Env) (ops : ι → Operation) (w : World) :
    Pool.Obeys (fun i => (ops i).protocol env) (operations env ops w) :=
  Pool.Obeys.start (B := backend) (fun i => (ops i).obeys env) w

end GoauthServer
