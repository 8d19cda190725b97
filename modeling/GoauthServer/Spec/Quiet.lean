import GoauthServer.Spec.Requests

/-!
# Operations that issue nothing

Most operations only read, revoke or delete: they insert no row but audit entries, and they leave
the status of users alone. They are *quiet*. What a quiet operation does to the tables is covered
by the facts about all statements in `Repository/Evolution.lean`, so nothing more has to be known
about its text.
-/

namespace GoauthServer

open Interact

/-- The statement inserts no user, code or token, does not write `is_active` of a user, does not set
`force_password_change`, and writes neither clients nor providers. -/
def Query.quiet : Query → Bool
  | .createUser _ | .createAuthorizationCode _ | .createAccessToken _ | .createRefreshToken _
  | .updateUserActiveStatus _ _ | .setForcePasswordChange _ true | .createClient _ | .updateClient _
  | .deleteClient _ | .regenerateClientSecret _ _ | .createOAuthProvider _
  | .updateOAuthProvider _ | .disableOAuthProvider _ | .deleteOAuthProvider _ => false
  | _ => true

/-- A request that is not one of these statements. -/
def Request.Quiet : Request → Prop
  | .sql q => q.quiet = true
  | _ => True

/-- A call all of whose requests are quiet. -/
abbrev Quiet {α : Type} (p : Call α) : Prop := p.Only Request.Quiet

/-! ### Revocation -/

theorem revokeToken_quiet (tokenHash : String) : Quiet (revokeToken tokenHash) :=
  revokeToken_only (fun _ => rfl) (fun _ => rfl) tokenHash

theorem revokeUserRefreshTokens_quiet (userID : UUID) (reason : String) :
    Quiet (revokeUserRefreshTokens userID reason) :=
  revokeUserRefreshTokens_only rfl

theorem revokeRefreshTokenAndLinkedAccess_quiet (env : Env) (rt : RefreshToken) :
    Quiet (revokeRefreshTokenAndLinkedAccess env rt) := by
  unfold revokeRefreshTokenAndLinkedAccess
  split
  · trivial
  · refine ⟨rfl, fun r => ?_⟩
    dsimp only
    split
    · trivial
    · refine logEvent_only (fun _ => rfl) ?_
      exact revokeLinkedAccess_only (fun _ => rfl) (fun _ => rfl) (fun _ => rfl) env rt

theorem revokeAnyToken_quiet (env : Env) (rawToken tokenTypeHint : String) :
    Quiet (revokeAnyToken env rawToken tokenTypeHint) := by
  have haccess : Quiet (revokeAnyAccessToken env rawToken) :=
    revokeAnyAccessToken_only (fun _ => rfl) (fun _ => rfl) (fun _ => rfl) env rawToken
  unfold revokeAnyToken
  split
  · refine ⟨rfl, fun r => ?_⟩
    dsimp only
    split
    · exact revokeRefreshTokenAndLinkedAccess_quiet env _
    · exact haccess
    · trivial
  · exact haccess

theorem revoke_quiet (env : Env) (authorization : String) (form : Option (String × String)) :
    Quiet (revoke env authorization form) := by
  have hauth : Quiet (authenticateRevokeRequest env authorization) :=
    authenticateRevokeRequest_only trivial (fun _ => rfl) (fun _ => rfl) env authorization
  refine hauth.bind fun r => ?_
  split
  · trivial
  · split
    · trivial
    · split
      · trivial
      · exact (revokeAnyToken_quiet env _ _).bind fun _ => trivial

theorem revokeUserSessions_quiet (env : Env) (idParam : String) (actorID : Option UUID) :
    Quiet (revokeUserSessions env idParam actorID) := by
  unfold revokeUserSessions
  split
  · trivial
  · refine (getUser_only (C := Request.Quiet) rfl).bind fun r => ?_
    split
    · trivial
    · trivial
    · refine (revokeUserRefreshTokens_quiet _ _).bind fun r => ?_
      split
      · trivial
      · exact logEvent_only (fun _ => rfl) trivial

/-! ### Accounts and cleanup -/

theorem cleanupExpiredCodes_quiet : Quiet cleanupExpiredCodes :=
  sql_only rfl fun r => by cases r <;> exact ⟨_, rfl⟩

theorem cleanupExpiredTokens_quiet : Quiet cleanupExpiredTokens :=
  sql_only rfl fun r => by cases r <;> exact ⟨_, rfl⟩

theorem unlockUserAccount_quiet (userID : UUID) : Quiet (unlockUserAccount userID) := by
  refine ⟨rfl, fun r => ?_⟩
  dsimp only
  split <;> trivial

theorem logout_quiet (env : Env) (ctx : AuthContext) : Quiet (logout env ctx) := by
  refine (revokeToken_quiet _).bind fun _ => ?_
  unfold logoutRefreshTokens
  split
  · trivial
  · split
    · trivial
    · exact (revokeUserRefreshTokens_quiet _ _).map _

theorem logoutRequest_quiet (env : Env) (h : RequestHeaders) : Quiet (logoutRequest env h) := by
  refine (authMiddleware_only (C := Request.Quiet) trivial (fun _ => rfl) env h).bind fun r => ?_
  split
  · trivial
  · exact (logout_quiet env _).map _

theorem changePassword_quiet (env : Env) (userID : UUID) (newPassword : String) :
    Quiet (changePassword env userID newPassword) := by
  refine ⟨rfl, fun r => ?_⟩
  dsimp only
  split
  · trivial
  · trivial
  · split
    · trivial
    · split
      · trivial
      · refine ⟨trivial, fun r => ?_⟩
        dsimp only
        split
        · trivial
        · refine ⟨rfl, fun r => ?_⟩
          dsimp only
          split
          · trivial
          · refine ⟨rfl, fun r => ?_⟩
            dsimp only
            split
            · trivial
            · exact ⟨rfl, fun _ => logEvent_only (fun _ => rfl) (logEvent_only (fun _ => rfl) trivial)⟩

end GoauthServer
