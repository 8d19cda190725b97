import GoauthServer.Spec.Requests

/-!
# Operations that are not about tokens

The web pages, the callback of a provider and the administration of clients and providers neither store nor
look up tokens, do not redeem codes, and do not lock accounts: their requests are *apart*. A result about
tokens need not look at their text again.
-/

namespace GoauthServer

open Interact

/-- The statement does not store, look up or revoke refresh tokens, does not store access tokens, does not look
up or mark codes, and does not touch the lock of an account. -/
def Query.apart : Query → Bool
  | .createAccessToken _ | .createRefreshToken _ | .getRefreshTokenByHash _ | .revokeRefreshToken _ _
  | .revokeRefreshTokenFamily _ _ | .markRefreshTokenUsed _ | .revokeRefreshTokensByUser _ _
  | .getAuthorizationCode _ | .markAuthorizationCodeUsed _ | .lockUserAccount _ _ | .resetLoginAttempts _
  | .unlockUserAccount _ => false
  | _ => true

/-- A request that is not one of these statements. -/
def Request.Apart : Request → Prop
  | .sql q => q.apart = true
  | _ => True

/-- A call all of whose requests are apart. -/
abbrev Apart {α : Type} (p : Call α) : Prop := p.Only Request.Apart

/-! ### The web pages -/

theorem apart_of_signsIn {clientID : UUID} (q : Request) (hq : q.SignsIn clientID) : q.Apart := by
  cases q with
  | sql q => cases q <;> first | rfl | cases hq
  | _ => trivial

theorem webLogin_apart (env : WebEnv) (r : WebLogin) : Apart (webLogin env r) := by
  unfold webLogin
  split
  · trivial
  split
  · trivial
  split
  · trivial
  refine ⟨trivial, ?_⟩
  rintro (_ | bytes)
  · trivial
  refine ((initiateAuthorization_signsIn ..).mono apart_of_signsIn).bind ?_
  rintro (e | authURL) <;> trivial

theorem webCallback_apart (env : WebEnv) (r : WebCallback) : Apart (webCallback env r) := by
  have hfinish : ∀ clientID session, Apart (finishCallback env r clientID session) := by
    intro clientID session
    refine ((handleProviderCallback_signsIn ..).mono apart_of_signsIn).bind ?_
    rintro (e | authCode)
    · trivial
    · dsimp only
      split <;> trivial
  unfold webCallback
  repeat' split
  all_goals first | trivial | exact hfinish _ _

/-! ### Administration -/

theorem apart_of_administers (q : Request) (hq : q.Administers) : q.Apart := by
  cases q with
  | sql q => cases q <;> first | rfl | cases hq
  | _ => trivial

theorem clientOperation_apart (env : AdminEnv) (op : ClientOperation) : Apart (op.call env) := by
  cases op with
  | create dto adminUserID => exact (createClient_only apart_of_administers env dto adminUserID).map _
  | update id dto => exact (updateClient_only apart_of_administers env id dto).map _
  | regenerate id => exact (regenerateSecret_only apart_of_administers env (fun _ => rfl) id).map _
  | delete id => exact (deleteClient_only (C := Request.Apart) rfl rfl).map _
  | bootstrap cfg => exact (bootstrapDefaultClient_only apart_of_administers env (fun _ => rfl) cfg).map _

theorem providerOperation_apart (env : AdminEnv) (op : ProviderOperation) : Apart (op.call env) :=
  op.call_only apart_of_administers env

end GoauthServer
