import GoauthServer.Spec.Exchange
import GoauthServer.Spec.Unseen

/-!
# The grants and the login next to cleanups

The token endpoint and the login in two worlds of which one trails the other, as `Spec/Cleanup.lean` has it. The
runs are answered against the same draws, and each lemma says that they end with the same response, in worlds of
which one is still behind the other (`Agrees`).

The one thing that is assumed of the draws is that a new access token does not clash with a row that has expired
(`Request.Fresh`): the insert would fail in the run that still has the row, and in that run only.

A code that was removed had expired, and all errors of the exchange about a code have one response. A rotation
never looks at the link that a cleanup clears.
-/

namespace GoauthServer

open Interact Relational GoTime

variable {β : Type}

/-! ### New rows -/

/-- A new access token has neither the identifier nor the hash of a row that has expired. -/
def Request.Fresh (q : Request) (d : Draw) (w : World) : Prop :=
  match q with
  | .sql (.createAccessToken p) =>
    ∀ a ∈ w.db.accessTokens.rows, a.expiresAt < w.now → a.id ≠ d.uuid ∧ a.tokenHash ≠ p.tokenHash
  | _ => True

/-- Equal results, and a run behind the other. -/
def Agrees (x : Removed) (t : Time) (a : α) (w : World) (b : α) (w' : World) : Prop :=
  a = b ∧ w.Behind x t w'

section Rules

variable {x : Removed} {t : Time} {w w' : World} {Q : β → World → β → World → Prop} {q : Request}
  {k k' : q.Reply → Call β} {tokenHash : String}

/-- A request to which both get the same reply, with `P`. -/
theorem alike_call {P : q.Reply → Prop} (hq : ∀ d, q.Fresh d w → (respond q d w').1 = (respond q d w).1 ∧
      World.Trails x t (respond q d w).2 (respond q d w').2 ∧ P (respond q d w).1)
    (hk : ∀ r v v', World.Trails x t v v' → P r → (k r).Alike backend Request.Fresh Q (k' r) v v') :
    Prog.Alike (S := effects) backend Request.Fresh Q (.call q k) (.call q k') w w' := by
  refine .call fun d hfresh => ?_
  obtain ⟨hreply, hw, hP⟩ := hq d hfresh
  show Prog.Alike backend Request.Fresh Q _ (k' (respond q d w').1) _ _
  rw [hreply]
  exact hk _ _ _ hw hP

theorem alike_blind (h : w.Trails x t w') (hq : q.Blind)
    (hk : ∀ r v v', World.Trails x t v v' → (k r).Alike backend Request.Fresh Q (k' r) v v') :
    Prog.Alike (S := effects) backend Request.Fresh Q (.call q k) (.call q k') w w' := by
  refine alike_call (P := fun _ => True) (fun d _ => ?_) fun r v v' h _ => hk r v v' h
  obtain ⟨hreply, hw⟩ := h.blind hq d
  exact ⟨hreply, hw, trivial⟩

theorem alike_ret {a : β} (h : w.Trails x t w') :
    Prog.Alike (S := effects) backend Request.Fresh (Agrees x t) (.ret a) (.ret a) w w' :=
  .ret ⟨rfl, h.behind⟩

theorem Unseen.agrees {p : Call β} (hp : Unseen p) (h : w.Trails x t w') :
    p.Alike backend Request.Fresh (Agrees x t) p w w' := by
  refine .of_lockstep ((hp.lockstep h).mono ?_)
  rintro a v b v' ⟨hab, hv⟩
  exact ⟨hab, hv.behind⟩

/-- **A new access token** is stored in both, under an identifier that was not removed. -/
theorem alike_createAccessToken {p : CreateAccessTokenParams} {k : Except DBError AccessToken → Call β}
    (h : w.Trails x t w')
    (hk : ∀ r v v', World.Trails x t v v' → (∀ a, r = .ok a → x.tokens a.id = false) →
      (k r).Alike backend Request.Fresh Q (k r) v v') :
    (Call.sql (.createAccessToken p) k).Alike backend Request.Fresh Q (Call.sql (.createAccessToken p) k)
      w w' := by
  refine alike_call (fun d hfresh => ?_) hk
  have hnew : ∀ a ∈ w.db.accessTokens.rows, x.tokens a.id = true →
      a.id ≠ d.uuid ∧ a.tokenHash ≠ p.tokenHash :=
    fun a ha hx => hfresh a ha ((h.expired.tokens a ha hx).trans_le h.since)
  have hid : x.tokens d.uuid = false := by
    by_contra hx
    rw [Bool.not_eq_false] at hx
    obtain ⟨a, ha, haid⟩ := h.expired.present _ hx
    exact (hnew a ha (haid ▸ hx)).1 haid
  obtain ⟨hreply, hw⟩ := h.createAccessToken (p := p) hid fun a ha hx => (hnew a ha hx).2
  refine ⟨hreply, hw, fun a ha => ?_⟩
  rcases respond_createAccessToken d w p with ⟨e, hr, _⟩ | ⟨_, _, hr, _⟩
  · cases hr.symm.trans ha
  · -- the row that is returned is the one that was inserted
    obtain rfl := Except.ok.inj (hr.symm.trans ha)
    exact hid

theorem alike_createRefreshToken {p : CreateRefreshTokenParams} {k : Except DBError RefreshToken → Call β}
    (h : w.Trails x t w') (hx : x.tokens p.accessTokenID = false)
    (hk : ∀ r v v', World.Trails x t v v' → (k r).Alike backend Request.Fresh Q (k r) v v') :
    (Call.sql (.createRefreshToken p) k).Alike backend Request.Fresh Q (Call.sql (.createRefreshToken p) k)
      w w' := by
  refine alike_call (P := fun _ => True) (fun d _ => ?_) fun r v v' h _ => hk r v v' h
  obtain ⟨hreply, hw⟩ := h.createRefreshToken (d := d) hx
  exact ⟨hreply, hw, trivial⟩

theorem alike_markAuthorizationCodeUsed {id : UUID} {k : Except DBError AuthorizationCode → Call β}
    (h : w.Trails x t w') (hx : x.codes id = false)
    (hk : ∀ r v v', World.Trails x t v v' → (k r).Alike backend Request.Fresh Q (k r) v v') :
    (Call.sql (.markAuthorizationCodeUsed id) k).Alike backend Request.Fresh Q
      (Call.sql (.markAuthorizationCodeUsed id) k) w w' := by
  refine alike_call (P := fun _ => True) (fun d _ => ?_) fun r v v' h _ => hk r v v' h
  obtain ⟨hreply, hw⟩ := h.markAuthorizationCodeUsed (d := d) hx
  exact ⟨hreply, hw, trivial⟩

/-- **The look-up of a refresh token** finds it in both, once without its link. -/
theorem alike_getRefreshTokenByHash {k : Except DBError RefreshToken → Call β} (h : w.Trails x t w')
    (herror : ∀ e v v', World.Trails x t v v' →
      (k (.error e)).Alike backend Request.Fresh Q (k (.error e)) v v')
    (hok : ∀ r v v', World.Trails x t v v' →
      (k (.ok r)).Alike backend Request.Fresh Q (k (.ok (x.unlink r))) v v') :
    (Call.sql (.getRefreshTokenByHash tokenHash) k).Alike backend Request.Fresh Q
      (Call.sql (.getRefreshTokenByHash tokenHash) k) w w' := by
  refine .call fun d _ => ?_
  have hw := h.read (q := .sql (.getRefreshTokenByHash tokenHash)) rfl d
  have hreply := h.getRefreshTokenByHash d tokenHash
  show Prog.Alike backend Request.Fresh Q _ (k (respond (.sql (.getRefreshTokenByHash tokenHash)) d w').1) _ _
  rw [hreply]
  show Prog.Alike backend Request.Fresh Q (k (respond (.sql (.getRefreshTokenByHash tokenHash)) d w).1) _ _ _
  cases (respond (.sql (.getRefreshTokenByHash tokenHash)) d w).1 with
  | error e => exact herror e _ _ hw
  | ok r => exact hok r _ _ hw

/-- **The look-up of an access token** finds the same row in both, or one that was removed. -/
theorem alike_getAccessToken {k : Except DBError AccessToken → Call β} (h : w.Trails x t w')
    (hsame : ∀ r v v', World.Trails x t v v' → (k r).Alike backend Request.Fresh Q (k r) v v')
    (hgone : ∀ a v v', World.Trails x t v v' → x.tokens a.id = true →
      (k (.ok a)).Alike backend Request.Fresh Q (k (.error .noRows)) v v') :
    (Call.sql (.getAccessToken tokenHash) k).Alike backend Request.Fresh Q
      (Call.sql (.getAccessToken tokenHash) k) w w' := by
  refine .call fun d _ => ?_
  have hw := h.read (q := .sql (.getAccessToken tokenHash)) rfl d
  show Prog.Alike backend Request.Fresh Q (k (respond (.sql (.getAccessToken tokenHash)) d w).1)
    (k (respond (.sql (.getAccessToken tokenHash)) d w').1) _ _
  rcases h.getAccessToken d tokenHash with heq | ⟨a, _, _, hx, hfound, hnone⟩
  · rw [heq]
    exact hsame _ _ _ hw
  · rw [hfound, hnone]
    exact hgone a _ _ hw hx

end Rules

/-! ### The code grant -/

section Grants

variable {env : Env} {x : Removed} {t : Time} {w w' : World}

theorem issueRefreshToken_agrees (clientID : UUID) (authCode : AuthorizationCode) (user : User)
    {record : AccessToken} (tokenString : String) (hx : x.tokens record.id = false) (h : w.Trails x t w') :
    (issueRefreshToken env clientID authCode user record tokenString).Alike backend Request.Fresh (Agrees x t)
      (issueRefreshToken env clientID authCode user record tokenString) w w' := by
  refine alike_blind h trivial fun bytes w w' h => ?_
  cases bytes with
  | none => exact alike_ret h
  | some bytes =>
    refine alike_blind h trivial fun familyID w w' h => alike_blind h trivial fun now w w' h => ?_
    refine alike_createRefreshToken h hx fun r w w' h => ?_
    cases r with
    | error e => exact alike_ret h
    | ok _ => exact Unseen.agrees (logEvent_unseen trivial) h

theorem issueTokens_agrees (client : Client) (clientID : UUID) (authCode : AuthorizationCode) (user : User)
    (tokenString : String) (h : w.Trails x t w') :
    (issueTokens env client clientID authCode user tokenString).Alike backend Request.Fresh (Agrees x t)
      (issueTokens env client clientID authCode user tokenString) w w' := by
  refine alike_blind h trivial fun now w w' h => alike_createAccessToken h fun r w w' h hnew => ?_
  cases r with
  | error e => exact alike_ret h
  | ok record =>
    dsimp only
    split
    · exact issueRefreshToken_agrees clientID authCode user tokenString (hnew record rfl) h
    · exact alike_ret h

theorem redeemCode_agrees (client : Client) (clientID : UUID) {authCode : AuthorizationCode}
    (hx : x.codes authCode.id = false) (h : w.Trails x t w') :
    (redeemCode env client clientID authCode).Alike backend Request.Fresh (Agrees x t)
      (redeemCode env client clientID authCode) w w' := by
  refine alike_markAuthorizationCodeUsed h hx fun r w w' h => ?_
  cases r with
  | error e => exact alike_ret h
  | ok _ =>
    refine alike_blind h rfl fun r w w' h => ?_
    cases r with
    | error e => exact alike_ret h
    | ok user =>
      refine (generateAccessToken_unseen env _ _).andThen h fun r w w' h => ?_
      cases r with
      | error e => exact alike_ret h
      | ok tokenString => exact issueTokens_agrees client clientID authCode user tokenString h

/-- The response to an exchange. -/
def codeReply : Except AuthError TokenResponse → TokenReply
  | .error e => .failed (handleTokenExchangeError e)
  | .ok tokenResp => .issued tokenResp

theorem exchangeFound_agrees (client : Client) (clientID : UUID) (redirectURI : String)
    {r : Except DBError AuthorizationCode} (hr : ∀ c, r = .ok c → x.codes c.id = false) (h : w.Trails x t w') :
    (exchangeFound env client clientID redirectURI r).Alike backend Request.Fresh (Agrees x t)
      (exchangeFound env client clientID redirectURI r) w w' := by
  unfold exchangeFound
  split
  · exact alike_ret h
  · exact alike_ret h
  · next authCode =>
    split
    · exact alike_ret h
    · split
      · exact alike_ret h
      · refine alike_blind h trivial fun now w w' h => ?_
        unfold exchangeTimed
        split
        · exact alike_ret h
        · exact redeemCode_agrees client clientID (hr authCode rfl) h

/-- A code that has expired is refused, whatever else is wrong with it. -/
theorem exchangeFound_expired (env : Env) (client : Client) (clientID : UUID) (redirectURI : String)
    {c : AuthorizationCode} (hexp : c.expiresAt < w.now) (ds : ℕ → Draw) :
    codeReply ((exchangeFound env client clientID redirectURI (.ok c)).run backend ds w).1 =
        .failed invalidCodeGrant ∧
      ((exchangeFound env client clientID redirectURI (.ok c)).run backend ds w).2.db = w.db := by
  unfold exchangeFound
  dsimp only
  split
  · exact ⟨rfl, rfl⟩
  · split
    · exact ⟨rfl, rfl⟩
    · have hcheck : checkCode c clientID redirectURI (w.wait (ds 0).wait).now = some .codeExpired :=
        if_pos (hexp.trans_le (le_now_respond .now (ds 0) w))
      rw [run_now, exchangeTimed, hcheck]
      exact ⟨rfl, rfl⟩

/-- **The code grant.** A code that was removed is refused, as it is where it can still be found. -/
theorem exchangeCodeForToken_alike (code : String) (clientID : UUID) (clientSecret redirectURI : String)
    (h : w.Trails x t w') :
    (exchangeCodeForToken env code clientID clientSecret redirectURI).Alike backend Request.Fresh
      (fun a w b w' => codeReply a = codeReply b ∧ w.Behind x t w')
      (exchangeCodeForToken env code clientID clientSecret redirectURI) w w' := by
  have hret : ∀ {a : Except AuthError TokenResponse} {v v' : World}, World.Trails x t v v' →
      Prog.Alike (S := effects) backend Request.Fresh
        (fun a w b w' => codeReply a = codeReply b ∧ World.Behind x t w w') (.ret a) (.ret a) v v' :=
    fun h => .ret ⟨rfl, h.behind⟩
  rw [exchangeCodeForToken_eq]
  refine alike_blind h rfl fun r w w' h => ?_
  split
  · exact hret h
  · exact hret h
  · split
    · exact hret h
    · split
      · exact hret h
      · next client _ _ =>
        rw [exchangeAuthorized_eq]
        refine .call fun d _ => ?_
        have hw := h.read (q := .sql (.getAuthorizationCode code)) rfl d
        show Prog.Alike backend Request.Fresh _
          (exchangeFound env client clientID redirectURI (respond (.sql (.getAuthorizationCode code)) d w).1)
          (exchangeFound env client clientID redirectURI (respond (.sql (.getAuthorizationCode code)) d w').1)
          _ _
        rcases h.getAuthorizationCode d code with ⟨hsame, hkept⟩ | ⟨c, hfound, hexp, hgone⟩
        · rw [hsame]
          refine (exchangeFound_agrees client clientID redirectURI hkept hw).mono ?_
          rintro a w b w' ⟨rfl, hb⟩
          exact ⟨rfl, hb⟩
        · -- the row is there in one run only, and every error about it has the same response
          rw [hfound, hgone]
          intro ds _
          obtain ⟨hreply, hdb⟩ := exchangeFound_expired env client clientID redirectURI
            (hexp.trans_le hw.since) ds
          refine ⟨hreply, ?_, ?_⟩
          · rw [hdb]
            exact hw.expired
          · rw [hdb]
            exact hw.behind.eq

/-! ### The refresh grant -/

theorem issueSuccessor_agrees (cid : UUID) (record : RefreshToken) (user : User) (tokenString : String)
    (h : w.Trails x t w') :
    (issueSuccessor env cid record user tokenString).Alike backend Request.Fresh (Agrees x t)
      (issueSuccessor env cid record user tokenString) w w' := by
  refine alike_blind h trivial fun now w w' h => alike_createAccessToken h fun r w w' h hnew => ?_
  cases r with
  | error e => exact alike_ret h
  | ok accessTokenRecord =>
    refine alike_blind h trivial fun bytes w w' h => ?_
    cases bytes with
    | none => exact alike_ret h
    | some bytes =>
      refine alike_blind h trivial fun now w w' h => ?_
      refine alike_createRefreshToken h (hnew accessTokenRecord rfl) fun r w w' h => ?_
      cases r with
      | error e => exact alike_ret h
      | ok _ => exact Unseen.agrees (logEvent_unseen trivial) h

theorem rotateRecord_agrees (cid : UUID) (record : RefreshToken) (h : w.Trails x t w') :
    (rotateRecord env cid record).Alike backend Request.Fresh (Agrees x t) (rotateRecord env cid record)
      w w' := by
  refine alike_blind h rfl fun r w w' h => ?_
  cases r with
  | error e => exact alike_ret h
  | ok _ =>
    refine alike_blind h rfl fun r w w' h => ?_
    cases r with
    | error e => exact alike_ret h
    | ok user =>
      refine (generateAccessToken_unseen env _ _).andThen h fun r w w' h => ?_
      cases r with
      | error e => exact alike_ret h
      | ok tokenString => exact issueSuccessor_agrees cid record user tokenString h

theorem checkRecord_agrees (cid : UUID) (record : RefreshToken) (h : w.Trails x t w') :
    (checkRecord env cid record).Alike backend Request.Fresh (Agrees x t) (checkRecord env cid record)
      w w' := by
  unfold checkRecord
  split
  · exact (replayDetected_unseen env record).agrees h
  · refine alike_blind h trivial fun now w w' h => ?_
    split
    · exact alike_ret h
    · split
      · exact alike_ret h
      · exact rotateRecord_agrees cid record h

theorem issueSuccessor_unlink (cid : UUID) (record : RefreshToken) (user : User) (tokenString : String) :
    issueSuccessor env cid { record with accessTokenID := none } user tokenString =
      issueSuccessor env cid record user tokenString := by
  refine congrArg Call.now (funext fun now => ?_)
  refine congrArg (Call.sql (.createAccessToken _)) (funext fun r => ?_)
  cases r with
  | error e => rfl
  | ok a =>
    refine congrArg (Call.randBytes 32) (funext fun bytes => ?_)
    cases bytes with
    | none => rfl
    | some bytes =>
      refine congrArg Call.now (funext fun now => ?_)
      refine congrArg (Call.sql (.createRefreshToken _)) (funext fun r => ?_)
      cases r <;> rfl

theorem rotateRecord_unlink (cid : UUID) (record : RefreshToken) :
    rotateRecord env cid { record with accessTokenID := none } = rotateRecord env cid record := by
  refine congrArg (Call.sql (.markRefreshTokenUsed record.id)) (funext fun r => ?_)
  cases r with
  | error e => rfl
  | ok a =>
    refine congrArg (Call.sql (.getUserByID record.userID)) (funext fun r => ?_)
    cases r with
    | error e => rfl
    | ok user =>
      refine congrArg (Prog.bind _) (funext fun r => ?_)
      cases r with
      | error e => rfl
      | ok tokenString => exact issueSuccessor_unlink cid record user tokenString

/-- A rotation does not look at the link. -/
theorem checkRecord_unlink (cid : UUID) (record : RefreshToken) :
    checkRecord env cid (x.unlink record) = checkRecord env cid record := by
  unfold Removed.unlink
  split
  · unfold checkRecord
    rw [rotateRecord_unlink]
    rfl
  · rfl

/-- **The refresh grant.** -/
theorem rotateRefreshToken_agrees (rawToken clientID clientSecret : String) (h : w.Trails x t w') :
    (rotateRefreshToken env rawToken clientID clientSecret).Alike backend Request.Fresh (Agrees x t)
      (rotateRefreshToken env rawToken clientID clientSecret) w w' := by
  unfold rotateRefreshToken
  split
  · exact alike_ret h
  · refine alike_blind h rfl fun r w w' h => ?_
    split
    · exact alike_ret h
    · exact alike_ret h
    · split
      · exact alike_ret h
      · split
        · exact alike_ret h
        · refine alike_getRefreshTokenByHash h (fun e w w' h => ?_) fun record w w' h => ?_
          · cases e <;> exact alike_ret h
          · dsimp only
            rw [checkRecord_unlink]
            exact checkRecord_agrees _ record h

/-- **The token endpoint.** -/
theorem tokenExchange_agrees (body : TokenBody) (h : w.Trails x t w') :
    (tokenExchange env body).Alike backend Request.Fresh (Agrees x t) (tokenExchange env body) w w' := by
  unfold tokenExchange
  split
  · exact alike_ret h
  · split
    · unfold handleAuthorizationCodeGrant
      split
      · exact alike_ret h
      · split
        · exact alike_ret h
        · refine .map ((exchangeCodeForToken_alike _ _ _ _ h).mono ?_)
          rintro a v b v' ⟨hreply, hv⟩
          refine ⟨?_, hv⟩
          cases a <;> cases b <;> exact hreply
    · split
      · unfold handleRefreshTokenGrant
        split
        · exact alike_ret h
        · refine .map ((rotateRefreshToken_agrees _ _ _ h).mono ?_)
          rintro a v b v' ⟨rfl, hv⟩
          exact ⟨rfl, hv⟩
      · exact alike_ret h

/-! ### Login -/

theorem storeDirectLoginToken_agrees (token : String) (userID : UUID) (h : w.Trails x t w') :
    (storeDirectLoginToken env token userID).Alike backend Request.Fresh (Agrees x t)
      (storeDirectLoginToken env token userID) w w' := by
  refine alike_blind h trivial fun now w w' h => alike_createAccessToken h fun r w w' h _ => ?_
  cases r <;> exact alike_ret h

theorem loginAccessToken_agrees (user : User) (h : w.Trails x t w') :
    (loginAccessToken env user).Alike backend Request.Fresh (Agrees x t) (loginAccessToken env user) w w' := by
  refine (generateAccessToken_unseen env _ _).andThen h fun r w w' h => ?_
  cases r with
  | error e => exact alike_ret h
  | ok token =>
    refine (revokeAllUserAccessTokens_unseen _).andThen h fun r w w' h => ?_
    cases r with
    | error e => exact alike_ret h
    | ok _ =>
      let g (r : Except AuthError Unit) : LoginReply :=
        r.toOption.elim serverError fun _ => .accessToken token (seconds env.expiry)
      refine .bind_ret (fun r => show _ = Prog.ret (g r) from ?_) (fun r => show _ = Prog.ret (g r) from ?_)
        ((storeDirectLoginToken_agrees token user.id h).mono ?_)
      · cases r <;> rfl
      · cases r <;> rfl
      rintro a v b v' ⟨rfl, hv⟩
      exact ⟨rfl, hv⟩

/-- **Login.** -/
theorem login_agrees (email password sourceIP : String) (h : w.Trails x t w') :
    (login env email password sourceIP).Alike backend Request.Fresh (Agrees x t)
      (login env email password sourceIP) w w' := by
  unfold login
  split
  · exact alike_ret h
  · refine (verifyCredentials_unseen env _ _ _).andThen h fun r w w' h => ?_
    split
    · exact alike_ret h
    · exact alike_ret h
    · exact alike_ret h
    · split
      · exact (loginChallenge_unseen env _).agrees h
      · exact loginAccessToken_agrees _ h

end Grants

end GoauthServer
