import GoauthServer.Spec.Operations

/-!
# For whom an operation acts

Each operation that issues something does it for one user: the one whose password, challenge,
identity, authorization code or refresh token it was shown. `Operation.shows` says that a request
finds a usable credential of a user, `Operation.Presented` that the operation has found one, and
`Operation.actsFor` is the user it goes on with.

* It goes on with a user only after it was shown a credential, or with a user it has just created
  (`Operation.actsFor_respond`).
* What it stores belongs to that user (`Operation.owner_of_create`), and so does the token it
  hands out (`Operation.issuesTo_of_result`).
-/

namespace GoauthServer

open Interact

/-! ### Credentials -/

/-- The password is that of the row. -/
def User.passwordMatches (env : Env) (password : String) (u : User) : Bool :=
  u.passwordHash.any fun hash =>
    match verifyArgon2id env password hash with
    | .ok true => true
    | _ => false

/-- The challenge is valid for `userID`, at the time `now`. -/
def Env.challenges (env : Env) (challengeToken : String) (userID : UUID) (now : Time) : Bool :=
  (env.lib.hexDecode env.cfg.sessionSigningKey).any fun key =>
    match env.checkChallengeToken key challengeToken now with
    | .ok id => id == userID
    | .error _ => false

/-- With this request the operation finds a usable credential of `userID`. -/
def Operation.shows (env : Env) (userID : UUID) (op : Operation) (q : Request) (d : Draw)
    (w : World) : Bool :=
  match op, q with
  | .login _ password _, .sql (.getUserByEmailForAuth email) =>
    w.db.users.rows.any fun u =>
      u.id == userID && u.email == email && u.passwordMatches env password
  | .changePasswordHandler challengeToken _, .now =>
    env.challenges challengeToken userID (w.wait d.wait).now
  | .handleProviderCallback _ _ _ _ _ _, .sql (.getUserByProviderID provider providerID) =>
    w.db.users.rows.any fun u =>
      u.id == userID && sameNonNull u.provider provider && sameNonNull u.providerID providerID
  | .exchangeCodeForToken _ _ _ _, .sql (.getAuthorizationCode code) =>
    w.db.authorizationCodes.rows.any fun c =>
      c.userID == userID && c.code == code && c.isRevoked != some true && c.usedAt.isNone
  | .rotateRefreshToken _ _ _, .sql (.getRefreshTokenByHash tokenHash) =>
    w.db.refreshTokens.rows.any fun t =>
      t.userID == userID && t.tokenHash == tokenHash && !t.isRevoked
  | _, _ => false

/-- The operation has found a usable credential of `userID`. -/
def Operation.Presented (env : Env) : Operation → Log effects → UUID → Prop
  | .login _ password _, log, userID => ∃ u, PasswordChecked env password log u ∧ u.id = userID
  | .changePasswordHandler challengeToken _, log, userID =>
    Challenged env challengeToken log userID
  | .handleProviderCallback _ _ _ _ _ _, log, userID =>
    ∃ u, foundUser log = some u ∧ u.id = userID
  | .exchangeCodeForToken _ _ _ _, log, userID =>
    ∃ c, readCode log = some c ∧ c.Redeemable ∧ c.userID = userID
  | .rotateRefreshToken _ _ _, log, userID =>
    ∃ t, readRecord log = some t ∧ t.isRevoked = false ∧ t.userID = userID
  | _, _, _ => False

/-- The user with whom the operation goes on. -/
def Operation.actsFor : Operation → Log effects → Option User
  | .login _ _ _, log | .handleProviderCallback _ _ _ _ _ _, log => signedIn log
  | .changePasswordHandler _ _, log | .exchangeCodeForToken _ _ _ _, log
  | .rotateRefreshToken _ _ _, log => readUser log
  | _, _ => none

/-- What was marked had passed the checks. -/
structure Vetted (log : Log effects) : Prop where
  token : ∀ t, readRecord log = some t → marked log = true → t.isRevoked = false
  code : ∀ c, readCode log = some c → redeemed log = true → c.Redeemable

/-- Rotation and exchange mark the credential that they were shown. -/
def Operation.marks : Operation → Bool
  | .exchangeCodeForToken _ _ _ _ | .rotateRefreshToken _ _ _ => true
  | _ => false

theorem Vetted.nil : Vetted [] := ⟨fun _ h => (by cases h), fun _ h => (by cases h)⟩

section Step

variable {env : Env} {op : Operation} {log : Log effects} {q : Request} {d : Draw} {w : World}
  {userID : UUID}

theorem PasswordChecked.passwordMatches {password : String} {u : User}
    (h : PasswordChecked env password log u) : u.passwordMatches env password = true := by
  obtain ⟨_, hash, hhash, hok⟩ := h
  unfold User.passwordMatches
  rw [hhash]
  simp [hok]

/-- A rotation marks only what it has read unrevoked. -/
theorem Vetted.rotation {tokenHash : String} (h : Vetted log)
    (hq : rotationRequest env tokenHash q log) : Vetted (⟨q, (respond q d w).1⟩ :: log) where
  token t ht hmark := by
    rcases marked_respond hmark with hold | ⟨id, rfl, _⟩
    · rcases readRecord_respond ht with ht | ⟨hash, rfl, _, _⟩
      · exact h.token t ht hold
      · rw [hq.2.2.2.1] at hold
        cases hold
    · obtain ⟨t', hread, hlive, _⟩ := hq
      obtain rfl := Option.some.inj (hread.symm.trans ht)
      exact hlive
  code c hc hred := by
    -- a rotation neither reads nor redeems codes
    rcases readCode_respond hc with hc | ⟨code, rfl, _⟩
    · rcases redeemed_respond hred with hred | ⟨id, rfl, _⟩
      · exact h.code c hc hred
      · exact hq.elim
    · exact hq.elim

/-- An exchange marks only a code that it has read redeemable. -/
theorem Vetted.exchange {code : String} (h : Vetted log) (hq : exchangeRequest env code q log) :
    Vetted (⟨q, (respond q d w).1⟩ :: log) where
  token t ht hmark := by
    rcases readRecord_respond ht with ht | ⟨hash, rfl, _⟩
    · rcases marked_respond hmark with hmark | ⟨id, rfl, _⟩
      · exact h.token t ht hmark
      · exact hq.elim
    · exact hq.elim
  code c hc hred := by
    rcases redeemed_respond hred with hold | ⟨id, rfl, _⟩
    · rcases readCode_respond hc with hc | ⟨code', rfl, _⟩
      · exact h.code c hc hold
      · rw [hq.2.2.1] at hold
        cases hold
    · obtain ⟨c', hread, hok, _⟩ := hq
      obtain rfl := Option.some.inj (hread.symm.trans hc)
      exact hok

/-- The same for every operation. Only rotation and exchange mark what they were shown. -/
theorem Operation.vetted_respond (h : op.marks = true → Vetted log) (hq : op.request env q log)
    (hop : op.marks = true) : Vetted (⟨q, (respond q d w).1⟩ :: log) := by
  cases op with
  | rotateRefreshToken => exact (h rfl).rotation hq
  | exchangeCodeForToken => exact (h rfl).exchange hq
  | _ => cases hop

/-- **An operation has found a credential only by a request that shows one.** -/
theorem Operation.presented_respond (h : op.Presented env (⟨q, (respond q d w).1⟩ :: log) userID) :
    op.Presented env log userID ∨ op.shows env userID q d w = true := by
  cases op with
  | login email password sourceIP =>
    obtain ⟨u, ⟨hread, hash, hhash, hok⟩, rfl⟩ := h
    rcases authUser_respond hread with hread | ⟨email', rfl, hu, hemail⟩
    · exact Or.inl ⟨u, ⟨hread, hash, hhash, hok⟩, rfl⟩
    · refine Or.inr (List.any_eq_true.mpr ⟨u, hu, ?_⟩)
      simp [hemail, User.passwordMatches, hhash, hok]
  | changePasswordHandler challengeToken newPassword =>
    obtain ⟨key, hkey, now, hnow, hok⟩ := h
    rcases clockReadings_respond hnow with hnow | ⟨rfl, rfl⟩
    · exact Or.inl ⟨key, hkey, now, hnow, hok⟩
    · refine Or.inr ?_
      simp [Operation.shows, Env.challenges, hkey, hok]
  | handleProviderCallback clientID providerName code callbackURL clientRedirectURI scope =>
    obtain ⟨u, hread, rfl⟩ := h
    rcases foundUser_respond hread with hread | ⟨provider, providerID, rfl, hu, hp, hs⟩
    · exact Or.inl ⟨u, hread, rfl⟩
    · refine Or.inr (List.any_eq_true.mpr ⟨u, hu, ?_⟩)
      simp [hp, hs]
  | exchangeCodeForToken code clientID clientSecret redirectURI =>
    obtain ⟨c, hread, hok, rfl⟩ := h
    rcases readCode_respond hread with hread | ⟨code', rfl, hc, hcode⟩
    · exact Or.inl ⟨c, hread, hok, rfl⟩
    · refine Or.inr (List.any_eq_true.mpr ⟨c, hc, ?_⟩)
      simp [hcode, hok.unrevoked, hok.unused]
  | rotateRefreshToken rawToken clientID clientSecret =>
    obtain ⟨t, hread, hlive, rfl⟩ := h
    rcases readRecord_respond hread with hread | ⟨hash, rfl, ht, hhash⟩
    · exact Or.inl ⟨t, hread, hlive, rfl⟩
    · refine Or.inr (List.any_eq_true.mpr ⟨t, ht, ?_⟩)
      simp [hhash, hlive]
  | _ => exact h.elim

/-- **An operation goes on with a user whose credential it has found**, or with a new one. -/
theorem Operation.actsFor_respond (hv : op.marks = true → Vetted log) (hq : op.request env q log) {u : User}
    (h : op.actsFor (⟨q, (respond q d w).1⟩ :: log) = some u) :
    op.actsFor log = some u ∨ op.Presented env log u.id ∨ ∀ a ∈ w.db.users.rows, a.id ≠ u.id := by
  cases op with
  | login email password sourceIP =>
    rcases signedIn_respond h with h | ⟨t, rfl⟩ | ⟨⟨p, rfl⟩, _⟩
    · exact Or.inl h
    · obtain ⟨u', hchecked, hid⟩ := hq
      exact Or.inr (Or.inl ⟨u', hchecked, hid.symm⟩)
    · cases hq
  | changePasswordHandler challengeToken newPassword =>
    rcases readUser_respond h with h | ⟨id, rfl, _, rfl⟩
    · exact Or.inl h
    · exact Or.inr (Or.inl hq.1)
  | handleProviderCallback clientID providerName code callbackURL clientRedirectURI scope =>
    rcases signedIn_respond h with h | ⟨t, rfl⟩ | ⟨_, hnew⟩
    · exact Or.inl h
    · obtain ⟨u', hfound, hid, _⟩ := hq
      exact Or.inr (Or.inl ⟨u', hfound, hid.symm⟩)
    · exact Or.inr (Or.inr hnew)
  | exchangeCodeForToken code clientID clientSecret redirectURI =>
    rcases readUser_respond h with h | ⟨id, rfl, _, rfl⟩
    · exact Or.inl h
    · obtain ⟨c, hread, hid, hred, _⟩ := hq
      exact Or.inr (Or.inl ⟨c, hread, (hv rfl).code c hread hred, hid.symm⟩)
  | rotateRefreshToken rawToken clientID clientSecret =>
    rcases readUser_respond h with h | ⟨id, rfl, _, rfl⟩
    · exact Or.inl h
    · obtain ⟨t, hread, hid, hmark⟩ := hq
      exact Or.inr (Or.inl ⟨t, hread, (hv rfl).token t hread hmark, hid.symm⟩)
  | _ => cases h

/-- The owner of the row that a request stores. -/
def Request.owner? : Request → Option UUID
  | .sql (.createAuthorizationCode p) => some p.userID
  | .sql (.createAccessToken p) => some p.userID
  | .sql (.createRefreshToken p) => some p.userID
  | _ => none

/-- **What an operation stores belongs to the user for whom it acts.** -/
theorem Operation.owner_of_create (hq : op.request env q log) (h : q.owner? = some userID) :
    (∃ u, op.actsFor log = some u ∧ u.id = userID) ∨ op.Presented env log userID := by
  -- of each operation only the requests that store something are left
  cases q with
  | sql q =>
    cases q with
    | createAuthorizationCode p =>
      cases h
      cases op with
      | handleProviderCallback =>
        obtain ⟨u, hin, hid⟩ := hq
        exact Or.inl ⟨u, hin, hid.symm⟩
      | updateUserStatus => rcases hq with hq | hq <;> cases hq
      | exchangeCodeForToken => exact hq.elim
      | rotateRefreshToken => exact hq.elim
      | _ => cases hq
    | createAccessToken p =>
      cases h
      cases op with
      | login =>
        obtain ⟨u, token, hin, hid, _⟩ := hq
        exact Or.inl ⟨u, hin, hid.symm⟩
      | changePasswordHandler =>
        obtain ⟨u, token, _, hch, _⟩ := hq
        exact Or.inr hch
      | exchangeCodeForToken =>
        obtain ⟨c, u, token, now, _, _, _, huser, _, _, _, rfl⟩ := hq
        exact Or.inl ⟨u, huser, rfl⟩
      | rotateRefreshToken =>
        obtain ⟨t, u, token, now, _, _, _, huser, _, _, _, rfl⟩ := hq
        exact Or.inl ⟨u, huser, rfl⟩
      | updateUserStatus => rcases hq with hq | hq <;> cases hq
      | _ => cases hq
    | createRefreshToken p =>
      cases h
      cases op with
      | exchangeCodeForToken =>
        obtain ⟨c, u, a, F, _, _, _, _, huser, _, _, hp⟩ := hq
        exact Or.inl ⟨u, huser, hp.userID.symm⟩
      | rotateRefreshToken =>
        obtain ⟨t, u, a, _, _, _, _, huser, _, hp⟩ := hq
        exact Or.inl ⟨u, huser, hp.userID.symm⟩
      | updateUserStatus => rcases hq with hq | hq <;> cases hq
      | _ => cases hq
    | _ => cases h
  | _ => cases h

end Step

/-! ### What is handed out -/

/-- The outcome hands out no token. -/
def Outcome.Empty : Outcome → Prop
  | .tokens (.ok _) => False
  | .login r => r.Empty
  | _ => True

/-- The outcome hands out tokens only for `userID`. -/
def Outcome.IssuesTo (env : Env) (userID : UUID) : Outcome → Prop
  | .tokens (.ok resp) => AccessFor env userID resp.accessToken
  | .login r => r.IssuesTo env userID
  | _ => True

/-- **The token an operation hands out is for the user for whom it acts.** -/
theorem Operation.issuesTo_of_result {env : Env} {op : Operation} {r : Outcome}
    {log : Log effects} (h : op.result env r log) :
    r.Empty ∨ ∃ u, op.actsFor log = some u ∧ r.IssuesTo env u.id := by
  cases op with
  | login =>
    obtain ⟨reply, rfl, hempty | ⟨u, hin, hto⟩⟩ := h
    · exact Or.inl hempty
    · exact Or.inr ⟨u, hin, hto⟩
  | changePasswordHandler =>
    obtain ⟨reply, rfl, hempty | ⟨u, hread, hto⟩⟩ := h
    · exact Or.inl hempty
    · exact Or.inr ⟨u, hread, hto⟩
  | handleProviderCallback =>
    obtain ⟨reply, rfl⟩ := h
    exact Or.inl trivial
  | exchangeCodeForToken =>
    obtain ⟨reply, rfl, hres⟩ := h
    rcases reply with e | resp
    · exact Or.inl trivial
    · obtain ⟨c, u, _, _, _, huser, _, hmint⟩ := hres resp rfl
      exact Or.inr ⟨u, huser, hmint.accessFor⟩
  | rotateRefreshToken =>
    obtain ⟨reply, rfl, hres⟩ := h
    rcases reply with e | resp
    · exact Or.inl trivial
    · obtain ⟨t, u, _, _, _, _, huser, hmint⟩ := hres resp rfl
      exact Or.inr ⟨u, huser, hmint.accessFor⟩
  | _ =>
    obtain rfl := h
    exact Or.inl trivial

end GoauthServer
