import GoauthServer.Safety.RevokeOwnership
import GoauthServer.Spec.Grants
import GoauthServer.Spec.Operations

/-!
# Accounts and identity providers

A user who signs in through an identity provider is found again by the pair `(provider, provider_id)`:
the name of the provider and the subject it reports. The name is unique for one client only. Two
providers of two clients may bear the same name and ask different servers, and then what the one says
about a subject is believed about an account of the other.

`same_account_iff` says when two callbacks resolve to the same user, whatever happens between them:
exactly if the names of the two provider rows are the same and not empty, and the subjects are the same.
The addresses of the servers play no role. (An empty name is stored as `NULL`, which is equal to
nothing.)
-/

namespace GoauthServer

open Interact Relational

/-! ### Callbacks -/

/-- A call of `HandleProviderCallback`. -/
structure Callback where
  clientID : UUID
  providerName : String
  code : String
  callbackURL : String
  clientRedirectURI : String
  scope : Option String

namespace Callback

def call (env : Env) (cb : Callback) : Call (Except AuthError String) :=
  handleProviderCallback env cb.clientID cb.providerName cb.code cb.callbackURL cb.clientRedirectURI
    cb.scope

/-- The world after the callback. -/
def after (env : Env) (cb : Callback) (ds : ℕ → Draw) (w : World) : World :=
  ((cb.call env).run backend ds w).2

/-- The callback goes through the row `provider`, is told that the subject is `sub`, and resolves to
`user`. -/
structure Resolves (env : Env) (cb : Callback) (ds : ℕ → Draw) (w : World) (provider : OauthProvider)
    (sub : String) (user : User) : Prop where
  provider : readProvider ((cb.call env).trace backend ds w []) = some provider
  subject : ∃ info, Named ((cb.call env).trace backend ds w []) info ∧ info.sub = sub
  user : signedIn ((cb.call env).trace backend ds w []) = some user

/-- What a callback may ask for. -/
def request (cb : Callback) (q : Request) (log : Log effects) : Prop :=
  callbackRequest cb.providerName q log ∧
    callbackGrantRequest cb.clientID cb.providerName cb.clientRedirectURI cb.scope q log

theorem obeys (env : Env) (cb : Callback) : (cb.call env).Obeys ⟨cb.request, fun _ _ => True⟩ [] := by
  have hreq := handleProviderCallback_obeys env cb.clientID cb.providerName cb.code cb.callbackURL
    cb.clientRedirectURI cb.scope
  have hgrant := handleProviderCallback_grant env cb.clientID cb.providerName cb.code cb.callbackURL
    cb.clientRedirectURI cb.scope
  refine Prog.Obeys.mono ?_ ?_ (hreq.and hgrant)
  · exact fun _ _ h => h
  · exact fun _ _ _ => trivial

end Callback

/-! ### Identities -/

/-- The columns `(provider, provider_id)` of a user who was signed in through `row` as `sub`. -/
structure User.SignedInAs (u : User) (row : OauthProvider) (sub : String) : Prop where
  provider : u.provider = strPtr row.name
  providerID : u.providerID = strPtr sub

/-- The user is the one that the look-up of `sub` at `row` finds. -/
structure User.FoundAs (u : User) (row : OauthProvider) (sub : String) : Prop where
  provider : sameNonNull u.provider (strPtr row.name) = true
  providerID : sameNonNull u.providerID (strPtr sub) = true

theorem sameNonNull_strPtr {a : Option String} {s : String} :
    sameNonNull a (strPtr s) = true ↔ a = some s ∧ s ≠ "" := by
  unfold strPtr
  by_cases hs : s = ""
  · rw [if_pos hs]
    constructor
    · intro h
      cases a <;> cases h
    · exact fun h => absurd hs h.2
  · rw [if_neg hs]
    cases a with
    | none => exact ⟨fun h => (by cases h), fun h => (by cases h.1)⟩
    | some b => simp [sameNonNull, hs]

theorem User.FoundAs.signedInAs {u : User} {row : OauthProvider} {sub : String}
    (h : u.FoundAs row sub) : u.SignedInAs row sub := by
  obtain ⟨hprovider, hname⟩ := sameNonNull_strPtr.mp h.provider
  obtain ⟨hproviderID, hsub⟩ := sameNonNull_strPtr.mp h.providerID
  refine ⟨?_, ?_⟩
  · rw [hprovider, strPtr, if_neg hname]
  · rw [hproviderID, strPtr, if_neg hsub]

/-- The columns of a user never change. -/
theorem User.SignedInAs.later {u u' : User} {row : OauthProvider} {sub : String}
    (h : u.SignedInAs row sub) (hlater : u.Later u') : u'.SignedInAs row sub :=
  ⟨hlater.provider.trans h.provider, hlater.providerID.trans h.providerID⟩

/-- Who was signed in as a subject is found as that subject, or as another one, exactly if the names and
the subjects agree and are not empty. -/
theorem User.SignedInAs.foundAs_iff {u : User} {row row' : OauthProvider} {sub sub' : String}
    (h : u.SignedInAs row sub) (hsub : sub ≠ "") :
    u.FoundAs row' sub' ↔ row.name = row'.name ∧ row.name ≠ "" ∧ sub = sub' := by
  have hproviderID : u.providerID = some sub := by rw [h.providerID, strPtr, if_neg hsub]
  constructor
  · rintro ⟨hp, hs⟩
    obtain ⟨hname, hne⟩ := sameNonNull_strPtr.mp hp
    have hrow : row.name = row'.name := by
      have heq := h.provider.symm.trans hname
      unfold strPtr at heq
      split at heq
      · cases heq
      · exact Option.some.inj heq
    have hsubs := (sameNonNull_strPtr.mp hs).1
    rw [hproviderID] at hsubs
    exact ⟨hrow, hrow ▸ hne, Option.some.inj hsubs⟩
  · rintro ⟨hrow, hne, rfl⟩
    refine ⟨sameNonNull_strPtr.mpr ⟨?_, hrow ▸ hne⟩, sameNonNull_strPtr.mpr ⟨hproviderID, hsub⟩⟩
    rw [h.provider, strPtr, if_neg hne, hrow]

/-- A subject is never empty. -/
theorem sub_ne_of_readUserInfo {reply : UserInfoReply} {info : ProviderUserInfo}
    (h : readUserInfo reply = .ok info) : info.sub ≠ "" := by
  unfold readUserInfo at h
  split at h
  · cases h
  · cases h
  · cases h
  · dsimp only at h
    split at h
    · cases h
    next hsub =>
    split at h
    · cases h
    · rw [← Except.ok.inj h]
      exact hsub

/-! ### A callback resolves its user -/

/-- A callback that began in `w₀` has resolved its user: the one that is found in `w₀` as the subject, or,
if there is none, a new one. -/
def ResolvedTo (w₀ : World) (log : Log effects) (w : World) (u : User) : Prop :=
  ∃ row info, readProvider log = some row ∧ Named log info ∧
    ((∃ u₀ ∈ w₀.db.users.rows, u₀.id = u.id ∧ u₀.FoundAs row info.sub) ∨
      (∀ u₀ ∈ w₀.db.users.rows, u₀.id ≠ u.id ∧ ¬ u₀.FoundAs row info.sub) ∧
        ∃ u' ∈ w.db.users.rows, u'.id = u.id ∧ u'.SignedInAs row info.sub)

/-- A callback that began in `w₀`, in progress. -/
structure Resolving (w₀ : World) (log : Log effects) (w : World) : Prop where
  kept : Table.Evolves User.Later w₀.db.users w.db.users
  origin : signedIn log = none → ∀ u ∈ w.db.users.rows, ∃ u₀ ∈ w₀.db.users.rows, u₀.Later u
  found : ∀ u, foundUser log = some u → ∃ row info, readProvider log = some row ∧ Named log info ∧
    ∃ u₀ ∈ w₀.db.users.rows, u₀.id = u.id ∧ u₀.FoundAs row info.sub
  signed : ∀ u, signedIn log = some u → ResolvedTo w₀ log w u

section Steps

variable {cb : Callback} {w₀ w : World} {log : Log effects} {q : Request} {d : Draw} {u : User}

/-- What is known about the provider stays known. -/
theorem readProvider_cons (hq : cb.request q log) {row : OauthProvider}
    (h : readProvider log = some row) (r : q.Reply) : readProvider (⟨q, r⟩ :: log) = some row := by
  cases q with
  | sql q =>
    cases q with
    | getOAuthProviderByClientAndName id name =>
      -- the row is looked up once
      have hnone := hq.2.2.2
      rw [h] at hnone
      cases hnone
    | _ => exact h
  | _ => exact h

theorem Named.cons (hq : cb.request q log) {info : ProviderUserInfo} (h : Named log info)
    (r : q.Reply) : Named (⟨q, r⟩ :: log) info := by
  obtain ⟨reply, hreply, hinfo⟩ := h
  refine ⟨reply, ?_, hinfo⟩
  cases q with
  | getUserInfo token url =>
    -- the provider is asked once
    have hnone := hq.2.1
    rw [hreply] at hnone
    cases hnone
  | _ => exact hreply

theorem signedIn_cons (hq : cb.request q log) (h : signedIn log = some u) (r : q.Reply) :
    signedIn (⟨q, r⟩ :: log) = some u := by
  cases q with
  | sql q =>
    cases q with
    | updateLastLogin id t =>
      obtain ⟨⟨_, _, _, hnone⟩, _⟩ := hq
      rw [h] at hnone
      cases hnone
    | createUser p =>
      have hnone : signedIn log = none := hq.1
      rw [h] at hnone
      cases hnone
    | _ => exact h
  | _ => exact h

theorem signedIn_none_of_cons {e : Event effects} (h : signedIn (e :: log) = none) : signedIn log = none := by
  unfold signedIn at h ⊢
  rw [List.findSome?_cons] at h
  split at h
  · cases h
  · exact h

theorem ResolvedTo.cons (hq : cb.request q log) (h : ResolvedTo w₀ log w u) (d : Draw) :
    ResolvedTo w₀ (⟨q, (respond q d w).1⟩ :: log) (respond q d w).2 u := by
  obtain ⟨row, info, hrow, hnamed, hcase⟩ := h
  refine ⟨row, info, readProvider_cons hq hrow _, hnamed.cons hq _, ?_⟩
  rcases hcase with hfound | ⟨hnew, u', hu', hid, has⟩
  · exact Or.inl hfound
  · obtain ⟨u'', hu'', hlater⟩ := respond_users q d w u' hu'
    exact Or.inr ⟨hnew, u'', hu'', hlater.id.trans hid, has.later hlater⟩

/-- The user who is signed in by this step. -/
theorem Resolving.signed_step (h : Resolving w₀ log w) (hq : cb.request q log) (hnone : signedIn log = none)
    (hu : signedIn (⟨q, (respond q d w).1⟩ :: log) = some u) :
    ResolvedTo w₀ (⟨q, (respond q d w).1⟩ :: log) (respond q d w).2 u := by
  rcases signedIn_respond hu with hold | ⟨t, rfl⟩ | ⟨⟨p, rfl⟩, hfresh⟩
  · rw [hnone] at hold
    cases hold
  · -- a user who was found
    obtain ⟨⟨v, hv, hid, _⟩, _⟩ := id hq
    obtain ⟨row, info, hrow, hnamed, u₀, hu₀, hid₀, hfound⟩ := h.found v hv
    exact ⟨row, info, readProvider_cons hq hrow _, hnamed.cons hq _,
      Or.inl ⟨u₀, hu₀, hid₀.trans hid.symm, hfound⟩⟩
  · -- a new user: its columns clash with nobody's
    obtain ⟨row, info, hrow, hnamed, hprovider, hproviderID⟩ := hq.2
    refine ⟨row, info, readProvider_cons hq hrow _, hnamed.cons hq _, Or.inr ?_⟩
    rcases respond_createUser_insert d w p with ⟨e, hr, _⟩ | ⟨table, hins, hr, hdb⟩
    · rw [hr] at hu
      cases hnone.symm.trans hu
    · rw [hr] at hu
      obtain rfl := Option.some.inj hu
      have hclash := (Table.insert_eq_some hins).2
      refine ⟨fun u₀ hu₀ => ?_, _, by rw [hdb]; exact (Table.mem_of_insert hins).mpr (Or.inr rfl),
        rfl, hprovider, hproviderID⟩
      obtain ⟨u₁, hu₁, hlater⟩ := h.kept u₀ hu₀
      constructor
      · intro hid
        exact hfresh u₁ hu₁ (hlater.id.trans hid)
      · rintro ⟨hp, hs⟩
        obtain ⟨hp, hne⟩ := sameNonNull_strPtr.mp hp
        obtain ⟨hs, hne'⟩ := sameNonNull_strPtr.mp hs
        have hno := hclash u₁ hu₁
        simp [Keyed.clash, Keyed.key, User.identity, CreateUserParams.row, hlater.provider,
          hlater.providerID, hp, hs, hprovider, hproviderID, strPtr, hne, hne', sameNonNull] at hno

theorem Resolving.step (hq : cb.request q log) (h : Resolving w₀ log w) :
    Resolving w₀ (⟨q, (respond q d w).1⟩ :: log) (respond q d w).2 where
  kept := Table.Evolves.trans (R := User.Later) (fun _ _ _ h h' => h.trans h') h.kept (respond_users q d w)
  origin hnone u hu := by
    have hold := h.origin (signedIn_none_of_cons hnone)
    by_cases hcreate : ∃ p, q = .sql (.createUser p)
    · obtain ⟨p, rfl⟩ := hcreate
      rcases respond_createUser_insert d w p with ⟨e, _, hdb⟩ | ⟨table, _, hr, _⟩
      · rw [hdb] at hu
        exact hold u hu
      · rw [hr] at hnone
        cases hnone
    · obtain ⟨u₁, hu₁, hlater⟩ := respond_user_origin (fun p hp => hcreate ⟨p, hp⟩) hu
      obtain ⟨u₀, hu₀, hlater₀⟩ := hold u₁ hu₁
      exact ⟨u₀, hu₀, hlater₀.trans hlater⟩
  found u hu := by
    rcases foundUser_respond hu with hold | ⟨provider, providerID, rfl, hmem, hp, hs⟩
    · obtain ⟨row, info, hrow, hnamed, hrest⟩ := h.found u hold
      exact ⟨row, info, readProvider_cons hq hrow _, hnamed.cons hq _, hrest⟩
    · obtain ⟨⟨row, info, hrow, hnamed, rfl, rfl, _, hnone⟩, _⟩ := id hq
      obtain ⟨u₀, hu₀, hlater⟩ := h.origin hnone u hmem
      refine ⟨row, info, readProvider_cons hq hrow _, hnamed.cons hq _, u₀, hu₀, hlater.id.symm, ?_, ?_⟩
      · rw [← hlater.provider]
        exact hp
      · rw [← hlater.providerID]
        exact hs
  signed u hu := by
    cases hold : signedIn log with
    | none => exact h.signed_step hq hold hu
    | some v =>
      have hsame := (signedIn_cons hq hold _).symm.trans hu
      rw [← Option.some.inj hsame]
      exact (h.signed v hold).cons hq d

end Steps

/-! ### Two callbacks -/

/-- Two users who are found as the same subject clash. -/
theorem clash_of_foundAs {u v : User} {row : OauthProvider} {sub : String} (hu : u.FoundAs row sub)
    (hv : v.FoundAs row sub) : Keyed.clash (Keyed.key u) (Keyed.key v) = true := by
  have hp := (sameNonNull_strPtr.mp hu.provider).1
  have hs := (sameNonNull_strPtr.mp hu.providerID).1
  have hp' := (sameNonNull_strPtr.mp hv.provider).1
  have hs' := (sameNonNull_strPtr.mp hv.providerID).1
  simp [Keyed.clash, Keyed.key, User.identity, hp, hs, hp', hs', sameNonNull]

/-- Users persist through a run. -/
theorem runAll_users (env : Env) (ops : List (Operation × (ℕ → Draw))) (w : World) :
    Table.Evolves User.Later w.db.users (runAll env ops w).db.users := by
  induction ops generalizing w with
  | nil => exact Table.Evolves.refl .refl _
  | cons op ops ih =>
    exact (run_users (op.1.call env) op.2 w).trans (fun _ _ _ h h' => h.trans h') (ih _)

section Callbacks

variable {env : Env} {cb : Callback} {ds : ℕ → Draw} {w : World} {row : OauthProvider} {sub : String}
  {u : User}

/-- **What a callback resolves to**: the user that is found as the subject, or, if there is none, a new
one. -/
theorem Callback.Resolves.resolved (h : cb.Resolves env ds w row sub u) :
    sub ≠ "" ∧ ((∃ u₀ ∈ w.db.users.rows, u₀.id = u.id ∧ u₀.FoundAs row sub) ∨
      (∀ u₀ ∈ w.db.users.rows, u₀.id ≠ u.id ∧ ¬ u₀.FoundAs row sub) ∧
        ∃ u' ∈ (cb.after env ds w).db.users.rows, u'.id = u.id ∧ u'.SignedInAs row sub) := by
  have hstart : Resolving w [] w :=
    ⟨Table.Evolves.refl .refl _, fun _ u hu => ⟨u, hu, .refl u⟩, fun u h => (by cases h),
      fun u h => (by cases h)⟩
  have hend := ((cb.obeys env).run_trace (B := backend) (fun q log d w hq _ hJ => hJ.step hq)
    (Prog.along_of_forall (fun _ _ _ => trivial) _ ds w) hstart).2
  obtain ⟨row', info', hrow', ⟨reply', hreply', hinfo'⟩, hcase⟩ := hend.signed u h.user
  obtain ⟨info, ⟨reply, hreply, hinfo⟩, rfl⟩ := h.subject
  -- the trace names one row and one subject
  obtain rfl : row' = row := Option.some.inj (hrow'.symm.trans h.provider)
  obtain rfl : reply' = reply := Option.some.inj (hreply'.symm.trans hreply)
  obtain rfl : info' = info := Except.ok.inj (hinfo'.symm.trans hinfo)
  exact ⟨sub_ne_of_readUserInfo hinfo, hcase⟩

/-- After the callback the table has the user with the columns of the subject. -/
theorem Callback.Resolves.stored (h : cb.Resolves env ds w row sub u) :
    ∃ u' ∈ (cb.after env ds w).db.users.rows, u'.id = u.id ∧ u'.SignedInAs row sub := by
  rcases h.resolved.2 with ⟨u₀, hu₀, hid, hfound⟩ | ⟨_, hstored⟩
  · obtain ⟨u', hu', hlater⟩ := run_users (cb.call env) ds w u₀ hu₀
    exact ⟨u', hu', hlater.id.trans hid, hfound.signedInAs.later hlater⟩
  · exact hstored

/-- **When two callbacks share an account.** A callback through the row `row₁` is told `sub₁`, and a later
one, after any other operations, through `row₂` is told `sub₂`. They resolve to the same user exactly if
the rows have the same name, which is not empty, and the subjects are the same. -/
theorem same_account_iff {first second : Callback} {ds₁ ds₂ : ℕ → Draw}
    {ops : List (Operation × (ℕ → Draw))} {row₁ row₂ : OauthProvider} {sub₁ sub₂ : String}
    {u₁ u₂ : User} (h₁ : first.Resolves env ds₁ w row₁ sub₁ u₁)
    (h₂ : second.Resolves env ds₂ (runAll env ops (first.after env ds₁ w)) row₂ sub₂ u₂) :
    u₁.id = u₂.id ↔ row₁.name = row₂.name ∧ row₁.name ≠ "" ∧ sub₁ = sub₂ := by
  -- the first user is still there, with the columns of the first subject
  obtain ⟨u', hu', hid', has'⟩ := h₁.stored
  obtain ⟨v, hv, hlater⟩ := runAll_users env ops (first.after env ds₁ w) u' hu'
  have hid : v.id = u₁.id := hlater.id.trans hid'
  have has : v.SignedInAs row₁ sub₁ := has'.later hlater
  have hiff : v.FoundAs row₂ sub₂ ↔ row₁.name = row₂.name ∧ row₁.name ≠ "" ∧ sub₁ = sub₂ :=
    has.foundAs_iff h₁.resolved.1
  rw [← hiff, ← hid]
  rcases h₂.resolved.2 with ⟨v', hv', hvid, hfound⟩ | ⟨hnew, _⟩
  · -- the second finds a user, and no two users are found as the same subject
    constructor
    · intro heq
      have hsame : v = v' := Store.user_eq hv hv' (heq.trans hvid.symm)
      rw [hsame]
      exact hfound
    · intro hvfound
      have hsame : v = v' := Table.eq_of_clash hv hv' (clash_of_foundAs hvfound hfound)
      rw [hsame]
      exact hvid
  · -- the second creates a user
    obtain ⟨hne, hnot⟩ := hnew v hv
    exact iff_of_false hne hnot

end Callbacks

section Examples

open Deployment

/-- The provider `google` of `app`. -/
def google : OauthProvider where
  id := 3
  clientID := 1
  name := "google"
  displayName := "Google"
  providerClientID := "app-at-google"
  providerClientSecret := "sealed"
  authUrl := "https://accounts.google.example/auth"
  tokenUrl := "https://accounts.google.example/token"
  userInfoUrl := "https://accounts.google.example/userinfo"
  scopes := ["openid", "email"]
  isEnabled := some true
  createdAt := 0
  updatedAt := 0

/-- A provider of the client `other`, under the same name and at another address. -/
def impostor : OauthProvider :=
  { google with
    id := 4, clientID := 3
    authUrl := "https://impostor.example/auth", tokenUrl := "https://impostor.example/token"
    userInfoUrl := "https://impostor.example/userinfo" }

def providerEnv : Env := { env with lib := { lib with decryptSecret := fun s => some s } }

def providerStore : Store :=
  { twoClientStore with oauthProviders := ⟨[google, impostor], by decide⟩ }

/-- The provider answers that the subject is `sub`. -/
def answer (n : UInt8) (uuid : UUID) (sub email : String) : Draw :=
  { draw n uuid with
    providerToken := some "token"
    userInfo := .fields [("sub", .str sub), ("email", .str email)] }

/-- A callback for the client `clientID`. -/
def googleCallback (clientID : UUID) : Callback where
  clientID := clientID
  providerName := "google"
  code := "code"
  callbackURL := "https://auth.example/callback"
  clientRedirectURI := "https://app.example/callback"
  scope := none

/-- The user whom the first callback of the examples creates. -/
def bob : User where
  id := 30
  email := "bob@example.com"
  emailVerified := false
  firstName := none
  lastName := none
  isActive := true
  locale := "en-US"
  provider := some "google"
  providerID := some "42"
  lastLoginAt := 0
  createdAt := 0
  updatedAt := 0
  isAdmin := some false
  passwordHash := none
  forcePasswordChange := false
  failedLoginAttempts := 0
  lastFailedLoginAt := none
  lockedUntil := none

theorem bob_resolves : (googleCallback 1).Resolves providerEnv (fun _ => answer 7 30 "42" "bob@example.com")
    ⟨0, providerStore⟩ google "42" bob where
  provider := by decide +kernel
  subject := ⟨⟨"42", "bob@example.com", false, "", "", ""⟩,
    ⟨.fields [("sub", .str "42"), ("email", .str "bob@example.com")], rfl, by decide⟩, rfl⟩
  user := by decide +kernel

/-- Another subject of the same provider. -/
def eve : User := { bob with id := 31, email := "eve@example.com", providerID := some "43" }

/-- Another subject of the same provider is another user. -/
theorem same_account_iff_eve :
    (googleCallback 1).Resolves providerEnv (fun _ => answer 9 31 "43" "eve@example.com")
        (runAll providerEnv [] ((googleCallback 1).after providerEnv
          (fun _ => answer 7 30 "42" "bob@example.com") ⟨0, providerStore⟩)) google "43" eve ∧
      bob.id ≠ eve.id := by
  have heve : (googleCallback 1).Resolves providerEnv (fun _ => answer 9 31 "43" "eve@example.com")
      (runAll providerEnv [] ((googleCallback 1).after providerEnv
        (fun _ => answer 7 30 "42" "bob@example.com") ⟨0, providerStore⟩)) google "43" eve :=
    ⟨by decide +kernel, ⟨⟨"43", "eve@example.com", false, "", "", ""⟩,
      ⟨.fields [("sub", .str "43"), ("email", .str "eve@example.com")], rfl, by decide⟩, rfl⟩,
      by decide +kernel⟩
  refine ⟨heve, fun hid => ?_⟩
  obtain ⟨_, _, hsub⟩ := (same_account_iff bob_resolves heve).mp hid
  exact absurd hsub (by decide)

/-- **Two sources share an account.** The server of `other`'s provider names the subject `42`, and the
callback resolves to the user whom the server of `app`'s provider had named so. -/
theorem impostor_resolves_to_bob :
    google ∈ providerStore.oauthProviders.rows ∧ impostor ∈ providerStore.oauthProviders.rows ∧
      google.userInfoUrl ≠ impostor.userInfoUrl ∧
      (googleCallback 1).Resolves providerEnv (fun _ => answer 7 30 "42" "bob@example.com")
        ⟨0, providerStore⟩ google "42" bob ∧
      (googleCallback 3).Resolves providerEnv (fun _ => answer 9 31 "42" "mallory@example.com")
        ((googleCallback 1).after providerEnv (fun _ => answer 7 30 "42" "bob@example.com")
          ⟨0, providerStore⟩) impostor "42" bob := by
  refine ⟨by decide, by decide, by decide, bob_resolves, by decide +kernel, ?_, by decide +kernel⟩
  exact ⟨⟨"42", "mallory@example.com", false, "", "", ""⟩,
    ⟨.fields [("sub", .str "42"), ("email", .str "mallory@example.com")], rfl, by decide⟩, rfl⟩

end Examples

end GoauthServer
