import GoauthServer.Safety.SessionEnd

/-!
# Who can revoke what

`POST /auth/revoke` authenticates its caller, a client by HTTP Basic or a user by a bearer token, and
then revokes the token in the form. Nothing connects the two: neither `Revoke` nor `RevokeAnyToken`
compares the owner of the rows with the caller. `revoke_touches_own_iff` says what follows: a request
leaves the rows of everybody else alone exactly if the rows that the presented token leads to
(`Store.refreshTarget`, `Store.accessTarget`) are the caller's own. `client_revokes_foreign_token` is a
client that ends the session of another one.
-/

namespace GoauthServer

open Interact Relational

/-! ### Callers and targets -/

/-- Who sends the request. -/
inductive Caller where
  | client (clientID : UUID)
  | user (userID : UUID)
  deriving DecidableEq

namespace Caller

def OwnsRefresh : Caller → RefreshToken → Prop
  | .client clientID, t => t.clientID = clientID
  | .user userID, t => t.userID = userID

def OwnsAccess : Caller → AccessToken → Prop
  | .client clientID, a => a.clientID = some clientID
  | .user userID, a => a.userID = userID

instance : (caller : Caller) → (t : RefreshToken) → Decidable (caller.OwnsRefresh t)
  | .client clientID, t => inferInstanceAs (Decidable (t.clientID = clientID))
  | .user userID, t => inferInstanceAs (Decidable (t.userID = userID))

instance : (caller : Caller) → (a : AccessToken) → Decidable (caller.OwnsAccess a)
  | .client clientID, a => inferInstanceAs (Decidable (a.clientID = some clientID))
  | .user userID, a => inferInstanceAs (Decidable (a.userID = userID))

end Caller

/-- Whom the request names: the client of HTTP Basic, or else the user of the bearer token. -/
def Env.caller? (env : Env) (authorization : String) (now : Time) : Option Caller :=
  match env.lib.basicAuth authorization with
  | some (clientID, _) => (env.lib.uuidParse clientID).map .client
  | none =>
    match env.checkAccessToken (extractBearerToken authorization) now with
    | .ok claims => (env.lib.uuidParse claims.userID).map .user
    | .error _ => none

/-- An access token that is not revoked yet. -/
abbrev notRevoked (a : AccessToken) : Bool := decide (a.isRevoked ≠ some true)

namespace Store

variable {s : Store} {tokenHash hint : String}

/-- The refresh token that is looked up. -/
def foundRefresh (s : Store) (tokenHash tokenTypeHint : String) : Option RefreshToken :=
  if tokenTypeHint = "access_token" then none
  else s.refreshTokens.select fun t => t.tokenHash == tokenHash

/-- The access token that is looked up: the one the refresh token links to, unless that is revoked, or
the one of the hash. -/
def foundAccess (s : Store) (tokenHash tokenTypeHint : String) : Option AccessToken :=
  match s.foundRefresh tokenHash tokenTypeHint with
  | some rt => if rt.isRevoked then none else s.linkedAccess rt
  | none => s.accessTokens.select fun a => a.tokenHash == tokenHash

/-- The refresh token that is written to. -/
def refreshTarget (s : Store) (tokenHash tokenTypeHint : String) : Option RefreshToken :=
  (s.foundRefresh tokenHash tokenTypeHint).filter fun t => !t.isRevoked

/-- The access token that is written to. -/
def accessTarget (s : Store) (tokenHash tokenTypeHint : String) : Option AccessToken :=
  (s.foundAccess tokenHash tokenTypeHint).filter notRevoked

theorem refreshTarget_mem : ∀ t ∈ s.refreshTarget tokenHash hint, t ∈ s.refreshTokens.rows := by
  intro t ht
  obtain ⟨hfound, _⟩ := Option.mem_filter_iff.mp ht
  unfold foundRefresh at hfound
  split at hfound
  · cases hfound
  · exact Table.mem_of_select hfound

theorem accessTarget_mem : ∀ a ∈ s.accessTarget tokenHash hint, a ∈ s.accessTokens.rows := by
  intro a ha
  obtain ⟨hfound, _⟩ := Option.mem_filter_iff.mp ha
  unfold foundAccess at hfound
  split at hfound
  · split at hfound
    · cases hfound
    · exact (linkedAccess_eq_some.mp hfound).1
  · exact Table.mem_of_select hfound

/-- The rows of everybody but the caller are as they were. -/
structure Untouched (caller : Caller) (s s' : Store) : Prop where
  refresh : ∀ t ∈ s.refreshTokens.rows, ¬ caller.OwnsRefresh t → t ∈ s'.refreshTokens.rows
  access : ∀ a ∈ s.accessTokens.rows, ¬ caller.OwnsAccess a → a ∈ s'.accessTokens.rows

/-- The presented token leads to rows of the caller only. -/
structure OwnTargets (env : Env) (caller : Caller) (s : Store) (token tokenTypeHint : String) :
    Prop where
  refresh : ∀ t ∈ s.refreshTarget (env.lib.sha256Hex token) tokenTypeHint, caller.OwnsRefresh t
  access : ∀ a ∈ s.accessTarget (env.lib.sha256Hex token) tokenTypeHint, caller.OwnsAccess a

end Store

/-! ### What is written -/

/-- The rows that a request writes to, at most: `refresh?` and `access?`. Where nothing fails, both are
written to. -/
structure Writes (sound : Prop) (s s' : Store) (refresh? : Option RefreshToken)
    (access? : Option AccessToken) : Prop where
  refresh : ∀ t ∈ s.refreshTokens.rows, t ∉ refresh? → t ∈ s'.refreshTokens.rows
  access : ∀ a ∈ s.accessTokens.rows, a ∉ access? → a ∈ s'.accessTokens.rows
  refreshWritten : sound → ∀ t ∈ refresh?, t ∉ s'.refreshTokens.rows
  accessWritten : sound → ∀ a ∈ access?, a ∉ s'.accessTokens.rows

namespace Writes

variable {sound sound' : Prop} {s s' s'' : Store} {refresh? : Option RefreshToken}
  {access? : Option AccessToken}

theorem nothing (sound : Prop) (hsame : s.SameTables s') : Writes sound s s' none none where
  refresh t ht _ := by rw [hsame.refreshTokens]; exact ht
  access a ha _ := by rw [hsame.accessTokens]; exact ha
  refreshWritten _ t ht := by cases ht
  accessWritten _ a ha := by cases ha

/-- A statement that fails writes nothing, whatever it was to write to. -/
theorem failed (hsound : ¬ sound) (hsame : s.SameTables s') : Writes sound s s' refresh? access? where
  refresh t ht _ := by rw [hsame.refreshTokens]; exact ht
  access a ha _ := by rw [hsame.accessTokens]; exact ha
  refreshWritten h := absurd h hsound
  accessWritten h := absurd h hsound

/-- The refresh token is revoked. -/
theorem revokeRefresh (sound : Prop) {rt : RefreshToken} (hrt : rt ∈ s.refreshTokens.rows)
    (hlive : rt.isRevoked = false) {now : Time} {reason : Option String}
    (hsame : (s.revokeRefresh rt.id now reason).SameTables s') : Writes sound s s' (some rt) none where
  refresh t ht hn := by
    rw [hsame.refreshTokens]
    refine Table.mem_update_of_not ht fun hid => hn ?_
    rw [Store.refreshToken_eq ht hrt (Or.inl (beq_iff_eq.mp hid))]
    rfl
  access a ha _ := by rw [hsame.accessTokens]; exact ha
  refreshWritten _ t ht := by
    obtain rfl := Option.some.inj ht
    rw [hsame.refreshTokens]
    refine Table.not_mem_update (beq_self_eq_true _) fun b hb => ?_
    rw [← hb] at hlive
    cases hlive
  accessWritten _ a ha := by cases ha

/-- The access token is revoked. -/
theorem revokeAccess (sound : Prop) {record : AccessToken} (hrec : record ∈ s.accessTokens.rows)
    (hlive : record.isRevoked ≠ some true) (hsame : (s.revokeAccess record.id).SameTables s') :
    Writes sound s s' none (some record) where
  refresh t ht _ := by rw [hsame.refreshTokens]; exact ht
  access a ha hn := by
    rw [hsame.accessTokens]
    refine Table.mem_update_of_not ha fun hid => hn ?_
    rw [Store.accessToken_eq ha hrec (Or.inl (beq_iff_eq.mp hid))]
    rfl
  refreshWritten _ t ht := by cases ht
  accessWritten _ a ha := by
    obtain rfl := Option.some.inj ha
    rw [hsame.accessTokens]
    refine Table.not_mem_update (beq_self_eq_true _) fun b hb => hlive ?_
    rw [← hb]
    rfl

theorem mono (h : Writes sound' s s' refresh? access?) (himp : sound → sound') :
    Writes sound s s' refresh? access? :=
  ⟨h.refresh, h.access, fun hs => h.refreshWritten (himp hs), fun hs => h.accessWritten (himp hs)⟩

/-- First the refresh token, then the access token. -/
theorem andThen (h : Writes sound s s' refresh? none) (h' : Writes sound' s' s'' none access?)
    (hr : s''.refreshTokens = s'.refreshTokens) (ha : s'.accessTokens = s.accessTokens)
    (himp : sound → sound') : Writes sound s s'' refresh? access? where
  refresh t ht hn := by rw [hr]; exact h.refresh t ht hn
  access a ha' hn := h'.access a (by rw [ha]; exact ha') hn
  refreshWritten hs t ht := by rw [hr]; exact h.refreshWritten hs t ht
  accessWritten hs := h'.accessWritten (himp hs)

/-- **Ownership.** The rows of the others are untouched if the rows written to are the caller's; where
nothing fails, only then. -/
theorem untouched_of_owned {caller : Caller} (h : Writes sound s s' refresh? access?)
    (hr : ∀ t ∈ refresh?, caller.OwnsRefresh t) (ha : ∀ a ∈ access?, caller.OwnsAccess a) :
    s.Untouched caller s' where
  refresh t ht hown := h.refresh t ht fun hmem => hown (hr t hmem)
  access a ha' hown := h.access a ha' fun hmem => hown (ha a hmem)

theorem owned_of_untouched {caller : Caller} (h : Writes sound s s' refresh? access?) (hs : sound)
    (hr : ∀ t ∈ refresh?, t ∈ s.refreshTokens.rows) (ha : ∀ a ∈ access?, a ∈ s.accessTokens.rows)
    (hun : s.Untouched caller s') :
    (∀ t ∈ refresh?, caller.OwnsRefresh t) ∧ ∀ a ∈ access?, caller.OwnsAccess a := by
  constructor
  · intro t ht
    by_contra hown
    exact h.refreshWritten hs t ht (hun.refresh t (hr t ht) hown)
  · intro a ha'
    by_contra hown
    exact h.accessWritten hs a ha' (hun.access a (ha a ha') hown)

end Writes

section Runs

variable {env : Env} {ds : ℕ → Draw} {w : World} {rt : RefreshToken} {record : AccessToken}

theorem revokeAccessTokenRecord_writes (env : Env) (ds : ℕ → Draw) (hrec : record ∈ w.db.accessTokens.rows) :
    Writes (Sound ds) w.db ((revokeAccessTokenRecord env record).run backend ds w).2.db none
      ((some record).filter notRevoked) := by
  rcases revokeAccessTokenRecord_store (c := Request.revokesAccess) (fun _ => rfl) (fun _ => rfl) env record ds w
    with ⟨hsame, ⟨hrev, _⟩ | hnot⟩ | ⟨hsame, _, hlive, _⟩
  · rw [Option.filter_some_neg (by simpa using hrev)]
    exact .nothing _ hsame
  · exact .failed (fun hs => hnot (soundOn_of_sound _ hs w)) hsame
  · rw [Option.filter_some_pos (by simpa using hlive)]
    exact .revokeAccess _ hrec hlive hsame

theorem revokeLinkedAccess_writes (env : Env) (ds : ℕ → Draw) (w : World) (rt : RefreshToken) :
    Writes (Sound ds) w.db ((revokeLinkedAccess env rt).run backend ds w).2.db none
        ((w.db.linkedAccess rt).filter notRevoked) ∧
      ((revokeLinkedAccess env rt).run backend ds w).2.db.refreshTokens = w.db.refreshTokens := by
  rcases revokeLinkedAccess_store (c := Request.onLinkedAccess) (fun _ => rfl) (fun _ => rfl) env rt ds w
    (Or.inr fun _ => rfl) with ⟨hsame, hwhy⟩ | ⟨record, hrec, hsame, hlive, _⟩
  · refine ⟨?_, hsame.refreshTokens⟩
    cases hlink : w.db.linkedAccess rt with
    | none => exact .nothing _ hsame
    | some record =>
      rcases hwhy record hlink with hrev | hnot
      · rw [Option.filter_some_neg (by simpa using hrev)]
        exact .nothing _ hsame
      · exact .failed (fun hs => hnot (soundOn_of_sound _ hs w)) hsame
  · rw [hrec, Option.filter_some_pos (by simpa using hlive)]
    exact ⟨.revokeAccess _ (Store.linkedAccess_eq_some.mp hrec).1 hlive hsame, hsame.refreshTokens⟩

theorem revokeRefreshTokenAndLinkedAccess_writes (env : Env) (ds : ℕ → Draw)
    (hrt : rt ∈ w.db.refreshTokens.rows) :
    Writes (Sound ds) w.db ((revokeRefreshTokenAndLinkedAccess env rt).run backend ds w).2.db
      ((some rt).filter fun t => !t.isRevoked)
      ((if rt.isRevoked then none else w.db.linkedAccess rt).filter notRevoked) := by
  cases hrev : rt.isRevoked with
  | true =>
    unfold revokeRefreshTokenAndLinkedAccess
    rw [if_pos hrev, if_pos rfl, Option.filter_some_neg (by simpa using hrev)]
    exact .nothing _ (.refl _)
  | false =>
    rw [if_neg Bool.false_ne_true, Option.filter_some_pos (by simpa using hrev)]
    cases hf : (ds 0).fault with
    | true =>
      unfold revokeRefreshTokenAndLinkedAccess
      rw [hrev, if_neg Bool.false_ne_true, run_sql_fault _ _ hf]
      exact .failed (not_sound hf) (.refl _)
    | false =>
      obtain ⟨ds', w', now, reason, hrun, hsame, hsound, _⟩ := revokeRefreshToken_run env hrev hf w
      rw [hrun]
      obtain ⟨hw, hr⟩ := revokeLinkedAccess_writes env ds' w' rt
      rw [hsame.linkedAccess] at hw
      exact (Writes.revokeRefresh (Sound ds) hrt hrev hsame).andThen hw hr hsame.accessTokens hsound

theorem revokeAnyAccessToken_writes (env : Env) (token : String) (ds : ℕ → Draw) (w : World) :
    Writes (Sound ds) w.db ((revokeAnyAccessToken env token).run backend ds w).2.db none
      ((w.db.accessTokens.select fun a => a.tokenHash == env.lib.sha256Hex token).filter notRevoked) := by
  unfold revokeAnyAccessToken
  cases hf : (ds 0).fault with
  | true =>
    rw [run_sql_fault _ _ hf]
    exact .failed (not_sound hf) (.refl _)
  | false =>
    rw [run_sql _ _ hf]
    simp only [Query.exec, selectOne]
    cases hsel : w.db.accessTokens.select fun a => a.tokenHash == env.lib.sha256Hex token with
    | none => exact .nothing _ (.refl _)
    | some record =>
      have hw := revokeAccessTokenRecord_writes (w := ⟨(w.wait (ds 0).wait).now, w.db⟩) env
        (fun n => ds (n + 1)) (Table.mem_of_select hsel)
      exact hw.mono Sound.tail

/-- **The rows that `RevokeAnyToken` writes to.** -/
theorem revokeAnyToken_writes (env : Env) (token tokenTypeHint : String) (ds : ℕ → Draw) (w : World) :
    Writes (Sound ds) w.db ((revokeAnyToken env token tokenTypeHint).run backend ds w).2.db
      (w.db.refreshTarget (env.lib.sha256Hex token) tokenTypeHint)
      (w.db.accessTarget (env.lib.sha256Hex token) tokenTypeHint) := by
  unfold revokeAnyToken Store.refreshTarget Store.accessTarget Store.foundAccess Store.foundRefresh
  by_cases hhint : tokenTypeHint = "access_token"
  · rw [if_neg (not_not.mpr hhint), if_pos hhint]
    exact revokeAnyAccessToken_writes env token ds w
  rw [if_pos hhint, if_neg hhint]
  cases hf : (ds 0).fault with
  | true =>
    rw [run_sql_fault _ _ hf]
    exact .failed (not_sound hf) (.refl _)
  | false =>
    rw [run_sql _ _ hf]
    simp only [Query.exec, selectOne]
    cases hsel : w.db.refreshTokens.select fun t => t.tokenHash == env.lib.sha256Hex token with
    | none =>
      -- not a refresh token: the access tokens are tried
      have hw := revokeAnyAccessToken_writes env token (fun n => ds (n + 1)) ⟨(w.wait (ds 0).wait).now, w.db⟩
      exact hw.mono Sound.tail
    | some rt =>
      have hw := revokeRefreshTokenAndLinkedAccess_writes
        (w := ⟨(w.wait (ds 0).wait).now, w.db⟩) env (fun n => ds (n + 1)) (Table.mem_of_select hsel)
      exact hw.mono Sound.tail

/-- Authentication only reads. -/
theorem authenticateRevokeRequest_reads (env : Env) (authorization : String) :
    (authenticateRevokeRequest env authorization).Only Request.Reads :=
  authenticateRevokeRequest_only trivial (fun _ => rfl) (fun _ => rfl) env authorization

/-- The rows that the form leads to are the caller's. -/
def FormOwn (env : Env) (caller : Caller) (s : Store) (form : Option (String × String)) : Prop :=
  ∀ token tokenTypeHint, form = some (token, tokenTypeHint) → token ≠ "" →
    s.OwnTargets env caller token tokenTypeHint

/-- The second half of `Revoke`, for a caller who is let through. -/
theorem revoke_run (env : Env) (authorization : String) (form : Option (String × String))
    (ds : ℕ → Draw) (w : World) :
    (((revoke env authorization form).run backend ds w).1 = 401 ∨ form = none ∨
        (∃ hint, form = some ("", hint))) ∧
        ((revoke env authorization form).run backend ds w).2.db = w.db ∨
      ∃ token hint ds' w', form = some (token, hint) ∧ token ≠ "" ∧
        ((revoke env authorization form).run backend ds w).2.db =
          ((revokeAnyToken env token hint).run backend ds' w').2.db ∧
        w'.db = w.db ∧ (Sound ds → Sound ds') := by
  unfold revoke
  rw [Prog.run_bind]
  generalize (authenticateRevokeRequest env authorization).steps backend ds w = m
  have hdb := Only.run_db (authenticateRevokeRequest_reads env authorization) ds w
  generalize (authenticateRevokeRequest env authorization).run backend ds w = r at hdb
  obtain ⟨b, w'⟩ := r
  cases b with
  | false => exact Or.inl ⟨Or.inl rfl, hdb⟩
  | true =>
    rcases form with _ | ⟨token, hint⟩
    · exact Or.inl ⟨Or.inr (Or.inl rfl), hdb⟩
    · by_cases htoken : token = ""
      · subst htoken
        exact Or.inl ⟨Or.inr (Or.inr ⟨hint, rfl⟩), hdb⟩
      · refine Or.inr ⟨token, hint, fun n => ds (n + m), w', rfl, htoken, ?_, hdb, fun hs n => hs (n + m)⟩
        simp only [if_neg htoken]
        rw [Prog.run_bind_ret (g := fun _ => 200) fun _ => rfl]

/-- **Whose rows a request touches.** The rows of everybody but the caller are untouched if the rows that
the presented token leads to are the caller's own. Where nothing fails and the caller is let through, only
then. -/
theorem revoke_touches_own_iff {authorization : String} {form : Option (String × String)}
    {caller : Caller}
    (_ : env.caller? authorization (w.wait (ds 0).wait).now = some caller) :
    (FormOwn env caller w.db form →
      w.db.Untouched caller ((revoke env authorization form).run backend ds w).2.db) ∧
    (Sound ds → ((revoke env authorization form).run backend ds w).1 ≠ 401 →
      (w.db.Untouched caller ((revoke env authorization form).run backend ds w).2.db ↔
        FormOwn env caller w.db form)) := by
  rcases revoke_run env authorization form ds w with ⟨hstop, hdb⟩ | ⟨token, hint, ds', w', rfl,
    htoken, hrun, hdb, hsound⟩
  · -- nothing is looked up
    rw [hdb]
    have hsame : w.db.Untouched caller w.db := ⟨fun t ht _ => ht, fun a ha _ => ha⟩
    refine ⟨fun _ => hsame, fun _ h401 => iff_of_true hsame ?_⟩
    intro token hint hform htoken
    rcases hstop with h | rfl | ⟨hint', rfl⟩
    · exact absurd h h401
    · cases hform
    · obtain ⟨rfl, _⟩ := Prod.mk.inj (Option.some.inj hform)
      exact absurd rfl htoken
  · rw [hrun]
    have hw := revokeAnyToken_writes env token hint ds' w'
    rw [hdb] at hw
    refine ⟨fun hown => ?_, fun hs _ => ⟨fun hun => ?_, fun hown => ?_⟩⟩
    · have hown := hown token hint rfl htoken
      exact hw.untouched_of_owned hown.refresh hown.access
    · intro token' hint' hform _
      obtain ⟨rfl, rfl⟩ := Prod.mk.inj (Option.some.inj hform)
      obtain ⟨hr, ha⟩ := hw.owned_of_untouched (hsound hs) Store.refreshTarget_mem
        Store.accessTarget_mem hun
      exact ⟨hr, ha⟩
    · have hown := hown token hint rfl htoken
      exact hw.untouched_of_owned hown.refresh hown.access

end Runs

section Examples

open Deployment

def otherText : String := "00000000-0000-0000-0000-000000000003"

/-- `Authorization` of the client `app`. -/
def appBasic : String := "Basic MDAwMDAwMDAtMDAwMC0wMDAwLTAwMDAtMDAwMDAwMDAwMDAxOnMzY3JldA=="

/-- `Authorization` of the client `other`. -/
def otherBasic : String := "Basic MDAwMDAwMDAtMDAwMC0wMDAwLTAwMDAtMDAwMDAwMDAwMDAzOnMzY3JldA=="

/-- The deployment with a second client, `other`. -/
def twoClientEnv : Env :=
  { env with
    lib := { lib with
      uuidParse := fun s => if s = otherText then some 3 else lib.uuidParse s
      basicAuth := fun header =>
        if header = appBasic then some (appText, "s3cret")
        else if header = otherBasic then some (otherText, "s3cret")
        else none } }

def other : Client := { app with id := 3, name := "other" }

def twoClientStore : Store :=
  { store with clients := ⟨[app, other], by decide⟩ }

/-- `app` revokes its own refresh token. -/
theorem revoke_touches_own_iff_app :
    twoClientStore.Untouched (.client 1) ((revoke twoClientEnv appBasic
      (some ("old-refresh-token", ""))).run backend (fun _ => draw 7 20) ⟨0, twoClientStore⟩).2.db := by
  have hcaller : twoClientEnv.caller? appBasic 0 = some (.client 1) := by decide +kernel
  refine (revoke_touches_own_iff (w := ⟨0, twoClientStore⟩) hcaller).1 ?_
  intro token hint hform _
  obtain ⟨rfl, rfl⟩ := Prod.mk.inj (Option.some.inj hform)
  have hrefresh : ∀ t ∈ twoClientStore.refreshTarget
      (twoClientEnv.lib.sha256Hex "old-refresh-token") "", Caller.OwnsRefresh (.client 1) t := by
    decide +kernel
  have haccess : ∀ a ∈ twoClientStore.accessTarget
      (twoClientEnv.lib.sha256Hex "old-refresh-token") "", Caller.OwnsAccess (.client 1) a := by
    decide +kernel
  exact ⟨hrefresh, haccess⟩

/-- **A client ends the session of another one**: `other` presents the refresh token of `app`, and it is
revoked. -/
theorem client_revokes_foreign_token :
    twoClientEnv.caller? otherBasic 0 = some (.client 3) ∧
      ((revoke twoClientEnv otherBasic (some ("old-refresh-token", ""))).run backend
        (fun _ => draw 7 20) ⟨0, twoClientStore⟩).1 = 200 ∧
      annRefreshToken ∈ twoClientStore.refreshTokens.rows ∧ annRefreshToken.clientID = 1 ∧
      ¬ twoClientStore.Untouched (.client 3) ((revoke twoClientEnv otherBasic
        (some ("old-refresh-token", ""))).run backend (fun _ => draw 7 20)
          ⟨0, twoClientStore⟩).2.db := by
  refine ⟨by decide +kernel, by decide +kernel, by decide +kernel, rfl, fun h => ?_⟩
  have hkept := h.refresh annRefreshToken (by decide +kernel) (by decide)
  revert hkept
  decide +kernel

end Examples

end GoauthServer
