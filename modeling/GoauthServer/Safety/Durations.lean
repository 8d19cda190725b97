import GoauthServer.Safety.AccessRevocation
import GoauthServer.Safety.Lifetime
import GoauthServer.Service.Config

/-!
# Durations of an accepted configuration

Four durations come from the configuration: the lifetimes of access and refresh tokens, and window and duration of
the lockout. Each is a number of minutes, days or seconds times its unit, in 64 bits and with wrap-around. `Load`
wants the numbers of the lockout to be positive and asks nothing of the other two, and nothing about size.

`durations_right_iff` says for which accepted configurations all four are what was configured. Where they are,
what is stored with an end ends after the reading of the clock that it was computed from (`EndsLater`): this is
read off the text of the calls, so it holds in every interleaving.
-/

namespace GoauthServer

open Interact GoTime

/-! ### The property -/

/-- **The durations are what was configured**, and positive. -/
structure DurationsRight (env : Env) : Prop where
  expiry : 0 < env.expiry.toInt ∧ env.expiry.toInt = env.cfg.accessTokenExpiry.toInt * (60 * 10 ^ 9)
  refreshTokenLifetime : 0 < env.refreshTokenLifetime.toInt ∧
    env.refreshTokenLifetime.toInt = env.cfg.refreshTokenExpiryDays.toInt * (24 * 60 * 60 * 10 ^ 9)
  lockoutWindow : 0 < env.lockoutWindow.toInt ∧
    env.lockoutWindow.toInt = env.cfg.lockout.windowSeconds.toInt * 10 ^ 9
  lockoutDuration : 0 < env.lockoutDuration.toInt ∧
    env.lockoutDuration.toInt = env.cfg.lockout.durationSeconds.toInt * 10 ^ 9

/-- The end of the access token that a request stores. -/
def Request.accessUntil? : Request → Option Time
  | .sql (.createAccessToken p) => some p.expiresAt
  | _ => none

/-- The end of the refresh token that a request stores. -/
def Request.refreshUntil? : Request → Option Time
  | .sql (.createRefreshToken p) => some p.expiresAt
  | _ => none

/-- The end of the lock that a request sets. -/
def Request.lockedUntil? : Request → Option Time
  | .sql (.lockUserAccount _ t) => some t
  | _ => none

/-- What a request sets an end to ends after the last reading of the clock. -/
def afterClock {α : Type} (end? : Request → Option Time) : Protocol effects α where
  request q log := ∀ t, end? q = some t → ∃ now, (clockReadings log).head? = some now ∧ now < t
  result _ _ := True

/-- **What is issued expires after it was issued**, and a lock ends after it has begun. -/
structure EndsLater (env : Env) : Prop where
  signed : ∀ userID email now, ∃ iat exp, (env.accessClaims userID email now).registered.issuedAt = some iat ∧
    (env.accessClaims userID email now).registered.expiresAt = some exp ∧ iat < exp
  access : ∀ op : Operation, (op.call env).Obeys (afterClock Request.accessUntil?) []
  refresh : ∀ op : Operation, (op.call env).Obeys (afterClock Request.refreshUntil?) []
  lock : ∀ email password sourceIP,
    (verifyCredentials env email password sourceIP).Obeys (afterClock Request.lockedUntil?) []

/-- **The numbers are in range.** -/
structure Configuration.Config.InRange (c : Configuration.Config) : Prop where
  expiry_pos : 0 < c.accessToken.expiry.toInt
  expiry_le : c.accessToken.expiry.toInt * (60 * 10 ^ 9) ≤ 2 ^ 63 - 1
  expiryDays_pos : 0 < c.refreshToken.expiryDays.toInt
  expiryDays_le : c.refreshToken.expiryDays.toInt * (24 * 60 * 60 * 10 ^ 9) ≤ 2 ^ 63 - 1
  windowSeconds_le : c.lockout.windowSeconds.toInt * 10 ^ 9 ≤ 2 ^ 63 - 1
  durationSeconds_le : c.lockout.durationSeconds.toInt * 10 ^ 9 ≤ 2 ^ 63 - 1

/-! ### The durations -/

section Durations

variable {env : Env}

theorem expiry_iff (env : Env) :
    0 < env.expiry.toInt ∧ env.expiry.toInt = env.cfg.accessTokenExpiry.toInt * (60 * 10 ^ 9) ↔
      0 < env.cfg.accessTokenExpiry.toInt ∧ env.cfg.accessTokenExpiry.toInt * (60 * 10 ^ 9) ≤ 2 ^ 63 - 1 :=
  scaled_iff (u := minute) (by decide)

/-- The number of days is multiplied twice, which comes to the same. -/
theorem refreshTokenLifetime_iff (env : Env) : 0 < env.refreshTokenLifetime.toInt ∧
      env.refreshTokenLifetime.toInt = env.cfg.refreshTokenExpiryDays.toInt * (24 * 60 * 60 * 10 ^ 9) ↔
    0 < env.cfg.refreshTokenExpiryDays.toInt ∧
      env.cfg.refreshTokenExpiryDays.toInt * (24 * 60 * 60 * 10 ^ 9) ≤ 2 ^ 63 - 1 := by
  unfold Env.refreshTokenLifetime
  rw [Int64.mul_assoc]
  exact scaled_iff (u := 24 * hour) (by decide)

theorem seconds_iff {n : Int64} (h : 0 < n) : 0 < (n * second).toInt ∧ (n * second).toInt = n.toInt * 10 ^ 9 ↔
    n.toInt * 10 ^ 9 ≤ 2 ^ 63 - 1 := by
  have hpos : 0 < n.toInt := Int64.lt_iff_toInt_lt.mp h
  refine (scaled_iff (u := second) (by decide)).trans ?_
  exact and_iff_right hpos

/-- **The durations of an accepted configuration.** -/
theorem durationsRight_iff {c : Configuration.Config} (hcfg : env.cfg = c.auth) (haccepted : c.lockout.Accepted) :
    DurationsRight env ↔ c.InRange := by
  have hexpiry := expiry_iff env
  have hlifetime := refreshTokenLifetime_iff env
  have hwindow : 0 < env.lockoutWindow.toInt ∧
        env.lockoutWindow.toInt = env.cfg.lockout.windowSeconds.toInt * 10 ^ 9 ↔
      c.lockout.windowSeconds.toInt * 10 ^ 9 ≤ 2 ^ 63 - 1 := by
    unfold Env.lockoutWindow
    rw [hcfg]
    exact seconds_iff haccepted.windowSeconds_pos
  have hduration : 0 < env.lockoutDuration.toInt ∧
        env.lockoutDuration.toInt = env.cfg.lockout.durationSeconds.toInt * 10 ^ 9 ↔
      c.lockout.durationSeconds.toInt * 10 ^ 9 ≤ 2 ^ 63 - 1 := by
    unfold Env.lockoutDuration
    rw [hcfg]
    exact seconds_iff haccepted.durationSeconds_pos
  -- the other two numbers, as the configuration has them
  have hminutes : env.cfg.accessTokenExpiry = c.accessToken.expiry := by rw [hcfg]; rfl
  have hdays : env.cfg.refreshTokenExpiryDays = c.refreshToken.expiryDays := by rw [hcfg]; rfl
  constructor
  · intro h
    obtain ⟨hpos, hle⟩ := hexpiry.mp h.expiry
    obtain ⟨hdays_pos, hdays_le⟩ := hlifetime.mp h.refreshTokenLifetime
    rw [hminutes] at hpos hle
    rw [hdays] at hdays_pos hdays_le
    exact ⟨hpos, hle, hdays_pos, hdays_le, hwindow.mp h.lockoutWindow, hduration.mp h.lockoutDuration⟩
  · intro h
    refine ⟨hexpiry.mpr ?_, hlifetime.mpr ?_, hwindow.mpr h.windowSeconds_le, hduration.mpr h.durationSeconds_le⟩
    · rw [hminutes]
      exact ⟨h.expiry_pos, h.expiry_le⟩
    · rw [hdays]
      exact ⟨h.expiryDays_pos, h.expiryDays_le⟩

end Durations

/-! ### What is stored -/

/-- What a request sets an end to ends this long after the last reading of the clock. -/
def endsAfter {α : Type} (end? : Request → Option Time) (d : Duration) : Protocol effects α where
  request q log := ∀ t, end? q = some t → ∃ now, (clockReadings log).head? = some now ∧ t = add now d
  result _ _ := True

/-- A positive duration. -/
theorem obeys_afterClock {α : Type} {end? : Request → Option Time} {d : Duration} (hd : 0 < d.toInt) {p : Call α}
    {log : Log effects} (h : p.Obeys (endsAfter end? d) log) : p.Obeys (afterClock end?) log := by
  refine h.mono (fun q log hq t ht => ?_) fun _ _ _ => trivial
  obtain ⟨now, hnow, rfl⟩ := hq t ht
  exact ⟨now, hnow, Int.lt_add_of_pos_right now hd⟩

section Text

variable {env : Env}

/-- The end of an access token. -/
theorem Operation.access_endsAfter (env : Env) (op : Operation) :
    (op.call env).Obeys (endsAfter Request.accessUntil? env.expiry) [] := by
  refine (op.obeys env).mono (fun q log hq t ht => ?_) fun _ _ _ => trivial
  unfold Request.accessUntil? at ht
  split at ht
  · obtain rfl := Option.some.inj ht
    obtain ⟨_, _, _, hstores⟩ := Operation.stores_of_create hq
    exact hstores.expiresAt
  · cases ht

/-- The end of a refresh token. -/
theorem Operation.refresh_endsAfter (env : Env) (op : Operation) :
    (op.call env).Obeys (endsAfter Request.refreshUntil? env.refreshTokenLifetime) [] := by
  -- what the calls say about the statement that stores it
  have hstored : ∀ {q : Request} {tokenHash : String} {log : Log effects}, expiryRequest env tokenHash q log →
      ∀ t, q.refreshUntil? = some t →
        ∃ now, (clockReadings log).head? = some now ∧ t = add now env.refreshTokenLifetime := by
    intro q tokenHash log hq t ht
    unfold Request.refreshUntil? at ht
    split at ht
    · obtain rfl := Option.some.inj ht
      exact hq
    · cases ht
  by_cases hrotation : ∃ rawToken clientID clientSecret, op = .rotateRefreshToken rawToken clientID clientSecret
  · obtain ⟨rawToken, clientID, clientSecret, rfl⟩ := hrotation
    exact (rotateRefreshToken_expiry env rawToken clientID clientSecret).map (fun _ _ hq => hstored hq)
      fun _ _ _ => trivial
  by_cases hexchange : ∃ code clientID clientSecret redirectURI,
      op = .exchangeCodeForToken code clientID clientSecret redirectURI
  · obtain ⟨code, clientID, clientSecret, redirectURI, rfl⟩ := hexchange
    exact (exchangeCodeForToken_expiry env code clientID clientSecret redirectURI).map (fun _ _ hq => hstored hq)
      fun _ _ _ => trivial
  -- no other operation stores one
  refine (op.obeys env).mono (fun q log hq t ht => ?_) fun _ _ _ => trivial
  unfold Request.refreshUntil? at ht
  split at ht
  · rcases Operation.eq_of_createRefreshToken hq with h | h
    · exact absurd h hrotation
    · exact absurd h hexchange
  · cases ht

section Locks

variable {email password sourceIP : String} {user : User} {log : Log effects}

/-- A call that sets no lock. -/
theorem obeys_of_setsNoLock {α : Type} {d : Duration} {p : Call α}
    (hp : p.Only fun q : Request => q.lockedUntil? = none) :
    p.Obeys (endsAfter Request.lockedUntil? d) log := by
  refine hp.obeys (fun q log hq t ht => ?_) (fun _ _ => trivial) log
  rw [hq] at ht
  cases ht

theorem logEvent_setsNoLock {α : Type} {entry : AuditEntry} {a : α} :
    (env.logEvent entry (.ret a)).Only fun q : Request => q.lockedUntil? = none := by
  unfold Env.logEvent
  split
  · exact ⟨rfl, fun _ => trivial⟩
  · trivial

theorem lockAccount_endsAfter :
    (lockAccount env user email sourceIP).Obeys (endsAfter Request.lockedUntil? env.lockoutDuration) log := by
  refine ⟨nofun, fun now => ⟨fun t ht => ?_, ?_⟩⟩
  · exact ⟨now, rfl, (Option.some.inj ht).symm⟩
  · rintro (e | _)
    · trivial
    · exact obeys_of_setsNoLock logEvent_setsNoLock

theorem checkPassword_endsAfter :
    (checkPassword env user email password sourceIP).Obeys (endsAfter Request.lockedUntil? env.lockoutDuration)
      log := by
  unfold checkPassword
  split
  · trivial
  split
  · trivial
  · trivial
  · -- a failure is counted, and the account may be locked
    refine ⟨nofun, ?_⟩
    rintro (e | updated)
    · trivial
    refine ⟨nofun, fun now => ?_⟩
    dsimp only
    split
    · exact lockAccount_endsAfter
    · exact obeys_of_setsNoLock logEvent_setsNoLock
  · refine ⟨nofun, ?_⟩
    rintro (e | _)
    · trivial
    refine ⟨nofun, fun now => ⟨nofun, ?_⟩⟩
    rintro (e | _) <;> trivial

theorem verifyCredentials_endsAfter (env : Env) (email password sourceIP : String) :
    (verifyCredentials env email password sourceIP).Obeys (endsAfter Request.lockedUntil? env.lockoutDuration)
      [] := by
  refine ⟨nofun, ?_⟩
  rintro (e | user)
  · cases e <;> trivial
  dsimp only
  split
  · exact checkPassword_endsAfter
  · refine ⟨nofun, fun now => ?_⟩
    dsimp only
    split
    · trivial
    · refine ⟨nofun, ?_⟩
      rintro (e | _)
      · trivial
      · exact checkPassword_endsAfter

end Locks

/-- An access token of at least a second expires after the second in which it was issued. -/
theorem accessClaims_ends (env : Env) (h : 10 ^ 9 ≤ env.expiry.toInt) (userID email : String) (now : Time) :
    ∃ iat exp, (env.accessClaims userID email now).registered.issuedAt = some iat ∧
      (env.accessClaims userID email now).registered.expiresAt = some exp ∧ iat < exp := by
  refine ⟨_, _, rfl, rfl, ?_⟩
  show now / 1000000000 < (now + env.expiry.toInt) / 1000000000
  calc now / 1000000000 < now / 1000000000 + 1 := Int.lt_succ _
    _ = (now + 1000000000) / 1000000000 := (Int.add_ediv_of_dvd_right (Int.dvd_refl 1000000000)).symm
    _ ≤ (now + env.expiry.toInt) / 1000000000 := Int.ediv_le_ediv (by decide) (Int.add_le_add_left h now)

/-- **Where the durations are right, everything ends later.** -/
theorem DurationsRight.endsLater (h : DurationsRight env) : EndsLater env where
  signed := by
    refine accessClaims_ends env ?_
    have hpos := h.expiry.1
    have heq := h.expiry.2
    omega
  access op := obeys_afterClock h.expiry.1 (op.access_endsAfter env)
  refresh op := obeys_afterClock h.refreshTokenLifetime.1 (op.refresh_endsAfter env)
  lock email password sourceIP :=
    obeys_afterClock h.lockoutDuration.1 (verifyCredentials_endsAfter env email password sourceIP)

end Text

/-- **The durations of every accepted configuration** are positive and what was configured, and all that is issued
or locked ends later, exactly where the numbers are in range. -/
theorem durations_right_iff {lib : Configuration.Library} {environ : Configuration.Environ}
    {c : Configuration.Config} (hload : Configuration.load lib environ = .ok c) {env : Env}
    (hcfg : env.cfg = c.auth) : DurationsRight env ∧ EndsLater env ↔ c.InRange := by
  have hright := durationsRight_iff hcfg (Configuration.load_ok hload)
  constructor
  · intro h
    exact hright.mp h.1
  · intro h
    exact ⟨hright.mpr h, (hright.mpr h).endsLater⟩

section Examples

open GoauthServer.Configuration Deployment

/-- Functions of other packages that find no fault. -/
def lenient : Configuration.Library where
  quote s := s
  toLower s := s
  parseCIDR _ := none
  parseAddress _ := none
  parseRequestURI _ := none

/-- The variables that have to be set, and one more. -/
def required (key value : String) : Environ := fun k =>
  if k = key then value
  else if k ∈ ["ACCESS_TOKEN_PRIVATE_KEY", "ACCESS_TOKEN_PUBLIC_KEY", "PROVIDER_ENCRYPTION_KEY",
    "SESSION_SIGNING_KEY"] then "key"
  else ""

/-- The deployment of the examples, with a loaded configuration. -/
def configured (c : Configuration.Config) : Env := { env with cfg := c.auth }

theorem load_auth {lib : Configuration.Library} {environ : Environ} {a : Config}
    (h : (load lib environ).toOption.map Configuration.Config.auth = some a) :
    ∃ c, load lib environ = .ok c ∧ c.auth = a := by
  obtain ⟨c, hc, rfl⟩ := Option.map_eq_some_iff.mp h
  refine ⟨c, ?_, rfl⟩
  cases hload : load lib environ with
  | error e =>
    rw [hload] at hc
    cases hc
  | ok c' =>
    rw [hload] at hc
    exact congrArg Except.ok (Option.some.inj hc)

/-- What is loaded where the numbers are the defaults, but for one lifetime and one duration. -/
def loadedAuth (minutes lockSeconds : Int64) : Config where
  appName := "goauth-server"
  accessTokenExpiry := minutes
  refreshTokenExpiryDays := 30
  refreshTokenMaxLifetimeDays := 90
  lockout := { maxAttempts := 5, windowSeconds := 600, durationSeconds := lockSeconds }
  sessionSigningKey := "key"

/-- The defaults are in range. -/
theorem durations_right_iff_defaults :
    ∃ c, load lenient (required "ENV" "production") = .ok c ∧
      DurationsRight (configured c) ∧ EndsLater (configured c) := by
  obtain ⟨c, hload, hauth⟩ := load_auth
    (show (load lenient (required "ENV" "production")).toOption.map Configuration.Config.auth =
      some (loadedAuth 60 900) by decide +kernel)
  refine ⟨c, hload, (durations_right_iff hload rfl).mpr ?_⟩
  have hexpiry : c.accessToken.expiry = 60 := congrArg Config.accessTokenExpiry hauth
  have hdays : c.refreshToken.expiryDays = 30 := congrArg Config.refreshTokenExpiryDays hauth
  have hlockout : c.lockout = (loadedAuth 60 900).lockout := congrArg Config.lockout hauth
  constructor
  · rw [hexpiry]; decide
  · rw [hexpiry]; decide
  · rw [hdays]; decide
  · rw [hdays]; decide
  · rw [hlockout]; decide
  · rw [hlockout]; decide

/-- **A lifetime of no minutes is accepted**, and every access token has expired when it is issued. So is a lock
of so many seconds that the duration wraps around: it has ended when it begins. -/
theorem expired_when_issued :
    (∃ c, load lenient (required "ACCESS_TOKEN_EXPIRY_MINUTES" "0") = .ok c ∧
      (configured c).expiry.toInt = 0 ∧ ¬ DurationsRight (configured c) ∧ ¬ EndsLater (configured c)) ∧
    ∃ c, load lenient (required "LOGIN_LOCKOUT_DURATION_SECONDS" "9223372037") = .ok c ∧
      (configured c).lockoutDuration.toInt < 0 ∧ ¬ DurationsRight (configured c) := by
  constructor
  · obtain ⟨c, hload, hauth⟩ := load_auth
      (show (load lenient (required "ACCESS_TOKEN_EXPIRY_MINUTES" "0")).toOption.map Configuration.Config.auth =
        some (loadedAuth 0 900) by decide +kernel)
    have hexpiry : (configured c).expiry.toInt = 0 := by
      unfold configured
      rw [hauth]
      decide
    refine ⟨c, hload, hexpiry, fun h => ?_, fun h => ?_⟩
    · exact absurd h.expiry.1 (by rw [hexpiry]; decide)
    · -- both times are the same second
      obtain ⟨iat, exp, hiat, hexp, hlt⟩ := h.signed "u1" "ann@example.com" 0
      have hsame : exp = iat := by
        rw [← Option.some.inj hiat, ← Option.some.inj hexp]
        show (0 + (configured c).expiry.toInt) / 1000000000 = 0 / 1000000000
        rw [hexpiry]
        rfl
      exact absurd hlt (by rw [hsame]; exact Int.lt_irrefl _)
  · obtain ⟨c, hload, hauth⟩ := load_auth
      (show (load lenient (required "LOGIN_LOCKOUT_DURATION_SECONDS" "9223372037")).toOption.map
        Configuration.Config.auth = some (loadedAuth 60 9223372037) by decide +kernel)
    have hduration : (configured c).lockoutDuration.toInt < 0 := by
      unfold configured
      rw [hauth]
      decide
    exact ⟨c, hload, hduration, fun h => absurd h.lockoutDuration.1 (Int.lt_asymm hduration)⟩

end Examples

end GoauthServer
