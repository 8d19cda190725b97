import GoauthServer.Service.Password
import GoauthServer.Service.Token

/-!
# Login and change of password

`VerifyCredentials` (`login.go`) with the lockout policy, and `ChangePassword`
(`change_password.go`).
-/

namespace GoauthServer

open Interact GoTime

/-- How `VerifyCredentials` ends. `locked` carries the result that comes with `ErrAccountLocked`. -/
inductive Verified where
  | success (user : User)
  | locked (lockedUntil : Time)
  | failed (e : AuthError)
  deriving DecidableEq

/-- `time.Duration(s.cfg.Lockout.WindowSeconds) * time.Second`. -/
def Env.lockoutWindow (env : Env) : Duration := env.cfg.lockout.windowSeconds * second

/-- `time.Duration(s.cfg.Lockout.DurationSeconds) * time.Second`. -/
def Env.lockoutDuration (env : Env) : Duration := env.cfg.lockout.durationSeconds * second

/-- `withinWindow`, at the time `now`. The last failure is that of the row as it was read at the
start of the call. -/
def Env.withinWindow (env : Env) (user : User) (now : Time) : Bool :=
  match user.lastFailedLoginAt with
  | none => false
  | some t => decide (sub now t ≤ env.lockoutWindow)

/-- `attempts >= s.cfg.Lockout.MaxAttempts`. -/
def Env.thresholdReached (env : Env) (updated : User) : Bool :=
  decide (env.cfg.lockout.maxAttempts.toInt ≤ updated.failedLoginAttempts)

/-- Lock the account. -/
def lockAccount (env : Env) (user : User) (email sourceIP : String) : Call Verified :=
  Call.now fun now =>
  let lockedUntil := add now env.lockoutDuration
  Call.sql (.lockUserAccount user.id lockedUntil) fun
  | .error e => .ret (.failed (.ofDB "locking user account" e))
  | .ok _ =>
    env.logEvent
      { eventType := .accountLocked, userID := some user.id, ipAddress := some sourceIP
        metadata := [("email", email)] } <|
    .ret (.locked lockedUntil)

/-- The password did not match: count the failure, and lock the account where the policy asks
for it. The clock is read for `time.Since`; without a last failure the reading is not used. -/
def failedAttempt (env : Env) (user : User) (email sourceIP : String) : Call Verified :=
  Call.sql (.incrementFailedLoginAttempts user.id) fun
  | .error e => .ret (.failed (.ofDB "incrementing failed login attempts" e))
  | .ok updated =>
    Call.now fun now =>
      if env.thresholdReached updated && env.withinWindow user now then
        lockAccount env user email sourceIP
      else
        env.logEvent
          { eventType := .loginFailed, userID := some user.id, ipAddress := some sourceIP
            metadata := [("email", email)] } <|
        .ret (.failed .invalidCredentials)

/-- The password matched: clear the failures and record the login. -/
def successfulAttempt (user : User) : Call Verified :=
  Call.sql (.resetLoginAttempts user.id) fun
  | .error e => .ret (.failed (.ofDB "resetting login attempts after success" e))
  | .ok _ =>
    Call.now fun now =>
    Call.sql (.updateLastLogin user.id now) fun
    | .error e => .ret (.failed (.ofDB "updating last login" e))
    | .ok updated => .ret (.success updated)

/-- Steps 4 to 6: the password check. -/
def checkPassword (env : Env) (user : User) (email password sourceIP : String) : Call Verified :=
  match user.passwordHash with
  | none => .ret (.failed .invalidCredentials)
  | some hash =>
    match verifyArgon2id env password hash with
    | .error .panic => .ret (.failed .panic)
    | .error e => .ret (.failed (.wrap "verifying password" e))
    | .ok false => failedAttempt env user email sourceIP
    | .ok true => successfulAttempt user

/-- `Service.VerifyCredentials`. -/
def verifyCredentials (env : Env) (email password sourceIP : String) : Call Verified :=
  Call.sql (.getUserByEmailForAuth email) fun
  | .error .noRows => .ret (.failed .invalidCredentials)
  | .error e => .ret (.failed (.ofDB "getting user for auth" e))
  | .ok user =>
    match user.lockedUntil with
    | none => checkPassword env user email password sourceIP
    | some lockedUntil =>
      Call.now fun now =>
        if now < lockedUntil then .ret (.locked lockedUntil)
        else
          -- an expired lock is cleared in the table; the row at hand stays as it was read
          Call.sql (.resetLoginAttempts user.id) fun
          | .error e => .ret (.failed (.ofDB "resetting expired lockout" e))
          | .ok _ => checkPassword env user email password sourceIP

/-! ### Change of password -/

/-- `auth.ChangePasswordResult`. -/
structure ChangePasswordResult where
  userID : String
  email : String
  deriving DecidableEq

/-- The writes of `ChangePassword`, with the new hash. The revocation of the refresh tokens is
best effort. -/
def storeNewPassword (env : Env) (userID : UUID) (user : User) (hash : String) :
    Call (Except AuthError ChangePasswordResult) :=
  Call.sql (.updatePasswordHash userID (some hash)) fun
  | .error e => .ret (.error (.ofDB "updating password hash" e))
  | .ok _ =>
    Call.sql (.setForcePasswordChange userID false) fun
    | .error e => .ret (.error (.ofDB "clearing force_password_change" e))
    | .ok _ =>
      Call.sql (.revokeRefreshTokensByUser userID (some "password_change")) fun _ =>
        env.logEvent { eventType := .userPasswordChanged, userID := some userID } <|
        env.logEvent { eventType := .forcePasswordChangeSatisfied, userID := some userID } <|
        .ret (.ok { userID := env.lib.uuidString user.id, email := user.email })

/-- `Service.ChangePassword`. -/
def changePassword (env : Env) (userID : UUID) (newPassword : String) :
    Call (Except AuthError ChangePasswordResult) :=
  Call.sql (.getUserByID userID) fun
  | .error .noRows => .ret (.error .userNotFound)
  | .error e => .ret (.error (.ofDB "fetch user for password change" e))
  | .ok user =>
    if !user.forcePasswordChange then .ret (.error .forcePasswordChangeSatisfied)
    else
      match validatePassword env.lib newPassword user.email with
      | .error e => .ret (.error e)
      | .ok _ =>
        Call.randBytes 16 fun
        | none => .ret (.error (.wrap "hashing new password" (.wrap "generating salt" .rand)))
        | some salt => storeNewPassword env userID user (hashArgon2id env newPassword salt)

end GoauthServer
