import GoauthServer.Lib.Text
import GoauthServer.Service.Env

/-!
# Passwords

`verifyArgon2id` (`login.go`), `hashArgon2id` (`change_password.go`) and the password policy of
`internal/util/password`. A stored hash is text in the PHC format
`$argon2id$v=19$m=65536,t=3,p=4$<salt>$<hash>`.
-/

namespace GoauthServer

open Base64

/-- The parameters of a stored hash. -/
structure Argon2Params where
  memory : ℕ
  iterations : ℕ
  parallelism : ℕ
  deriving DecidableEq

/-- One `key=value` of the parameter segment. An unknown key is ignored; `p` is cut to 8 bits. -/
def readParam (acc : Argon2Params) (kv : List Char) : Except AuthError Argon2Params :=
  match Text.splitFirst '=' kv with
  | (_, none) => .error (.text "malformed hash parameter segment")
  | (key, some value) =>
    match Text.parseUint 32 value with
    | none => .error (.text "parsing hash parameter")
    | some v =>
      if key = "m".toList then .ok { acc with memory := v }
      else if key = "t".toList then .ok { acc with iterations := v }
      else if key = "p".toList then .ok { acc with parallelism := v % 256 }
      else .ok acc

/-- The loop over the parameters. -/
def readParams (acc : Argon2Params) : List (List Char) → Except AuthError Argon2Params
  | [] => .ok acc
  | kv :: kvs =>
    match readParam acc kv with
    | .error e => .error e
    | .ok acc' => readParams acc' kvs

/-- `argon2.IDKey`, which panics on zero rounds, zero threads and an empty key. -/
def Env.idKey (env : Env) (password : String) (salt : Bytes) (p : Argon2Params) (keyLen : ℕ) :
    Except AuthError Bytes :=
  if p.iterations < 1 ∨ p.parallelism < 1 ∨ keyLen < 1 then .error .panic
  else .ok (env.lib.idKey password salt p.iterations p.memory p.parallelism keyLen)

/-- `verifyArgon2id`. -/
def verifyArgon2id (env : Env) (password encodedHash : String) : Except AuthError Bool :=
  match encodedHash.toList.splitOn '$' with
  | [_, scheme, _, params, salt, hash] =>
    if scheme ≠ "argon2id".toList then .error (.text "unsupported password hash format")
    else
      match readParams ⟨0, 0, 0⟩ (params.splitOn ',') with
      | .error e => .error e
      | .ok p =>
        match decode rawStd salt with
        | none => .error (.wrap "decoding hash salt" .base64)
        | some salt =>
          match decode rawStd hash with
          | none => .error (.wrap "decoding stored argon2id hash" .base64)
          | some storedHash =>
            -- `uint32(len(storedHash))`
            match env.idKey password salt p (storedHash.length % 2 ^ 32) with
            | .error e => .error e
            | .ok computed => .ok (decide (computed = storedHash))
  | _ => .error (.text "unsupported password hash format")

/-- `hashArgon2id`, given the salt. -/
def hashArgon2id (env : Env) (plain : String) (salt : Bytes) : String :=
  String.ofList ("$argon2id$v=19$m=65536,t=3,p=4$".toList ++ encode rawStd salt ++
    '$' :: encode rawStd (env.lib.idKey plain salt 3 65536 4 32))

/-! ### The password policy -/

/-- `specialChars`. -/
def specialChars : List Char := "!@#$%^&*()-_=+[]\x7b\x7d|;:'\",.<>?/~`".toList

/-- Which classes of characters a password has. -/
structure CharClasses where
  upper : Bool
  lower : Bool
  digit : Bool
  special : Bool

/-- One turn of the loop of `Validate`: a character counts for the first class it is in. -/
def CharClasses.add (lib : Lib) (acc : CharClasses) (r : Char) : CharClasses :=
  if lib.isUpper r && decide (r ≤ 'Z') then { acc with upper := true }
  else if lib.isLower r && decide ('a' ≤ r) then { acc with lower := true }
  else if lib.isDigit r then { acc with digit := true }
  else if specialChars.contains r then { acc with special := true }
  else acc

/-- The part of an email address before the first `@`. -/
def localPart (email : String) : List Char := (Text.splitFirst '@' email.toList).1

/-- `password.Validate`. -/
def validatePassword (lib : Lib) (password userEmail : String) : Except AuthError Unit :=
  let c := password.toList.foldl (CharClasses.add lib) ⟨false, false, false, false⟩
  if password.toList.length < 12 then
    .error (.text "password must be at least 12 characters long")
  else if !c.upper then
    .error (.text "password must contain at least one uppercase letter (A-Z)")
  else if !c.lower then
    .error (.text "password must contain at least one lowercase letter (a-z)")
  else if !c.digit then .error (.text "password must contain at least one digit (0-9)")
  else if !c.special then .error (.text "password must contain at least one special character")
  else if (lib.denylist.map lib.toLower).contains (lib.toLower password) then
    .error (.text "password is too common; please choose a more unique password")
  else if localPart userEmail ≠ [] ∧
      Text.contains (lib.toLower (String.ofList (localPart userEmail))).toList
        (lib.toLower password).toList then
    .error (.text "password must not contain your email address")
  else .ok ()

end GoauthServer
