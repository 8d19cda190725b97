import GoauthServer.Framework.Hoare
import GoauthServer.Framework.Interleaving
import GoauthServer.Lib.Base64
import GoauthServer.Repository.Queries

/-!
# The surroundings of a service call

A call of the service talks to its surroundings by requests (`Request`): SQL statements, readings
of the clock, random bytes, fresh UUIDs and the HTTP endpoints of an identity provider.
`respond` answers one request. What the service does not control is the `Draw` of the step:

* `wait`: how much time passed since the step before it. The clock never goes back;
* `fault`: the request fails and nothing is executed. Every repository call can fail this way;
* `uuid`, `bytes`: the values of `gen_random_uuid()`, `uuid.New()` and `rand.Read`;
* `providerToken`, `userInfo`: what the identity provider answers.
-/

namespace GoauthServer

open Interact Base64

/-- A field of the user-info response, as far as `strField` and `boolField` look at it. -/
inductive JsonField where
  | str (s : String)
  | bool (b : Bool)
  | other
  deriving DecidableEq

/-- The answer of the user-info endpoint. -/
inductive UserInfoReply where
  | failed
  | status (code : ℕ)
  | malformed
  | fields (raw : List (String × JsonField))

/-- `provider.OAuthProviderWithSecret`, the fields that the OAuth flow reads. -/
structure OAuthProviderWithSecret where
  id : UUID
  clientID : UUID
  name : String
  authURL : String
  tokenURL : String
  userInfoURL : String
  scopes : List String
  isEnabled : Bool
  providerClientID : String
  providerClientSecret : String
  deriving DecidableEq

/-- What a call asks of its surroundings. -/
inductive Request where
  | sql (q : Query)
  | now
  | randBytes (n : ℕ)
  | newUUID
  | exchangeCode (p : OAuthProviderWithSecret) (code callbackURL : String)
  | getUserInfo (accessToken userInfoURL : String)

/-- The type of an answer. -/
@[reducible] def Request.Reply : Request → Type
  | .sql q => Except DBError q.Row
  | .now => Time
  | .randBytes _ => Option Bytes
  | .newUUID => UUID
  | .exchangeCode _ _ _ => Option String
  | .getUserInfo _ _ => UserInfoReply

/-- The effects of the server. -/
abbrev effects : Signature := ⟨Request, Request.Reply⟩

/-- A service call. -/
abbrev Call (α : Type) : Type := Prog effects α

/-- Execute a statement. -/
abbrev Call.sql {α : Type} (q : Query) (k : Except DBError q.Row → Call α) : Call α :=
  .call (S := effects) (Request.sql q) k

/-- Read the clock. -/
abbrev Call.now {α : Type} (k : Time → Call α) : Call α :=
  .call (S := effects) Request.now k

/-- Draw random bytes. -/
abbrev Call.randBytes {α : Type} (n : ℕ) (k : Option Bytes → Call α) : Call α :=
  .call (S := effects) (Request.randBytes n) k

/-- Draw a UUID. -/
abbrev Call.newUUID {α : Type} (k : UUID → Call α) : Call α :=
  .call (S := effects) Request.newUUID k

/-- The choices that the service does not control. -/
structure Draw where
  wait : ℕ
  fault : Bool
  uuid : UUID
  bytes : ℕ → UInt8
  providerToken : Option String
  userInfo : UserInfoReply

/-- The database and the clock. -/
structure World where
  now : Time
  db : Store

/-- Time passes. -/
def World.wait (w : World) (n : ℕ) : World := { w with now := w.now + n }

theorem World.wait_zero (w : World) : w.wait 0 = w := by
  simp [World.wait]

theorem World.le_wait (w : World) (n : ℕ) : w.now ≤ (w.wait n).now :=
  Int.le_add_of_nonneg_right (Int.natCast_nonneg n)

/-- Answer one request. -/
def respond (q : Request) (d : Draw) (w : World) : q.Reply × World :=
  match q with
  | .sql q =>
    if d.fault then (.error .fault, w.wait d.wait)
    else
      let r := q.exec (w.wait d.wait).now d.uuid w.db
      (r.1, ⟨(w.wait d.wait).now, r.2⟩)
  | .now => ((w.wait d.wait).now, w.wait d.wait)
  | .randBytes n =>
    (if d.fault then none else some ((List.range n).map d.bytes), w.wait d.wait)
  | .newUUID => (d.uuid, w.wait d.wait)
  | .exchangeCode _ _ _ => (if d.fault then none else d.providerToken, w.wait d.wait)
  | .getUserInfo _ _ => (if d.fault then .failed else d.userInfo, w.wait d.wait)

/-- The surroundings as a backend of programs. -/
abbrev backend : Backend effects := ⟨World, Draw, respond⟩

/-! ### Steps of a pool -/

section Pools

variable {ι α : Type} [DecidableEq ι] {c : Pool backend ι α} {i : ι} {d : Draw} {q : Request}
  {k : q.Reply → Call α}

theorem step_world (h : (c.threads i).prog = .call q k) :
    (c.step i d).world = (respond q d c.world).2 := Pool.step_world_of_call h

theorem step_log (h : (c.threads i).prog = .call q k) :
    ((c.step i d).threads i).log = ⟨q, (respond q d c.world).1⟩ :: (c.threads i).log := by
  rw [Pool.step_threads_self h]

end Pools

/-! ### Answers -/

section Answers

variable {d : Draw} {w : World} {u : User} {ι α : Type} {id : UUID}

theorem respond_sql_fault (q : Query) (h : d.fault = true) :
    respond (.sql q) d w = (.error .fault, w.wait d.wait) := by
  simp [respond, h]

theorem respond_sql (q : Query) (h : d.fault = false) : respond (.sql q) d w =
      ((q.exec (w.wait d.wait).now d.uuid w.db).1,
        ⟨(w.wait d.wait).now, (q.exec (w.wait d.wait).now d.uuid w.db).2⟩) := by
  simp [respond, h]

/-- The clock never goes back. -/
theorem le_now_respond (q : Request) (d : Draw) (w : World) : w.now ≤ (respond q d w).2.now := by
  have hle := w.le_wait d.wait
  cases q with
  | sql q =>
    cases hf : d.fault with
    | true => rw [respond_sql_fault q hf]; exact hle
    | false => rw [respond_sql q hf]; exact hle
  | _ => exact hle

theorem le_now_prog {α : Type} (p : Call α) (ds : ℕ → Draw) (w : World) :
    w.now ≤ (p.run backend ds w).2.now := by
  induction p generalizing ds w with
  | ret a => exact le_refl w.now
  | call q k ih =>
    rw [Prog.run_call]
    exact (le_now_respond q (ds 0) w).trans (ih _ _ _)

theorem le_now_step [DecidableEq ι] (c : Pool backend ι α) (i : ι) (d : Draw) :
    c.world.now ≤ (c.step i d).world.now := by
  cases hi : (c.threads i).prog with
  | ret a => rw [Pool.step_of_ret hi]
  | call q k =>
    rw [step_world hi]
    exact le_now_respond q d c.world

theorem le_now_run [DecidableEq ι] (c : Pool backend ι α) (ls : List (ι × Draw)) :
    c.world.now ≤ (c.run ls).world.now := by
  induction ls generalizing c with
  | nil => exact le_refl c.world.now
  | cons l ls ih => exact (le_now_step c l.1 l.2).trans (ih _)

/-- **What a step does to the database.** It executes a statement, or it leaves the database as
it was. -/
theorem respond_db (q : Request) (d : Draw) (w : World) :
    ((∀ q', q = .sql q' → d.fault = true) ∧ (respond q d w).2.db = w.db) ∨
      ∃ q', q = .sql q' ∧ d.fault = false ∧
        (respond q d w).2.db = (q'.exec (w.wait d.wait).now d.uuid w.db).2 := by
  cases q with
  | sql q =>
    cases hf : d.fault with
    | true => rw [respond_sql_fault q hf]; exact Or.inl ⟨fun _ _ => rfl, rfl⟩
    | false => rw [respond_sql q hf]; exact Or.inr ⟨q, rfl, rfl, rfl⟩
  | _ => exact Or.inl ⟨fun _ hq => (by cases hq), rfl⟩

/-- What holds of the database as it is, and of what the statement makes of it, holds after the step. -/
theorem respond_induction {P : Store → Prop} {q : Request} (hsame : P w.db)
    (hexec : ∀ q', q = .sql q' → d.fault = false → P (q'.exec (w.wait d.wait).now d.uuid w.db).2) :
    P (respond q d w).2.db := by
  rcases respond_db q d w with ⟨_, hdb⟩ | ⟨q', hq, hf, hdb⟩
  · rw [hdb]
    exact hsame
  · rw [hdb]
    exact hexec q' hq hf

/-- A statement that is answered with a row was executed. -/
theorem respond_sql_ok {q : Query} {r : q.Row} (h : (respond (.sql q) d w).1 = .ok r) :
    d.fault = false ∧ (q.exec (w.wait d.wait).now d.uuid w.db).1 = .ok r ∧
      (respond (.sql q) d w).2.db = (q.exec (w.wait d.wait).now d.uuid w.db).2 := by
  cases hf : d.fault with
  | true =>
    rw [respond_sql_fault q hf] at h
    cases h
  | false =>
    rw [respond_sql q hf] at h ⊢
    exact ⟨rfl, h, rfl⟩

theorem respond_getRefreshTokenByHash {tokenHash : String} {t : RefreshToken}
    (h : (respond (.sql (.getRefreshTokenByHash tokenHash)) d w).1 = .ok t) :
    t ∈ w.db.refreshTokens.rows ∧ t.tokenHash = tokenHash := by
  obtain ⟨ht, hp⟩ := selectOne_ok (respond_sql_ok h).2.1
  exact ⟨ht, by simpa using hp⟩

theorem respond_getAuthorizationCode {code : String} {c : AuthorizationCode}
    (h : (respond (.sql (.getAuthorizationCode code)) d w).1 = .ok c) :
    c ∈ w.db.authorizationCodes.rows ∧ c.code = code := by
  obtain ⟨hc, hp⟩ := selectOne_ok (respond_sql_ok h).2.1
  exact ⟨hc, by simpa using hp⟩

theorem respond_getUserByID
    (h : (respond (.sql (.getUserByID id)) d w).1 = .ok u) : u ∈ w.db.users.rows ∧ u.id = id := by
  obtain ⟨hu, hp⟩ := selectOne_ok (respond_sql_ok h).2.1
  exact ⟨hu, by simpa using hp⟩

theorem respond_getUserByEmailForAuth {email : String}
    (h : (respond (.sql (.getUserByEmailForAuth email)) d w).1 = .ok u) :
    u ∈ w.db.users.rows ∧ u.email = email := by
  obtain ⟨hu, hp⟩ := selectOne_ok (respond_sql_ok h).2.1
  exact ⟨hu, by simpa using hp⟩

theorem respond_getUserByProviderID {provider providerID : Option String}
    (h : (respond (.sql (.getUserByProviderID provider providerID)) d w).1 = .ok u) :
    u ∈ w.db.users.rows ∧ sameNonNull u.provider provider = true ∧
      sameNonNull u.providerID providerID = true := by
  obtain ⟨hu, hp⟩ := selectOne_ok (respond_sql_ok h).2.1
  exact ⟨hu, Bool.and_eq_true_iff.mp hp⟩

theorem respond_updateLastLogin {t : Time}
    (h : (respond (.sql (.updateLastLogin id t)) d w).1 = .ok u) : u.id = id := by
  have hok : (updateUser w.db.users (w.wait d.wait).now id (fun u => { u with lastLoginAt := t })
      fun _ => rfl).1 = .ok u := (respond_sql_ok h).2.1
  obtain ⟨a, _, hid, rfl⟩ := updateUser_ok hok
  exact hid

/-- A user who was created has an identifier of its own. -/
theorem respond_createUser {p : CreateUserParams}
    (h : (respond (.sql (.createUser p)) d w).1 = .ok u) : ∀ a ∈ w.db.users.rows, a.id ≠ u.id := by
  have hok := (respond_sql_ok h).2.1
  simp only [Query.exec, Store.withUsers] at hok
  split at hok
  · cases hok
  · rcases insertOne_cases w.db.users true (p.row (w.wait d.wait).now d.uuid) with
      ⟨e, hr⟩ | ⟨t, hins, hr⟩
    · rw [hr] at hok
      cases hok
    · rw [hr] at hok
      obtain rfl := Except.ok.inj hok
      intro a ha hid
      have hclash := (Relational.Table.insert_eq_some hins).2 a ha
      simp [Relational.Keyed.clash, Relational.Keyed.key, hid] at hclash

end Answers

/-! ### Runs -/

/-- No time passes. -/
def Instant (ds : ℕ → Draw) : Prop := ∀ n, (ds n).wait = 0

/-- Nothing fails. -/
def Sound (ds : ℕ → Draw) : Prop := ∀ n, (ds n).fault = false

theorem Instant.tail {ds : ℕ → Draw} (h : Instant ds) : Instant fun n => ds (n + 1) :=
  fun n => h (n + 1)

theorem Sound.tail {ds : ℕ → Draw} (h : Sound ds) : Sound fun n => ds (n + 1) :=
  fun n => h (n + 1)

section Runs

variable {α : Type} {ds : ℕ → Draw} {w : World}

theorem run_sql (q : Query) (k : Except DBError q.Row → Call α) (hf : (ds 0).fault = false) :
    (Call.sql q k).run backend ds w =
      (k (q.exec (w.wait (ds 0).wait).now (ds 0).uuid w.db).1).run backend (fun n => ds (n + 1))
        ⟨(w.wait (ds 0).wait).now, (q.exec (w.wait (ds 0).wait).now (ds 0).uuid w.db).2⟩ := by
  rw [Prog.run_call]
  simp only [respond_sql q hf]

theorem run_sql_fault (q : Query) (k : Except DBError q.Row → Call α) (hf : (ds 0).fault = true) :
    (Call.sql q k).run backend ds w =
      (k (.error .fault)).run backend (fun n => ds (n + 1)) (w.wait (ds 0).wait) := by
  rw [Prog.run_call]
  simp only [respond_sql_fault q hf]

theorem along_sql {P : (q : Request) → Draw → World → Prop} (q : Query)
    (k : Except DBError q.Row → Call α) (hf : (ds 0).fault = false) :
    (Call.sql q k).Along backend P ds w ↔ P (.sql q) (ds 0) w ∧
      (k (q.exec (w.wait (ds 0).wait).now (ds 0).uuid w.db).1).Along backend P (fun n => ds (n + 1))
        ⟨(w.wait (ds 0).wait).now, (q.exec (w.wait (ds 0).wait).now (ds 0).uuid w.db).2⟩ := by
  rw [Prog.along_call]
  simp only [respond_sql q hf]

theorem run_now (k : Time → Call α) : (Call.now k).run backend ds w =
      (k (w.wait (ds 0).wait).now).run backend (fun n => ds (n + 1)) (w.wait (ds 0).wait) := rfl

end Runs

/-! ### Postconditions -/

/-- Nothing is asked of the requests. -/
abbrev anyRequest : (q : Request) → Draw → World → Prop := fun _ _ _ => True

section Postconditions

variable {α : Type} {Q : α → World → Prop} {w : World}

/-- **A statement**, in a run alone. -/
theorem ensures_statement {q : Query} {k : Except DBError q.Row → Call α}
    (hok : ∀ d r, (respond (.sql q) d w).1 = .ok r →
      (k (.ok r)).Ensures backend anyRequest Q (respond (.sql q) d w).2)
    (herr : ∀ d e, (respond (.sql q) d w).1 = .error e →
      (k (.error e)).Ensures backend anyRequest Q (respond (.sql q) d w).2) :
    (Call.sql q k).Ensures backend anyRequest Q w := by
  refine .call fun d _ => ?_
  show (k (respond (.sql q) d w).1).Ensures backend anyRequest Q (respond (.sql q) d w).2
  cases hr : (respond (.sql q) d w).1 with
  | ok r => exact hok d r hr
  | error e => exact herr d e hr

/-- **Random bytes**, in a run alone. -/
theorem ensures_random {n : ℕ} {k : Option Bytes → Call α}
    (hsome : ∀ d : Draw, (k (some ((List.range n).map d.bytes))).Ensures backend anyRequest Q (w.wait d.wait))
    (hnone : ∀ m : ℕ, (k none).Ensures backend anyRequest Q (w.wait m)) :
    (Call.randBytes n k).Ensures backend anyRequest Q w := by
  refine .call fun d _ => ?_
  show (k (respond (.randBytes n) d w).1).Ensures backend anyRequest Q (w.wait d.wait)
  cases hf : d.fault with
  | true =>
    rw [show (respond (.randBytes n) d w).1 = none from if_pos hf]
    exact hnone d.wait
  | false =>
    rw [show (respond (.randBytes n) d w).1 = some ((List.range n).map d.bytes) from
      if_neg (ne_true_of_eq_false hf)]
    exact hsome d

end Postconditions

/-! ### Inserts -/

section Inserts

variable (d : Draw) (w : World)

/-- The insert `q` fails and changes nothing, or it appends `row` to the table `T` and answers with it. -/
abbrev Inserts {ρ : Type} [Relational.Keyed ρ] (T : Store → Relational.Table ρ) (row : ρ) (q : Query)
    (answer : q.Row) : Prop :=
  (∃ e, (respond (.sql q) d w).1 = .error e ∧ (respond (.sql q) d w).2.db = w.db) ∨
    ∃ t, (T w.db).insert row = some t ∧ (respond (.sql q) d w).1 = .ok answer ∧
      T (respond (.sql q) d w).2.db = t

/-- A step inserts if its statement does. -/
theorem inserts_of_exec {ρ : Type} [Relational.Keyed ρ] {T : Store → Relational.Table ρ} {row : ρ} {q : Query}
    {answer : q.Row}
    (h : (∃ e, q.exec (w.wait d.wait).now d.uuid w.db = (.error e, w.db)) ∨
      ∃ t s, (T w.db).insert row = some t ∧ T s = t ∧
        q.exec (w.wait d.wait).now d.uuid w.db = (.ok answer, s)) : Inserts d w T row q answer := by
  unfold Inserts
  cases hf : d.fault with
  | true =>
    rw [respond_sql_fault _ hf]
    exact Or.inl ⟨_, rfl, rfl⟩
  | false =>
    rw [respond_sql _ hf]
    rcases h with ⟨e, h⟩ | ⟨t, s, hins, hs, h⟩
    · rw [h]
      exact Or.inl ⟨e, rfl, rfl⟩
    · rw [h]
      exact Or.inr ⟨t, hins, rfl, hs⟩

theorem respond_createRefreshToken (p : CreateRefreshTokenParams) :
    Inserts d w Store.refreshTokens (p.row (w.wait d.wait).now d.uuid) (.createRefreshToken p)
      (p.row (w.wait d.wait).now d.uuid) := by
  refine inserts_of_exec d w ?_
  simp only [Query.exec]
  rcases insertOne_cases w.db.refreshTokens _ (p.row (w.wait d.wait).now d.uuid) with ⟨e, h⟩ | ⟨t, hins, h⟩
  · rw [h]; exact Or.inl ⟨e, rfl⟩
  · rw [h]; exact Or.inr ⟨t, _, hins, rfl, rfl⟩

theorem respond_createAccessToken (p : CreateAccessTokenParams) :
    Inserts d w Store.accessTokens (p.row (w.wait d.wait).now d.uuid) (.createAccessToken p)
      (p.row (w.wait d.wait).now d.uuid) := by
  refine inserts_of_exec d w ?_
  simp only [Query.exec]
  rcases insertOne_cases w.db.accessTokens _ (p.row (w.wait d.wait).now d.uuid) with ⟨e, h⟩ | ⟨t, hins, h⟩
  · rw [h]; exact Or.inl ⟨e, rfl⟩
  · rw [h]; exact Or.inr ⟨t, _, hins, rfl, rfl⟩

theorem respond_createAuthorizationCode (p : CreateAuthorizationCodeParams) :
    Inserts d w Store.authorizationCodes (p.row (w.wait d.wait).now d.uuid) (.createAuthorizationCode p)
      (p.row (w.wait d.wait).now d.uuid) := by
  refine inserts_of_exec d w ?_
  simp only [Query.exec]
  rcases insertOne_cases w.db.authorizationCodes _ (p.row (w.wait d.wait).now d.uuid) with
    ⟨e, h⟩ | ⟨t, hins, h⟩
  · rw [h]; exact Or.inl ⟨e, rfl⟩
  · rw [h]; exact Or.inr ⟨t, _, hins, rfl, rfl⟩

theorem respond_createClient (p : CreateClientParams) :
    Inserts d w Store.clients (p.row (w.wait d.wait).now d.uuid) (.createClient p)
      (p.row (w.wait d.wait).now d.uuid) := by
  refine inserts_of_exec d w ?_
  simp only [Query.exec]
  split
  · exact Or.inl ⟨_, rfl⟩
  rcases insertOne_cases w.db.clients _ (p.row (w.wait d.wait).now d.uuid) with ⟨e, h⟩ | ⟨t, hins, h⟩
  · rw [h]; exact Or.inl ⟨e, rfl⟩
  · rw [h]; exact Or.inr ⟨t, _, hins, rfl, rfl⟩

theorem respond_createUser_insert (p : CreateUserParams) :
    Inserts d w Store.users (p.row (w.wait d.wait).now d.uuid) (.createUser p)
      (p.row (w.wait d.wait).now d.uuid) := by
  refine inserts_of_exec d w ?_
  simp only [Query.exec, Store.withUsers]
  split
  · exact Or.inl ⟨_, rfl⟩
  rcases insertOne_cases w.db.users true (p.row (w.wait d.wait).now d.uuid) with ⟨e, h⟩ | ⟨t, hins, h⟩
  · rw [h]; exact Or.inl ⟨e, rfl⟩
  · rw [h]; exact Or.inr ⟨t, _, hins, rfl, rfl⟩

end Inserts

end GoauthServer
