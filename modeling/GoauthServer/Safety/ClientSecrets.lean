import GoauthServer.Repository.Evolution
import GoauthServer.Service.Deployment
import GoauthServer.Service.Revoke
import GoauthServer.Spec.ClientAuth
import GoauthServer.Transport.Administration

/-!
# The latest secret of a client

Which credentials authenticate a client after a sequence of administrative operations: the identifier of a
client that exists and is active, and the secret that was last returned for it, or configured for it by the
bootstrap. All three places that authenticate clients agree on that.

The operations are compared with a `Registry`, which keeps for each client whether it is active and its
secret. A registry knows nothing of hashes and tables: it is written from what the operations returned
(`Registry.record`). `Recorded` relates it to the `clients` table, and every operation keeps the relation
(`recorded_step`), whether it succeeds or fails.
-/

namespace GoauthServer

open Interact Relational

variable {R : Registry} {rows : List Client} {g : Client → Client}

/-! ### The registry -/

/-- What is known of a client. -/
structure Registration where
  active : Bool
  secret : String
  deriving DecidableEq

/-- The clients and their secrets. -/
abbrev Registry : Type := UUID → Option Registration

/-- The credentials are those of a client that is active. -/
def Registry.accepts (R : Registry) (id : UUID) (secret : String) : Bool :=
  (R id).any fun r => r.active && r.secret == secret

/-- The row with this identifier is new. -/
def Inserted (before after : Table Client) (id : UUID) : Bool :=
  Refers after (fun c => c.id == id) && !Refers before (fun c => c.id == id)

/-- Record an operation and its result. The bootstrap does not return the identifier of the client it creates,
so that client is read off the table. -/
def Registry.record (R : Registry) (before after : Table Client) : ClientOperation → ClientReply → Registry
  | .create dto _, .created (.ok c) => Function.update R c.id (some ⟨dto.isActive, c.plainSecret⟩)
  | .regenerate id, .regenerated (.ok c) =>
    Function.update R id ((R id).map fun r => { r with secret := c.plainSecret })
  | .delete id, .deleted (.ok _) => Function.update R id ((R id).map fun r => { r with active := false })
  | .bootstrap cfg, .bootstrapped _ => fun id =>
    if Inserted before after id then some ⟨true, cfg.defaultClientSecret⟩ else R id
  | _, _ => R

/-- Execute an operation and record it. -/
def registerStep (env : AdminEnv) (s : World × Registry) (op : ClientOperation × (ℕ → Draw)) :
    World × Registry :=
  let r := (op.1.call env).run backend op.2 s.1
  (r.2, s.2.record s.1.db.clients r.2.db.clients op.1 r.1)

/-! ### The registry and the table -/

/-- A row is as the registration says. -/
def Registration.Of (lib : Lib) (c : Client) (r : Registration) : Prop :=
  (c.isActive == some true) = r.active ∧ c.clientSecretHash = lib.sha256Hex r.secret

/-- The registry describes the table. -/
structure Recorded (lib : Lib) (rows : List Client) (R : Registry) : Prop where
  of_row : ∀ c ∈ rows, ∃ r, R c.id = some r ∧ r.Of lib c
  row_of : ∀ id r, R id = some r → ∃ c ∈ rows, c.id = id

/-- A new row is registered. -/
theorem Recorded.insert {lib : Lib} {t t' : Table Client} (h : Recorded lib t.rows R)
    {c : Client} {r : Registration} (hins : t.insert c = some t') (hr : r.Of lib c) :
    Recorded lib t'.rows (Function.update R c.id (some r)) := by
  obtain ⟨hrows, hfresh⟩ := Table.insert_eq_some hins
  have hne : ∀ a ∈ t.rows, a.id ≠ c.id := by
    intro a ha hid
    have hclash := hfresh a ha
    simp [Keyed.clash, Keyed.key, hid] at hclash
  constructor
  · intro a ha
    rw [hrows, List.mem_append, List.mem_singleton] at ha
    rcases ha with ha | rfl
    · rw [Function.update_of_ne (hne a ha)]
      exact h.of_row a ha
    · exact ⟨r, Function.update_self .., hr⟩
  · intro id r' hid
    rw [hrows]
    by_cases heq : id = c.id
    · exact ⟨c, List.mem_append_right _ (List.mem_singleton.mpr rfl), heq.symm⟩
    · rw [Function.update_of_ne heq] at hid
      obtain ⟨a, ha, rfl⟩ := h.row_of id r' hid
      exact ⟨a, List.mem_append_left _ ha, rfl⟩

/-- The rows with one identifier are rewritten by `g`, and their registration by `f`. -/
theorem Recorded.map {lib : Lib} (h : Recorded lib rows R) (id : UUID) {f : Registration → Registration}
    (hid : ∀ c, (g c).id = c.id)
    (hother : ∀ (c : Client) (r : Registration), c.id ≠ id → r.Of lib c → r.Of lib (g c))
    (hself : ∀ (c : Client) (r : Registration), c.id = id → r.Of lib c → (f r).Of lib (g c)) :
    Recorded lib (rows.map g) (Function.update R id ((R id).map f)) := by
  constructor
  · intro a ha
    obtain ⟨c, hc, rfl⟩ := List.mem_map.mp ha
    obtain ⟨r, hr, hof⟩ := h.of_row c hc
    rw [hid c]
    by_cases heq : c.id = id
    · subst heq
      exact ⟨f r, by rw [Function.update_self, hr, Option.map_some], hself c r rfl hof⟩
    · exact ⟨r, by rw [Function.update_of_ne heq, hr], hother c r heq hof⟩
  · intro id' r hr
    have hsome : ∃ r', R id' = some r' := by
      by_cases heq : id' = id
      · subst heq
        rw [Function.update_self] at hr
        obtain ⟨r', hr', _⟩ := Option.map_eq_some_iff.mp hr
        exact ⟨r', hr'⟩
      · rw [Function.update_of_ne heq] at hr
        exact ⟨r, hr⟩
    obtain ⟨r', hr'⟩ := hsome
    obtain ⟨c, hc, rfl⟩ := h.row_of id' r' hr'
    exact ⟨g c, List.mem_map_of_mem hc, hid c⟩

/-- The rows are rewritten without a change of what is registered. -/
theorem Recorded.congr {lib : Lib} (h : Recorded lib rows R) (hid : ∀ c, (g c).id = c.id)
    (hof : ∀ (c : Client) (r : Registration), r.Of lib c → r.Of lib (g c)) :
    Recorded lib (rows.map g) R := by
  constructor
  · intro a ha
    obtain ⟨c, hc, rfl⟩ := List.mem_map.mp ha
    obtain ⟨r, hr, hrc⟩ := h.of_row c hc
    exact ⟨r, by rw [hid c, hr], hof c r hrc⟩
  · intro id r hr
    obtain ⟨c, hc, rfl⟩ := h.row_of id r hr
    exact ⟨g c, List.mem_map_of_mem hc, hid c⟩

/-! ### What the operations do to the clients -/

section Rules

variable {α : Type} {Q : α → World → Prop} {w : World} {q : Query}
  {k : Except DBError q.Row → Call α}

/-- Nothing is asked of the requests. -/
abbrev Free (_ : Request) (_ : Draw) (_ : World) : Prop := True

theorem free_randBytes {n : ℕ} {k : Option Base64.Bytes → Call α}
    (h : ∀ (bytes : Option Base64.Bytes) (m : ℕ), (k bytes).Ensures backend Free Q (w.wait m)) :
    (Call.randBytes n k).Ensures backend Free Q w :=
  .call fun d _ => h _ d.wait

/-- A statement that leaves the clients alone. -/
theorem free_sql (hq : (Request.sql q).keepsClients = true)
    (h : ∀ r w', w'.db.clients = w.db.clients → (k r).Ensures backend Free Q w') :
    (Call.sql q k).Ensures backend Free Q w :=
  .call fun d _ => h _ _ (respond_of_keepsClients hq d w)

/-- `GetClient` returns the row with the identifier. -/
theorem free_getClient {id : UUID} {k : Except DBError Client → Call α}
    (herr : ∀ e w', w'.db.clients = w.db.clients → (k (.error e)).Ensures backend Free Q w')
    (hok : ∀ c w', c.id = id → w'.db.clients = w.db.clients → (k (.ok c)).Ensures backend Free Q w') :
    (Call.sql (.getClient id) k).Ensures backend Free Q w := by
  refine .call fun d _ => ?_
  have hclients := respond_of_keepsClients (q := .sql (.getClient id)) rfl d w
  show (k (respond (.sql (.getClient id)) d w).1).Ensures backend Free Q _
  cases hr : (respond (.sql (.getClient id)) d w).1 with
  | error e => exact herr e _ hclients
  | ok c => exact hok c _ (beq_iff_eq.mp (selectOne_ok (respond_sql_ok hr).2.1).2) hclients

theorem free_createClient {p : CreateClientParams} {k : Except DBError Client → Call α}
    (herr : ∀ e w', w'.db.clients = w.db.clients → (k (.error e)).Ensures backend Free Q w')
    (hok : ∀ now fresh w', w.db.clients.insert (p.row now fresh) = some w'.db.clients →
      (k (.ok (p.row now fresh))).Ensures backend Free Q w') :
    (Call.sql (.createClient p) k).Ensures backend Free Q w := by
  refine .call fun d _ => ?_
  show (k (respond (.sql (.createClient p)) d w).1).Ensures backend Free Q _
  rcases respond_createClient d w p with ⟨e, hr, hdb⟩ | ⟨t, hins, hr, hdb⟩
  · rw [hr]
    exact herr e _ (congrArg Store.clients hdb)
  · rw [hr]
    exact hok _ _ _ (by rw [hins, hdb])

/-- A statement that rewrites rows fails, or it is executed. -/
theorem free_rewrite (hq : ∀ p, q ≠ .createClient p)
    (herr : ∀ e w', w'.db.clients = w.db.clients → (k (.error e)).Ensures backend Free Q w')
    (hok : ∀ r now w', w'.db.clients.rows = w.db.clients.rows.map (q.clientRow now) →
      (k (.ok r)).Ensures backend Free Q w') :
    (Call.sql q k).Ensures backend Free Q w := by
  refine .call fun d _ => ?_
  show (k (respond (.sql q) d w).1).Ensures backend Free Q _
  cases hr : (respond (.sql q) d w).1 with
  | error e => exact herr e _ (respond_clients_error hr)
  | ok r =>
    have hrows := respond_clients_map (q := .sql q) (fun p hp => hq p (Request.sql.inj hp)) d w
    have hrow : (Request.sql q).clientRow d w = q.clientRow (w.wait d.wait).now :=
      funext (Request.clientRow_sql (respond_sql_ok hr).1 q w)
    rw [hrow] at hrows
    exact hok r _ _ hrows

/-- An audit event. -/
theorem free_logEvent {env : Env} {entry : AuditEntry} {k : Call α}
    (h : ∀ w', w'.db.clients = w.db.clients → k.Ensures backend Free Q w') :
    (env.logEvent entry k).Ensures backend Free Q w := by
  unfold Env.logEvent
  split
  · exact free_sql rfl fun _ => h
  · exact h w rfl

end Rules

section Operations

variable (env : AdminEnv) (w : World)

/-- `CreateClient` fails and changes nothing, or it inserts an entry with the secret that it returns. -/
theorem createClient_clients (dto : CreateClientDTO) (adminUserID : UUID) :
    (createClient env dto adminUserID).Ensures backend Free (fun r w' =>
      (∃ e, r = .error e ∧ w'.db.clients = w.db.clients) ∨
      ∃ c row, r = .ok c ∧ c.id = row.id ∧ w.db.clients.insert row = some w'.db.clients ∧
        Registration.Of env.auth.lib row ⟨dto.isActive, c.plainSecret⟩) w := by
  unfold createClient
  split
  · exact .ret (Or.inl ⟨_, rfl, rfl⟩)
  refine free_randBytes fun bytes m => ?_
  cases bytes with
  | none => exact .ret (Or.inl ⟨_, rfl, rfl⟩)
  | some bytes =>
    refine free_createClient (fun e w' hw' => ?_) fun now fresh w' hins => ?_
    · cases e <;> exact .ret (Or.inl ⟨_, rfl, hw'⟩)
    · exact .ret (Or.inr ⟨_, _, rfl, rfl, hins, by simp [CreateClientParams.row], rfl⟩)

/-- `UpdateClient` touches neither the flag nor the secret. -/
theorem updateClient_clients (id : UUID) (dto : UpdateClientDTO) :
    (updateClient env id dto).Ensures backend Free (fun _ w' =>
      w'.db.clients = w.db.clients ∨ ∃ p now,
        w'.db.clients.rows = w.db.clients.rows.map (Query.clientRow now (.updateClient p))) w := by
  unfold updateClient
  split
  · exact .ret (Or.inl rfl)
  refine free_rewrite (by simp) (fun e w' hw' => ?_) fun row now w' hw' => .ret (Or.inr ⟨_, now, hw'⟩)
  cases e <;> exact .ret (Or.inl hw')

/-- `RegenerateSecret` fails and changes nothing, or it stores the digest of the secret that it returns. -/
theorem regenerateSecret_clients (id : UUID) : (regenerateSecret env id).Ensures backend Free (fun r w' =>
      (∃ e, r = .error e ∧ w'.db.clients = w.db.clients) ∨
      ∃ c now, r = .ok c ∧ w'.db.clients.rows = w.db.clients.rows.map
        (Query.clientRow now (.regenerateClientSecret id (env.auth.lib.sha256Hex c.plainSecret)))) w := by
  refine free_getClient (fun e w' hw' => ?_) fun existing w' hid hw' => ?_
  · cases e <;> exact .ret (Or.inl ⟨_, rfl, hw'⟩)
  refine free_randBytes fun bytes m => ?_
  cases bytes with
  | none => exact .ret (Or.inl ⟨_, rfl, hw'⟩)
  | some bytes =>
    refine free_rewrite (by simp) (fun e w'' hw'' => .ret (Or.inl ⟨_, rfl, hw''.trans hw'⟩))
      fun updated now w'' hw'' => ?_
    refine free_logEvent fun w₃ hw₃ => .ret (Or.inr ⟨_, now, rfl, ?_⟩)
    rw [hw₃, hw'', hid]
    exact congrArg (fun t => List.map _ (Table.rows t)) hw'

/-- `DeleteClient` fails and changes nothing, or it clears the flag. -/
theorem deleteClient_clients (id : UUID) : (deleteClient id).Ensures backend Free (fun r w' =>
      (∃ e, r = .error e ∧ w'.db.clients = w.db.clients) ∨
      ∃ now, r = .ok () ∧ w'.db.clients.rows = w.db.clients.rows.map
        (Query.clientRow now (.deleteClient id))) w := by
  refine free_getClient (fun e w' hw' => ?_) fun existing w' hid hw' => ?_
  · cases e <;> exact .ret (Or.inl ⟨_, rfl, hw'⟩)
  refine free_rewrite (by simp) (fun e w'' hw'' => .ret (Or.inl ⟨_, rfl, hw''.trans hw'⟩))
    fun _ now w'' hw'' => .ret (Or.inr ⟨now, rfl, ?_⟩)
  rw [hw'']
  exact congrArg (fun t => List.map _ (Table.rows t)) hw'

/-- The bootstrap changes nothing, or it inserts an active client with the secret of the configuration. -/
theorem bootstrapDefaultClient_clients (cfg : BootstrapClientConfig) :
    (bootstrapDefaultClient env cfg).Ensures backend Free (fun _ w' =>
      w'.db.clients = w.db.clients ∨ ∃ row, w.db.clients.insert row = some w'.db.clients ∧
        Registration.Of env.auth.lib row ⟨true, cfg.defaultClientSecret⟩) w := by
  unfold bootstrapDefaultClient
  split
  · exact .ret (Or.inl rfl)
  split
  · exact .ret (Or.inl rfl)
  split
  · exact .ret (Or.inl rfl)
  refine free_sql rfl fun count w₁ hw₁ => ?_
  cases count with
  | error e => exact .ret (Or.inl hw₁)
  | ok count =>
    dsimp only
    split
    · exact .ret (Or.inl hw₁)
    unfold createDefaultClient
    split
    · exact .ret (Or.inl hw₁)
    refine free_sql rfl fun adminUser w₂ hw₂ => ?_
    cases adminUser with
    | error e => exact .ret (Or.inl (hw₂.trans hw₁))
    | ok adminUser =>
      refine free_createClient (fun e w₃ hw₃ => .ret (Or.inl ((hw₃.trans hw₂).trans hw₁)))
        fun now fresh w₃ hins => free_sql rfl fun _ w₄ hw₄ => .ret ?_
      rw [hw₂.trans hw₁, ← hw₄] at hins
      exact Or.inr ⟨_, hins, rfl, rfl⟩

end Operations

/-! ### The registry is kept -/

section Kept

variable {env : AdminEnv} {w : World} {R : Registry}

/-- The client that the bootstrap inserted is registered. -/
theorem Recorded.bootstrap {lib : Lib} {t t' : Table Client} (h : Recorded lib t.rows R) {c : Client}
    {secret : String} (hins : t.insert c = some t') (hc : Registration.Of lib c ⟨true, secret⟩) :
    Recorded lib t'.rows (fun id => if Inserted t t' id then some ⟨true, secret⟩ else R id) := by
  have heq : (fun id => if Inserted t t' id then some ⟨true, secret⟩ else R id) =
      Function.update R c.id (some ⟨true, secret⟩) := by
    funext id
    obtain ⟨hrows, hfresh⟩ := Table.insert_eq_some hins
    have hafter : Refers t' (fun a => a.id == id) = (Refers t (fun a => a.id == id) || c.id == id) := by
      simp [Refers, hrows]
    by_cases hid : id = c.id
    · subst hid
      have hbefore : Refers t (fun a => a.id == c.id) = false := by
        refine List.any_eq_false.mpr fun a ha heq => ?_
        have hclash := hfresh a ha
        simp [Keyed.clash, Keyed.key, beq_iff_eq.mp heq] at hclash
      simp [Inserted, hafter, hbefore]
    · simp [Inserted, hafter, hid, Ne.symm hid]
  rw [heq]
  exact h.insert hins hc

/-- **One operation.** -/
theorem recorded_step (op : ClientOperation) (h : Recorded env.auth.lib w.db.clients.rows R) :
    (op.call env).Ensures backend Free (fun r w' =>
      Recorded env.auth.lib w'.db.clients.rows (R.record w.db.clients w'.db.clients op r)) w := by
  cases op with
  | create dto adminUserID =>
    refine .map ((createClient_clients env w dto adminUserID).mono fun r w' hr => ?_)
    rcases hr with ⟨e, rfl, hw'⟩ | ⟨c, row, rfl, hid, hins, hof⟩
    · rw [hw']
      exact h
    · show Recorded _ _ (Function.update R c.id _)
      rw [hid]
      exact h.insert hins hof
  | update id dto =>
    refine .map ((updateClient_clients env w id dto).mono fun r w' hr => ?_)
    show Recorded _ _ R
    rcases hr with hw' | ⟨p, now, hw'⟩
    · rw [hw']
      exact h
    · rw [hw']
      refine h.congr (fun c => ?_) fun c r hof => ?_
      · simp only [Query.clientRow]
        split <;> rfl
      · simp only [Query.clientRow]
        split <;> exact hof
  | regenerate id =>
    refine .map ((regenerateSecret_clients env w id).mono fun r w' hr => ?_)
    rcases hr with ⟨e, rfl, hw'⟩ | ⟨c, now, rfl, hw'⟩
    · rw [hw']
      exact h
    · rw [hw']
      refine h.map id (f := fun r => { r with secret := c.plainSecret }) (fun a => ?_) (fun a r hne hof => ?_)
        fun a r heq hof => ?_
      · simp only [Query.clientRow]
        split <;> rfl
      · simp only [Query.clientRow, beq_iff_eq, if_neg hne]
        exact hof
      · simp only [Query.clientRow, beq_iff_eq, if_pos heq]
        exact ⟨hof.1, rfl⟩
  | delete id =>
    refine .map ((deleteClient_clients w id).mono fun r w' hr => ?_)
    rcases hr with ⟨e, rfl, hw'⟩ | ⟨now, rfl, hw'⟩
    · rw [hw']
      exact h
    · rw [hw']
      refine h.map id (f := fun r => { r with active := false }) (fun a => ?_) (fun a r hne hof => ?_)
        fun a r heq hof => ?_
      · simp only [Query.clientRow]
        split <;> rfl
      · simp only [Query.clientRow, beq_iff_eq, if_neg hne]
        exact hof
      · simp only [Query.clientRow, beq_iff_eq, if_pos heq]
        exact ⟨rfl, hof.2⟩
  | bootstrap cfg =>
    refine .map ((bootstrapDefaultClient_clients env w cfg).mono fun r w' hr => ?_)
    show Recorded _ _ fun id => if Inserted w.db.clients w'.db.clients id then _ else R id
    rcases hr with hw' | ⟨row, hins, hof⟩
    · simp only [hw', Inserted, Bool.and_not_self, Bool.false_eq_true, if_false]
      exact h
    · exact h.bootstrap hins hof

/-- **A sequence of operations.** -/
theorem recorded_foldl (h : Recorded env.auth.lib w.db.clients.rows R)
    (ops : List (ClientOperation × (ℕ → Draw))) :
    Recorded env.auth.lib (ops.foldl (registerStep env) (w, R)).1.db.clients.rows
      (ops.foldl (registerStep env) (w, R)).2 := by
  induction ops generalizing w R with
  | nil => exact h
  | cons op ops ih => exact ih ((recorded_step op.1 h).run op.2)

end Kept

/-! ### The three paths -/

/-- The call was refused by the authentication of the client. -/
def refused {α : Type} : Except AuthError α → Bool
  | .error e => e.clientRefused
  | .ok _ => false

/-- On every path the call ends without such a refusal. -/
abbrev NeverRefuses {α : Type} (p : Call (Except AuthError α)) : Prop :=
  ∀ log, p.Obeys ⟨fun _ _ => True, fun r _ => refused r = false⟩ log

section Paths

variable {env : Env} {w : World} {ds : ℕ → Draw} {α : Type} {cid : UUID}

theorem NeverRefuses.run {p : Call (Except AuthError α)} (h : NeverRefuses p) (ds : ℕ → Draw)
    (w : World) : refused (p.run backend ds w).1 = false := by
  obtain ⟨_, hr, _⟩ := (h []).run (B := backend) (J := fun _ _ => True) (fun _ _ _ _ _ _ _ => trivial)
    (Prog.along_of_forall (fun _ _ _ => trivial) p ds w) trivial
  exact hr

/-- **The block in a run.** Where `GetClient` is executed, the call is refused exactly if the credentials are
not accepted. -/
theorem refused_clientAuth {clientID : UUID} {clientSecret : String}
    {k : Except DBError Client → Call (Except AuthError α)} {rest : Client → Call (Except AuthError α)}
    (hnone : k (.error .noRows) = .ret (.error .clientNotFound))
    (hsome : ∀ c : Client, k (.ok c) = if c.isActive ≠ some true then .ret (.error .clientInactive)
      else if c.clientSecretHash ≠ env.lib.sha256Hex clientSecret then .ret (.error .invalidClientSecret)
      else rest c)
    (hrest : ∀ c, NeverRefuses (rest c)) (hf : (ds 0).fault = false) :
    refused ((Call.sql (.getClient clientID) k).run backend ds w).1 =
      !env.authenticates w.db.clients clientID clientSecret := by
  rw [run_sql _ _ hf]
  simp only [Query.exec]
  cases hsel : w.db.clients.select (fun c => c.id == clientID) with
  | none => simp [selectOne, hsel, hnone, Env.authenticates, refused, AuthError.clientRefused]
  | some c =>
    rw [authenticates_of_select env hsel, selectOne_eq_ok hsel, hsome c]
    split
    · next hactive => simp [hactive, refused, AuthError.clientRefused]
    · next hactive =>
      split
      · next hsecret => simp [hsecret, refused, AuthError.clientRefused]
      · next hsecret => simp [(hrest c).run, not_not.mp hactive, not_not.mp hsecret]

namespace NeverRefuses

variable {α β : Type}

theorem ret {r : Except AuthError α} (h : refused r = false) : NeverRefuses (.ret r) := fun _ => h

theorem call {q : Request} {k : q.Reply → Call (Except AuthError α)} (h : ∀ r, NeverRefuses (k r)) :
    NeverRefuses (.call (S := effects) q k) :=
  fun _ => ⟨trivial, fun r => h r _⟩

theorem bind {p : Call β} {f : β → Call (Except AuthError α)} (h : ∀ b, NeverRefuses (f b)) :
    NeverRefuses (p.bind f) :=
  fun log => (Prog.Obeys.anything p log).andThen (fun _ _ => id) fun b log _ => h b log

theorem logEvent {entry : AuditEntry} {k : Call (Except AuthError α)} (h : NeverRefuses k) :
    NeverRefuses (env.logEvent entry k) := by
  unfold Env.logEvent
  split
  · exact call fun _ => h
  · exact h

end NeverRefuses

/-- Once the code is to be redeemed, the client is not refused any more. -/
theorem redeemCode_neverRefuses (client : Client) (clientID : UUID) (authCode : AuthorizationCode) :
    NeverRefuses (redeemCode env client clientID authCode) := by
  refine .call fun marked => ?_
  cases marked with
  | error e => exact .ret rfl
  | ok _ =>
    refine .call fun user => ?_
    cases user with
    | error e => exact .ret rfl
    | ok user =>
      refine .bind fun token => ?_
      cases token with
      | error e => exact .ret rfl
      | ok tokenString =>
        refine .call fun now => .call fun accessToken => ?_
        cases accessToken with
        | error e => exact .ret rfl
        | ok accessToken =>
          dsimp only
          split
          · refine .call fun bytes => ?_
            cases bytes with
            | none => exact .ret rfl
            | some bytes =>
              refine .call fun familyID => .call fun now => .call fun r => ?_
              cases r with
              | error e => exact .ret rfl
              | ok _ => exact .logEvent (.ret rfl)
          · exact .ret rfl

theorem rotateRecord_neverRefuses (cid : UUID) (record : RefreshToken) :
    NeverRefuses (rotateRecord env cid record) := by
  refine .call fun marked => ?_
  cases marked with
  | error e => exact .ret rfl
  | ok _ =>
    refine .call fun user => ?_
    cases user with
    | error e => exact .ret rfl
    | ok user =>
      refine .bind fun token => ?_
      cases token with
      | error e => exact .ret rfl
      | ok tokenString =>
        refine .call fun now => .call fun accessToken => ?_
        cases accessToken with
        | error e => exact .ret rfl
        | ok accessToken =>
          refine .call fun bytes => ?_
          cases bytes with
          | none => exact .ret rfl
          | some bytes =>
            refine .call fun now => .call fun r => ?_
            cases r with
            | error e => exact .ret rfl
            | ok _ => exact .logEvent (.ret rfl)

/-- The authentication of the client in `ExchangeCodeForToken`. -/
theorem refused_exchangeCodeForToken (code : String) (clientID : UUID) (clientSecret redirectURI : String)
    (hf : (ds 0).fault = false) :
    refused ((exchangeCodeForToken env code clientID clientSecret redirectURI).run backend ds w).1 =
      !env.authenticates w.db.clients clientID clientSecret := by
  refine refused_clientAuth rfl (fun _ => rfl) (fun c => .call fun authCode => ?_) hf
  cases authCode with
  | error e => cases e <;> exact .ret rfl
  | ok authCode =>
    dsimp only
    split
    · exact .ret rfl
    split
    · exact .ret rfl
    refine .call fun now => ?_
    split
    · next e hcheck =>
      rcases checkCode_error hcheck with rfl | rfl | rfl <;> exact .ret rfl
    · exact redeemCode_neverRefuses c clientID authCode

/-- The authentication of the client in `RotateRefreshToken`. -/
theorem refused_rotateRefreshToken (rawToken : String) {clientID : String}
    (hparse : env.lib.uuidParse clientID = some cid) (clientSecret : String) (hf : (ds 0).fault = false) :
    refused ((rotateRefreshToken env rawToken clientID clientSecret).run backend ds w).1 =
      !env.authenticates w.db.clients cid clientSecret := by
  unfold rotateRefreshToken
  rw [hparse]
  refine refused_clientAuth rfl (fun _ => rfl) (fun c => .call fun record => ?_) hf
  cases record with
  | error e => cases e <;> exact .ret rfl
  | ok record =>
    dsimp only
    unfold checkRecord
    split
    · exact .call fun _ => .logEvent (.logEvent (.ret rfl))
    refine .call fun now => ?_
    split
    · exact .ret rfl
    split
    · exact .ret rfl
    exact rotateRecord_neverRefuses cid record

/-- The authentication of the client in `ValidateClientCredentials`. -/
theorem run_validateClientCredentials {clientID : String}
    (hparse : env.lib.uuidParse clientID = some cid) (clientSecret : String) (hf : (ds 0).fault = false) :
    ((validateClientCredentials env clientID clientSecret).run backend ds w).1 =
      .ok (env.authenticates w.db.clients cid clientSecret) := by
  unfold validateClientCredentials
  rw [hparse]
  dsimp only
  rw [run_sql _ _ hf]
  simp only [Query.exec]
  cases hsel : w.db.clients.select (fun c => c.id == cid) with
  | none => simp [selectOne, hsel, Env.authenticates]
  | some c =>
    rw [authenticates_of_select env hsel, selectOne_eq_ok hsel]
    dsimp only
    split
    · next hactive => simp [hactive]
    · next hactive => simp [not_not.mp hactive]; rfl

/-- The table and the registry accept the same credentials, where no other secret has the digest of the
registered one. -/
theorem authenticates_eq_accepts {clients : Table Client} {R : Registry} (h : Recorded env.lib clients.rows R)
    {id : UUID} {secret : String}
    (hsha : ∀ r, R id = some r → env.lib.sha256Hex secret = env.lib.sha256Hex r.secret → secret = r.secret) :
    env.authenticates clients id secret = R.accepts id secret := by
  cases hsel : clients.select (fun c => c.id == id) with
  | none =>
    have hR : R id = none := by
      cases hR : R id with
      | none => rfl
      | some r =>
        obtain ⟨c, hc, hid⟩ := h.row_of id r hR
        exact absurd (beq_iff_eq.mpr hid) (Table.select_eq_none.mp hsel c hc)
    simp [Env.authenticates, hsel, Registry.accepts, hR]
  | some c =>
    obtain ⟨r, hr, hactive, hsecret⟩ := h.of_row c (Table.mem_of_select hsel)
    have hid : c.id = id := by simpa using Table.prop_of_select hsel
    rw [hid] at hr
    have hbeq : (c.clientSecretHash == env.lib.sha256Hex secret) = (r.secret == secret) := by
      rw [Bool.eq_iff_iff, beq_iff_eq, beq_iff_eq, hsecret]
      exact ⟨fun heq => (hsha r hr heq.symm).symm, fun heq => by rw [heq]⟩
    rw [authenticates_of_select env hsel, Registry.accepts, hr, Option.any_some, hactive, hbeq]

end Paths

/-- **Exactly the latest secret authenticates.** After any sequence of operations on clients, with any faults,
the three paths accept the same credentials: those of a client that is active, with the secret that was last
returned or configured for it. -/
theorem latest_secret_authenticates (env : AdminEnv) (w : World) (R : Registry)
    (h : Recorded env.auth.lib w.db.clients.rows R) (ops : List (ClientOperation × (ℕ → Draw)))
    (clientID : String) (cid : UUID) (hparse : env.auth.lib.uuidParse clientID = some cid) (secret : String)
    (hsha : ∀ r, (ops.foldl (registerStep env) (w, R)).2 cid = some r →
      env.auth.lib.sha256Hex secret = env.auth.lib.sha256Hex r.secret → secret = r.secret)
    (ds : ℕ → Draw) (hf : (ds 0).fault = false) (code redirectURI rawToken : String) :
    let s := ops.foldl (registerStep env) (w, R)
    ((validateClientCredentials env.auth clientID secret).run backend ds s.1).1 =
        .ok (s.2.accepts cid secret) ∧
      refused ((exchangeCodeForToken env.auth code cid secret redirectURI).run backend ds s.1).1 =
        !s.2.accepts cid secret ∧
      refused ((rotateRefreshToken env.auth rawToken clientID secret).run backend ds s.1).1 =
        !s.2.accepts cid secret := by
  intro s
  have hauth : env.auth.authenticates s.1.db.clients cid secret = s.2.accepts cid secret :=
    authenticates_eq_accepts (recorded_foldl h ops) hsha
  rw [← hauth]
  exact ⟨run_validateClientCredentials hparse secret hf,
    refused_exchangeCodeForToken code cid secret redirectURI hf,
    refused_rotateRefreshToken rawToken hparse secret hf⟩

section Examples

open Deployment

/-- `ann` creates a client and has its secret regenerated. -/
def secretOps : List (ClientOperation × (ℕ → Draw)) :=
  [(.create ⟨"app", none, ["https://app.example/callback"], ["authorization_code"], true⟩ 2,
      fun _ => draw 7 1),
    (.regenerate 1, fun _ => draw 9 21)]

/-- The second secret is accepted. -/
theorem latest_secret_authenticates_app :
    let s := secretOps.foldl (registerStep admin) (⟨0, userStore⟩, fun _ => none)
    s.2 1 = some ⟨true, "CQoLDA0ODxAREhMUFRYXGBkaGxwdHh8gISIjJCUmJyg"⟩ ∧
      ((validateClientCredentials env appText "CQoLDA0ODxAREhMUFRYXGBkaGxwdHh8gISIjJCUmJyg").run backend
        (fun _ => draw 7 22) s.1).1 = .ok true := by
  intro s
  have hs : s.2 1 = some ⟨true, "CQoLDA0ODxAREhMUFRYXGBkaGxwdHh8gISIjJCUmJyg"⟩ := by decide +kernel
  refine ⟨hs, ?_⟩
  have hempty : Recorded admin.auth.lib userStore.clients.rows fun _ => none :=
    ⟨fun c hc => absurd hc List.not_mem_nil, fun _ _ hr => absurd hr (Option.some_ne_none _).symm⟩
  have hboth := latest_secret_authenticates admin ⟨0, userStore⟩ (fun _ => none) hempty secretOps appText 1 rfl
    "CQoLDA0ODxAREhMUFRYXGBkaGxwdHh8gISIjJCUmJyg" (fun r hr _ => ?_) (fun _ => draw 7 22) rfl "" "" ""
  · have haccepts : s.2.accepts 1 "CQoLDA0ODxAREhMUFRYXGBkaGxwdHh8gISIjJCUmJyg" = true := by
      rw [Registry.accepts, hs]
      rfl
    rw [← haccepts]
    exact hboth.1
  · obtain rfl := Option.some.inj (hs.symm.trans hr)
    rfl

end Examples

end GoauthServer
