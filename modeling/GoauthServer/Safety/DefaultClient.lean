import GoauthServer.Repository.Evolution
import GoauthServer.Service.Deployment
import GoauthServer.Transport.Administration
import Mathlib.Data.Fintype.Basic
import Mathlib.Data.Set.Subsingleton

/-!
# The default client

Every start of the server executes `BootstrapDefaultClient`, which counts the active clients, looks up the
administrator and inserts the default client, in three statements. Nothing in the schema backs the count: two
replicas that start together both insert a client, and so does a restart after the last client was deleted,
since the rows of deleted clients are not counted (`two_default_clients`).

The right to insert is the count of zero. A start-up holds it from then on (`HoldsCount`), unless it ends
without an insert. If every start-up counts while no other one is between its count and its end, and while
some client is active once the default client was created (`CountsAlone`), at most one start-up ever holds it
(`default_client_once`).
-/

namespace GoauthServer

open Interact Relational

/-! ### The text of the bootstrap -/

/-- The count found no active client. -/
def Event.countsNone : Event effects → Bool
  | ⟨.sql (.countClients _), .ok n⟩ => n == 0
  | _ => false

/-- The statement was `CreateClient`. -/
def Event.createsClient : Event effects → Bool
  | ⟨.sql (.createClient _), _⟩ => true
  | _ => false

/-- The client that was inserted. -/
def Event.newClient? : Event effects → Option Client
  | ⟨.sql (.createClient _), .ok row⟩ => some row
  | _ => none

def countedNone (log : Log effects) : Bool := log.any Event.countsNone

/-- The clients that a call has inserted. -/
def newClients (log : Log effects) : List Client := log.filterMap Event.newClient?

/-- The bootstrap counts the active clients, and inserts once, after a count of zero. -/
def startUpRequest : Request → Log effects → Prop
  | .sql (.countClients isActive), _ => isActive = true
  | .sql (.createClient _), log => countedNone log = true ∧ log.any Event.createsClient = false
  | _, _ => True

def startUpProtocol {α : Type} : Protocol effects α := ⟨startUpRequest, fun _ _ => True⟩

theorem bootstrapDefaultClient_obeys (env : AdminEnv) (cfg : BootstrapClientConfig) :
    (bootstrapDefaultClient env cfg).Obeys startUpProtocol [] := by
  unfold bootstrapDefaultClient
  split
  · trivial
  split
  · trivial
  split
  · trivial
  refine ⟨rfl, ?_⟩
  rintro (e | count)
  · trivial
  dsimp only
  split
  · trivial
  next hcount =>
  unfold createDefaultClient
  split
  · trivial
  refine ⟨trivial, ?_⟩
  rintro (e | adminUser)
  · trivial
  have hnone : count = 0 := Nat.le_zero.mp (not_lt.mp hcount)
  refine ⟨⟨by simp [countedNone, Event.countsNone, hnone], rfl⟩, ?_⟩
  rintro (e | newClient)
  · trivial
  exact ⟨trivial, fun _ => trivial⟩

/-- The operation is a start of the server. -/
def ClientOperation.isBootstrap : ClientOperation → Bool
  | .bootstrap _ => true
  | _ => false

/-- Only the bootstraps matter. -/
def ClientOperation.protocol : ClientOperation → Protocol effects ClientReply
  | .bootstrap _ => startUpProtocol
  | _ => ⟨fun _ _ => True, fun _ _ => True⟩

theorem ClientOperation.call_obeys (env : AdminEnv) (op : ClientOperation) :
    (op.call env).Obeys op.protocol [] := by
  cases op with
  | bootstrap cfg => exact (bootstrapDefaultClient_obeys env cfg).map (fun _ _ => id) fun _ _ => id
  | _ => exact .anything _ _

theorem ClientOperation.request_of_isBootstrap {op : ClientOperation} (h : op.isBootstrap = true)
    {q : Request} {log : Log effects} (hq : op.protocol.request q log) : startUpRequest q log := by
  cases op with
  | bootstrap cfg => exact hq
  | _ => cases h

/-! ### Events -/

section Events

variable {q : Request} {r : q.Reply} {log : Log effects} {d : Draw} {w : World}

theorem createClient_of_newClient? {row : Client} (h : Event.newClient? ⟨q, r⟩ = some row) :
    ∃ p, q = .sql (.createClient p) := by
  unfold Event.newClient? at h
  split at h
  · next heq => exact ⟨_, (Sigma.mk.inj heq).1⟩
  · cases h

theorem newClients_eq_nil (h : log.any Event.createsClient = false) : newClients log = [] := by
  refine List.filterMap_eq_nil_iff.mpr fun e he => ?_
  cases hnew : Event.newClient? e with
  | none => rfl
  | some row =>
    obtain ⟨q, r⟩ := e
    obtain ⟨p, rfl⟩ := createClient_of_newClient? hnew
    exact absurd rfl (List.any_eq_false.mp h _ he)

/-- What an event adds to the clients a call has inserted. -/
theorem newClients_cons (e : Event effects) :
    newClients (e :: log) = (Event.newClient? e).toList ++ newClients log := by
  unfold newClients
  cases h : Event.newClient? e with
  | none => rw [List.filterMap_cons_none h]; rfl
  | some row => rw [List.filterMap_cons_some h]; rfl

/-- A count of zero means that no client is active. -/
theorem not_active_of_countsNone (hq : startUpRequest q log)
    (h : Event.countsNone ⟨q, (respond q d w).1⟩ = true) :
    (∃ isActive, q = .sql (.countClients isActive)) ∧ d.fault = false ∧
      ∀ a ∈ w.db.clients.rows, a.isActive ≠ some true := by
  cases q with
  | sql q =>
    cases q with
    | countClients isActive =>
      obtain rfl : isActive = true := hq
      cases hf : d.fault with
      | true =>
        rw [respond_sql_fault _ hf] at h
        cases h
      | false =>
        rw [respond_sql _ hf] at h
        have hcount : w.db.clients.rows.countP (fun c => c.isActive == some true) = 0 := beq_iff_eq.mp h
        refine ⟨⟨true, rfl⟩, rfl, fun a ha hactive => ?_⟩
        exact List.countP_eq_zero.mp hcount a ha (beq_iff_eq.mpr hactive)
    | _ => cases h
  | _ => cases h

end Events

/-! ### The right to insert -/

section Race

variable {ι : Type}

/-- The call has counted no active client, and is still in progress or has inserted one. -/
def HoldsCount (c : Pool backend ι ClientReply) (i : ι) : Prop :=
  countedNone (c.threads i).log = true ∧ (c.result? i = none ∨ newClients (c.threads i).log ≠ [])

def Request.countsClients : Request → Bool
  | .sql (.countClients _) => true
  | _ => false

/-- **The condition.** Where a start-up executes its count, no other one has counted no client and is still in
progress, and if one has inserted the default client, some client is active. -/
def CountsAlone (ops : ι → ClientOperation) (c : Pool backend ι ClientReply) (i : ι) (d : Draw) : Prop :=
  (ops i).isBootstrap = true → (c.next? i).any Request.countsClients = true → d.fault = false →
    ∀ j, (ops j).isBootstrap = true →
      ¬ (countedNone (c.threads j).log = true ∧ c.result? j = none) ∧
      (newClients (c.threads j).log ≠ [] → ∃ a ∈ c.world.db.clients.rows, a.isActive = some true)

/-- All rows of the list are one row. -/
def OneRow (rows : List Client) : Prop := ∀ row ∈ rows, ∀ row' ∈ rows, row = row'

instance (ops : ι → ClientOperation) [Fintype ι] (c : Pool backend ι ClientReply) (i : ι) (d : Draw) :
    Decidable (CountsAlone ops c i d) :=
  inferInstanceAs (Decidable ((ops i).isBootstrap = true → (c.next? i).any Request.countsClients = true →
    d.fault = false → ∀ j, (ops j).isBootstrap = true →
      ¬ (countedNone (c.threads j).log = true ∧ c.result? j = none) ∧
      (newClients (c.threads j).log ≠ [] → ∃ a ∈ c.world.db.clients.rows, a.isActive = some true)))

/-- **The invariant.** -/
structure SoleCount (ops : ι → ClientOperation) (c : Pool backend ι ClientReply) : Prop where
  /-- An insert comes after a count of zero, and no call makes a second one. -/
  once : ∀ i, (ops i).isBootstrap = true → (newClients (c.threads i).log ≠ [] →
    countedNone (c.threads i).log = true) ∧ OneRow (newClients (c.threads i).log)
  sole : ∀ i j, (ops i).isBootstrap = true → (ops j).isBootstrap = true → HoldsCount c i → HoldsCount c j →
    i = j

variable {ops : ι → ClientOperation} {c : Pool backend ι ClientReply} {i : ι} {d : Draw} {q : Request}
  {k : q.Reply → Call ClientReply}

/-- One request and the clients that its call has inserted. -/
theorem once_cons {log : Log effects} (r : q.Reply) (hq : startUpRequest q log)
    (h : (newClients log ≠ [] → countedNone log = true) ∧ OneRow (newClients log)) :
    (newClients (⟨q, r⟩ :: log) ≠ [] → countedNone (⟨q, r⟩ :: log) = true) ∧
      OneRow (newClients (⟨q, r⟩ :: log)) := by
  have hgrow : countedNone log = true → countedNone (⟨q, r⟩ :: log) = true := by
    intro hcount
    simp only [countedNone, List.any_cons, Bool.or_eq_true] at hcount ⊢
    exact Or.inr hcount
  rw [newClients_cons]
  cases hnew : Event.newClient? ⟨q, r⟩ with
  | none => exact ⟨fun hne => hgrow (h.1 hne), h.2⟩
  | some row =>
    obtain ⟨p, rfl⟩ := createClient_of_newClient? hnew
    rw [newClients_eq_nil hq.2]
    refine ⟨fun _ => hgrow hq.1, fun a ha b hb => ?_⟩
    rw [List.mem_singleton.mp ha, List.mem_singleton.mp hb]

variable [DecidableEq ι]

/-- A call that does not move holds what it held. -/
theorem holdsCount_of_ne {j : ι} (hj : j ≠ i) (h : HoldsCount (c.step i d) j) : HoldsCount c j := by
  unfold HoldsCount Pool.result? at h ⊢
  rwa [Pool.step_threads_of_ne hj] at h

/-- The call that moves held the right before, or it has just counted alone. -/
theorem holdsCount_self (hi : (c.threads i).prog = .call q k) (hboot : (ops i).isBootstrap = true)
    (hq : startUpRequest q (c.threads i).log) (hC : CountsAlone ops c i d) (h : HoldsCount (c.step i d) i) :
    HoldsCount c i ∨ ∀ j, (ops j).isBootstrap = true → ¬ HoldsCount c j := by
  have hprogress : c.result? i = none := by
    unfold Pool.result?
    rw [hi]
    rfl
  obtain ⟨hcount, _⟩ := h
  rw [step_log hi, countedNone, List.any_cons, Bool.or_eq_true] at hcount
  rcases hcount with hcount | hcount
  · right
    obtain ⟨⟨isActive, rfl⟩, hf, hnone⟩ := not_active_of_countsNone hq hcount
    have halone := hC hboot (by rw [Pool.next?_of_call hi]; rfl) hf
    rintro j hj ⟨hcounted, hres | hins⟩
    · exact (halone j hj).1 ⟨hcounted, hres⟩
    · obtain ⟨a, ha, hactive⟩ := (halone j hj).2 hins
      exact hnone a ha hactive
  · exact Or.inl ⟨hcount, Or.inl hprogress⟩

theorem SoleCount.step (hi : (c.threads i).prog = .call q k) (hq : (ops i).protocol.request q (c.threads i).log)
    (hC : CountsAlone ops c i d) (h : SoleCount ops c) : SoleCount ops (c.step i d) := by
  constructor
  · refine Pool.forall_log_step (J := fun i log _ => (ops i).isBootstrap = true →
      (newClients log ≠ [] → countedNone log = true) ∧ OneRow (newClients log)) hi ?_ (fun _ _ h => h)
      h.once
    intro honce hboot
    exact once_cons _ ((ops i).request_of_isBootstrap hboot hq) (honce hboot)
  · intro a b ha hb hholdsa hholdsb
    by_cases hai : a = i
    · by_cases hbi : b = i
      · rw [hai, hbi]
      · subst hai
        have hb' := holdsCount_of_ne hbi hholdsb
        rcases holdsCount_self hi ha ((ops a).request_of_isBootstrap ha hq) hC hholdsa with ha' | hnone
        · exact h.sole a b ha hb ha' hb'
        · exact absurd hb' (hnone b hb)
    · have ha' := holdsCount_of_ne hai hholdsa
      by_cases hbi : b = i
      · subst hbi
        rcases holdsCount_self hi hb ((ops b).request_of_isBootstrap hb hq) hC hholdsb with hb' | hnone
        · exact h.sole a b ha hb ha' hb'
        · exact absurd ha' (hnone a ha)
      · exact h.sole a b ha hb ha' (holdsCount_of_ne hbi hholdsb)

/-- The rows that the start-ups have inserted. -/
def defaultClients (ops : ι → ClientOperation) (c : Pool backend ι ClientReply) : Set Client :=
  { row | ∃ i, (ops i).isBootstrap = true ∧ row ∈ newClients (c.threads i).log }

/-- **The default client is created once**, in every run in which each start-up counts alone. -/
theorem default_client_once (env : AdminEnv) (ops : ι → ClientOperation) (w : World)
    (ls : List (ι × Draw))
    (hC : Pool.Along (CountsAlone ops) (clientOperations env ops w) ls) :
    (defaultClients ops ((clientOperations env ops w).run ls)).Subsingleton := by
  have hstart : SoleCount ops (clientOperations env ops w) :=
    ⟨fun i _ => ⟨fun hne => absurd rfl hne, fun _ h => absurd h List.not_mem_nil⟩, fun i j _ _ hi => absurd hi.1 Bool.false_ne_true⟩
  have hinv := Pool.invariant (fun c i d q k hi hq hC h => SoleCount.step hi hq hC h)
    (fun i => (ops i).call_obeys env) hstart hC
  rintro row ⟨i, hi, hrow⟩ row' ⟨j, hj, hrow'⟩
  have hholds : ∀ i, (ops i).isBootstrap = true →
      newClients (((clientOperations env ops w).run ls).threads i).log ≠ [] →
      HoldsCount ((clientOperations env ops w).run ls) i :=
    fun i hi hne => ⟨(hinv.once i hi).1 hne, Or.inr hne⟩
  obtain rfl := hinv.sole i j hi hj (hholds i hi (List.ne_nil_of_mem hrow))
    (hholds j hj (List.ne_nil_of_mem hrow'))
  exact (hinv.once i hi).2 row hrow row' hrow'

end Race

section Examples

open Deployment

def defaultConfig : BootstrapClientConfig where
  allowDefaultClient := false
  defaultClientID := "default"
  defaultClientSecret := "s3cret"
  defaultClientName := "default"
  defaultClientRedirectURIs := "https://app.example/callback"
  defaultClientConfidential := true
  defaultAdminEmail := "ann@example.com"

/-- The row of the default client. -/
def defaultRow (id : UUID) : Client where
  id := id
  name := "default"
  description := none
  clientSecretHash := "1ec1c26b50d5d3c58d9583181af8076655fe00756bf7285940ba3670f99fcba0"
  redirectUris := ["https://app.example/callback"]
  grantTypes := ["authorization_code"]
  isActive := some true
  createdBy := 2
  createdAt := 0
  updatedAt := 0
  isConfidential := true
  allowRefreshTokens := false

/-- Two replicas start. -/
def startUps : Bool → ClientOperation := fun _ => .bootstrap defaultConfig

/-- The second replica starts after the first. -/
theorem default_client_once_ann :
    (defaultClients startUps ((clientOperations admin startUps ⟨0, userStore⟩).run
      (turns 4 true ++ turns 4 false))).Subsingleton :=
  default_client_once admin startUps ⟨0, userStore⟩ _ (by decide +kernel)

/-- The server starts, the client is deleted, and the server starts again. -/
def restart : Fin 3 → ClientOperation
  | 0 => .bootstrap defaultConfig
  | 1 => .delete 20
  | 2 => .bootstrap defaultConfig

def restartTurns : List (Fin 3 × Draw) :=
  List.replicate 4 (0, draw 7 20) ++ List.replicate 2 (1, draw 7 20) ++ List.replicate 4 (2, draw 9 21)

/-- **Two default clients**, of two replicas that both count before either inserts, and of a restart after
the first one was deleted. -/
theorem two_default_clients :
    ¬ (defaultClients startUps ((clientOperations admin startUps ⟨0, userStore⟩).run
        (turns 1 true ++ turns 1 false ++ turns 3 true ++ turns 3 false))).Subsingleton ∧
      ¬ (defaultClients restart ((clientOperations admin restart ⟨0, userStore⟩).run
        restartTurns)).Subsingleton := by
  have hne : defaultRow 20 ≠ defaultRow 21 := by decide
  constructor
  · intro hsub
    exact hne (hsub ⟨true, rfl, by decide +kernel⟩ ⟨false, rfl, by decide +kernel⟩)
  · intro hsub
    exact hne (hsub ⟨0, rfl, by decide +kernel⟩ ⟨2, rfl, by decide +kernel⟩)

end Examples

end GoauthServer
