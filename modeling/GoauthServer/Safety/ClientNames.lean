import GoauthServer.Repository.Evolution
import GoauthServer.Service.Deployment
import GoauthServer.Transport.Administration

/-!
# Names of clients

`CreateClient` and `UpdateClient` turn a unique violation of the database into `ErrDuplicateClientName`. But the
only unique column of `clients` is its primary key, so that a name is never refused: the error is returned
where the database draws an identifier that is taken, and by an update not at all
(`createClient_duplicate`, `updateClient_ne_duplicate`).

So the names stay distinct exactly as long as nobody asks for one that is taken (`names_distinct_iff`).
-/

namespace GoauthServer

open Interact Relational

/-- No two rows have the same name. -/
def Store.DistinctNames (s : Store) : Prop :=
  ∀ a ∈ s.clients.rows, ∀ b ∈ s.clients.rows, a.name = b.name → a.id = b.id

/-- **The condition.** A statement that writes a name writes one that no other row has. -/
def Request.TakesFreeName (d : Draw) (w : World) : Request → Prop
  | .sql (.createClient p) =>
    (respond (.sql (.createClient p)) d w).1.isOk = true → ∀ c ∈ w.db.clients.rows, c.name ≠ p.name
  | .sql (.updateClient p) =>
    (respond (.sql (.updateClient p)) d w).1.isOk = true →
      ∀ c ∈ w.db.clients.rows, c.id ≠ p.id → c.name ≠ p.name
  | _ => True

instance (d : Draw) (w : World) (q : Request) : Decidable (q.TakesFreeName d w) := by
  unfold Request.TakesFreeName
  split <;> infer_instance

/-! ### One statement -/

section Step

variable {d : Draw} {w : World} {p : UpdateClientParams}

theorem takesFreeName_createClient {p : CreateClientParams} :
    (Request.sql (.createClient p)).TakesFreeName d w ↔
      ((respond (.sql (.createClient p)) d w).1.isOk = true → ∀ c ∈ w.db.clients.rows, c.name ≠ p.name) :=
  Iff.rfl

theorem takesFreeName_updateClient : (Request.sql (.updateClient p)).TakesFreeName d w ↔
      ((respond (.sql (.updateClient p)) d w).1.isOk = true →
        ∀ c ∈ w.db.clients.rows, c.id ≠ p.id → c.name ≠ p.name) :=
  Iff.rfl

/-- Rows that are rewritten without a change of their names. -/
theorem distinctNames_map {s : Store} {rows : List Client} {f : Client → Client}
    (hrows : rows = s.clients.rows.map f) (hid : ∀ c, (f c).id = c.id) (hname : ∀ c, (f c).name = c.name) :
    (∀ a ∈ rows, ∀ b ∈ rows, a.name = b.name → a.id = b.id) ↔ s.DistinctNames := by
  subst hrows
  constructor
  · intro h a ha b hb hab
    have hfab := h (f a) (List.mem_map_of_mem ha) (f b) (List.mem_map_of_mem hb)
      (by rw [hname, hname]; exact hab)
    rwa [hid, hid] at hfab
  · intro h a' ha' b' hb' hab
    obtain ⟨a, ha, rfl⟩ := List.mem_map.mp ha'
    obtain ⟨b, hb, rfl⟩ := List.mem_map.mp hb'
    rw [hname, hname] at hab
    rw [hid, hid]
    exact h a ha b hb hab

/-- `CreateClient` keeps the names distinct if it fails, or if its name is new. -/
theorem distinctNames_createClient (p : CreateClientParams) (h : w.db.DistinctNames) :
    (respond (.sql (.createClient p)) d w).2.db.DistinctNames ↔
      (Request.sql (.createClient p)).TakesFreeName d w := by
  rcases respond_createClient d w p with ⟨e, herr, hdb⟩ | ⟨t, hins, hok, hclients⟩
  · rw [takesFreeName_createClient, hdb, herr]
    exact iff_of_true h fun hno => absurd hno Bool.false_ne_true
  · rw [takesFreeName_createClient, hok]
    unfold Store.DistinctNames
    rw [hclients]
    obtain ⟨hrows, hfresh⟩ := Table.insert_eq_some hins
    have hne : ∀ a ∈ w.db.clients.rows, a.id ≠ d.uuid := by
      intro a ha hid
      have hclash := hfresh a ha
      simp [Keyed.clash, Keyed.key, hid, CreateClientParams.row] at hclash
    constructor
    · intro hall _ c hc hname
      -- the new row and `c` would have one name
      exact hne c hc (hall c ((Table.mem_of_insert hins).mpr (Or.inl hc)) _
        ((Table.mem_of_insert hins).mpr (Or.inr rfl)) hname)
    · intro hfree a ha b hb hab
      have hnew := hfree rfl
      rcases (Table.mem_of_insert hins).mp ha with ha | rfl
      · rcases (Table.mem_of_insert hins).mp hb with hb | rfl
        · exact h a ha b hb hab
        · exact absurd hab (hnew a ha)
      · rcases (Table.mem_of_insert hins).mp hb with hb | rfl
        · exact absurd hab.symm (hnew b hb)
        · rfl

/-- An update that succeeds found its row, and rewrote it. -/
theorem respond_updateClient {row : Client} (h : (respond (.sql (.updateClient p)) d w).1 = .ok row) :
    (∃ c ∈ w.db.clients.rows, c.id = p.id) ∧ (respond (.sql (.updateClient p)) d w).2.db.clients.rows =
        w.db.clients.rows.map ((Query.updateClient p).clientRow (w.wait d.wait).now) := by
  obtain ⟨hf, hexec, hdb⟩ := respond_sql_ok h
  constructor
  · cases hsel : w.db.clients.select fun c => c.id == p.id with
    | none =>
      simp only [Query.exec, updateOne, Table.returning, hsel, Option.map_none] at hexec
      cases hexec
    | some c =>
      have hid := Table.prop_of_select hsel
      exact ⟨c, Table.mem_of_select hsel, beq_iff_eq.mp hid⟩
  · rw [hdb]
    rfl

/-- `UpdateClient` keeps the names distinct if it fails, or if no other row has its name. -/
theorem distinctNames_updateClient (p : UpdateClientParams) (h : w.db.DistinctNames) :
    (respond (.sql (.updateClient p)) d w).2.db.DistinctNames ↔
      (Request.sql (.updateClient p)).TakesFreeName d w := by
  rw [takesFreeName_updateClient]
  cases hres : (respond (.sql (.updateClient p)) d w).1 with
  | error e =>
    unfold Store.DistinctNames
    rw [respond_clients_error hres]
    exact iff_of_true h fun hno => absurd hno Bool.false_ne_true
  | ok row =>
    obtain ⟨⟨c₀, hc₀, hid₀⟩, hrows⟩ := respond_updateClient hres
    unfold Store.DistinctNames
    rw [hrows]
    constructor
    · -- another row with the name, and the row that is written, would have one identifier
      intro hall _ c hc hne hname
      have hid := hall _ (List.mem_map_of_mem hc) _ (List.mem_map_of_mem hc₀)
        (by simp [Query.clientRow, hne, hid₀, hname])
      simp only [Query.clientRow, beq_iff_eq, if_neg hne, if_pos hid₀] at hid
      exact hne (hid.trans hid₀)
    · intro hfree a' ha' b' hb' hab
      obtain ⟨a, ha, rfl⟩ := List.mem_map.mp ha'
      obtain ⟨b, hb, rfl⟩ := List.mem_map.mp hb'
      have hother := hfree rfl
      simp only [Query.clientRow, beq_iff_eq] at hab ⊢
      split at hab
      · next haid =>
        split at hab
        · next hbid => exact (if_pos haid ▸ if_pos hbid ▸ haid.trans hbid.symm)
        · next hbid => exact absurd hab.symm (hother b hb hbid)
      · next haid =>
        split at hab
        · exact absurd hab (hother a ha haid)
        · next hbid => 
          rw [if_neg haid, if_neg hbid]
          exact h a ha b hb hab

/-- The other statements do not write names. -/
theorem distinctNames_other {q : Request} (hcreate : ∀ p, q ≠ .sql (.createClient p))
    (hupdate : ∀ p, q ≠ .sql (.updateClient p)) :
    (respond q d w).2.db.DistinctNames ↔ w.db.DistinctNames := by
  refine distinctNames_map (respond_clients_map hcreate d w) (fun c => q.clientRow_id d w c) fun c => ?_
  unfold Request.clientRow
  split
  · next q =>
    split
    · rfl
    · unfold Query.clientRow
      split
      · next p => exact absurd rfl (hupdate p)
      · split <;> rfl
      · split <;> rfl
      · rfl
  · rfl

/-- **One statement.** It keeps the names distinct exactly if it takes no name that another row has. -/
theorem distinctNames_respond_iff (q : Request) (h : w.db.DistinctNames) :
    (respond q d w).2.db.DistinctNames ↔ q.TakesFreeName d w := by
  by_cases hcreate : ∃ p, q = .sql (.createClient p)
  · obtain ⟨p, rfl⟩ := hcreate
    exact distinctNames_createClient p h
  by_cases hupdate : ∃ p, q = .sql (.updateClient p)
  · obtain ⟨p, rfl⟩ := hupdate
    exact distinctNames_updateClient p h
  · have hcreate : ∀ p, q ≠ .sql (.createClient p) := fun p hq => hcreate ⟨p, hq⟩
    have hupdate : ∀ p, q ≠ .sql (.updateClient p) := fun p hq => hupdate ⟨p, hq⟩
    rw [distinctNames_other hcreate hupdate]
    refine iff_of_true h ?_
    unfold Request.TakesFreeName
    split
    · exact absurd rfl (hcreate _)
    · exact absurd rfl (hupdate _)
    · trivial

end Step

/-! ### Runs -/

section Run

variable {ι : Type} [DecidableEq ι]

/-- The next statement of the call takes no name that another row has. -/
def TakesFreeName (c : Pool backend ι ClientReply) (i : ι) (d : Draw) : Prop :=
  ∀ q ∈ c.next? i, Request.TakesFreeName d c.world q

instance (c : Pool backend ι ClientReply) (i : ι) (d : Draw) : Decidable (TakesFreeName c i d) :=
  match h : c.next? i with
  | none => .isTrue fun q hq => by rw [h] at hq; cases hq
  | some q => decidable_of_iff (Request.TakesFreeName d c.world q) (by
      unfold TakesFreeName
      rw [h]
      exact ⟨fun hq q' hq' => Option.some.inj hq' ▸ hq, fun hall => hall q rfl⟩)

theorem distinctNames_step_iff (c : Pool backend ι ClientReply) (i : ι) (d : Draw)
    (h : c.world.db.DistinctNames) : (c.step i d).world.db.DistinctNames ↔ TakesFreeName c i d := by
  unfold TakesFreeName
  cases hi : (c.threads i).prog with
  | ret a =>
    rw [Pool.step_of_ret hi]
    refine iff_of_true h fun q hq => ?_
    unfold Pool.next? at hq
    rw [hi] at hq
    cases hq
  | call q k =>
    rw [step_world hi, distinctNames_respond_iff q h, Pool.next?_of_call hi]
    exact ⟨fun hq q' hq' => Option.some.inj hq' ▸ hq, fun hall => hall q rfl⟩

/-- **When the names of clients stay distinct.** In every interleaving of operations on clients that starts
from distinct names, the names are distinct after each step exactly if no step takes a name that another row
has. -/
theorem names_distinct_iff (env : AdminEnv) (ops : ι → ClientOperation) (w : World) (ls : List (ι × Draw))
    (h : w.db.DistinctNames) :
    Pool.Along (fun (c : Pool backend ι ClientReply) i d => (c.step i d).world.db.DistinctNames)
        (clientOperations env ops w) ls ↔
      Pool.Along TakesFreeName (clientOperations env ops w) ls := by
  generalize hc : clientOperations env ops w = c
  have hw : c.world.db.DistinctNames := by rw [← hc]; exact h
  clear hc
  induction ls generalizing c with
  | nil => exact Iff.rfl
  | cons l ls ih =>
    have hstep := distinctNames_step_iff c l.1 l.2 hw
    constructor
    · rintro ⟨hnow, hrest⟩
      exact ⟨hstep.mp hnow, (ih _ hnow).mp hrest⟩
    · rintro ⟨hfree, hrest⟩
      have hnow := hstep.mpr hfree
      exact ⟨hnow, (ih _ hnow).mpr hrest⟩

end Run

/-! ### The error for a duplicate -/

section Examples

open Deployment

/-- A client that is to be called `name`. -/
def newClientNamed (name : String) : CreateClientDTO where
  name := name
  description := none
  redirectURIs := ["https://app.example/callback"]
  grantTypes := ["authorization_code"]
  isActive := true

/-- A client is created, and `app` is renamed. -/
def twoNames (name : String) : Bool → ClientOperation
  | true => .create (newClientNamed name) 2
  | false => .update 1
    { name := name, description := none, redirectURIs := ["https://app.example/callback"]
      grantTypes := ["authorization_code"] }

theorem names_distinct_app :
    Pool.Along (fun (c : Pool backend Bool ClientReply) i d => (c.step i d).world.db.DistinctNames)
      (clientOperations admin (twoNames "web") ⟨0, store⟩) (turns 2 true) :=
  (names_distinct_iff admin (twoNames "web") ⟨0, store⟩ (turns 2 true)
    (by unfold Store.DistinctNames; decide +kernel)).mpr (by decide +kernel)

/-- The names of the clients after a run, and whether a call succeeded. -/
def namesAfter (name : String) (ls : List (Bool × Draw)) : List (UUID × String) :=
  ((clientOperations admin (twoNames name) ⟨0, store⟩).run ls).world.db.clients.rows.map fun c => (c.id, c.name)

def succeedsAfter (name : String) (ls : List (Bool × Draw)) (i : Bool) : Bool :=
  match ((clientOperations admin (twoNames name) ⟨0, store⟩).run ls).result? i with
  | some (.created r) => r.isOk
  | some (.updated r) => r.isOk
  | _ => false

/-- **Two clients of one name.** A client is created under the name of `app`; and `app` is renamed to the name
of a client that was created before. Both requests succeed. -/
theorem two_clients_one_name :
    namesAfter "app" (turns 2 true) = [(1, "app"), (20, "app")] ∧
      succeedsAfter "app" (turns 2 true) true = true ∧
      namesAfter "web" (turns 2 true ++ turns 1 false) = [(1, "web"), (20, "web")] ∧
      succeedsAfter "web" (turns 2 true ++ turns 1 false) false = true := by
  decide +kernel

end Examples

end GoauthServer
