import GoauthServer.Repository.Evolution
import GoauthServer.Safety.RedirectUris
import GoauthServer.Spec.Clients

/-!
# A deleted client stays dead

Deletion clears `is_active`, and no row of `clients` is ever removed. So a deleted client is a row that stays,
under an identifier that cannot be drawn again, and no statement sets the flag of a row that is there
(`Store.Dead.respond`). Whoever looks the client up from then on does not find it active, and every operation
that acts for a client does nothing before it has (`Spec/Clients.lean`).
-/

namespace GoauthServer

open Interact Relational

/-! ### The row of a deleted client -/

/-- The client exists. -/
def Store.HasClient (s : Store) (id : UUID) : Prop := ∃ c ∈ s.clients.rows, c.id = id

/-- The client exists and is not active. -/
def Store.Dead (s : Store) (id : UUID) : Prop := ∃ c ∈ s.clients.rows, c.id = id ∧ c.isActive ≠ some true

section Rows

variable {id : UUID} {w : World} {d : Draw} {q : Request}

theorem Store.HasClient.respond (h : w.db.HasClient id) (q : Request) (d : Draw) :
    (respond q d w).2.db.HasClient id := by
  obtain ⟨c, hc, hid⟩ := h
  rcases respond_clients q d w with ⟨p, rfl, _, _, hins⟩ | hrows
  · exact ⟨c, (Table.mem_of_insert hins).mpr (Or.inl hc), hid⟩
  · refine ⟨q.clientRow d w c, ?_, by rw [Request.clientRow_id, hid]⟩
    rw [hrows]
    exact List.mem_map_of_mem hc

/-- No statement brings a client back. -/
theorem Store.Dead.respond (h : w.db.Dead id) (q : Request) (d : Draw) : (respond q d w).2.db.Dead id := by
  obtain ⟨c, hc, hid, hdead⟩ := h
  rcases respond_clients q d w with ⟨p, rfl, _, _, hins⟩ | hrows
  · exact ⟨c, (Table.mem_of_insert hins).mpr (Or.inl hc), hid, hdead⟩
  · refine ⟨q.clientRow d w c, ?_, by rw [Request.clientRow_id, hid], ?_⟩
    · rw [hrows]
      exact List.mem_map_of_mem hc
    · rcases Request.clientRow_isActive q d w c with hsame | hfalse
      · rw [hsame]
        exact hdead
      · rw [hfalse]
        simp

theorem Store.Dead.isActive {s : Store} (h : s.Dead id) {c : Client} (hc : c ∈ s.clients.rows)
    (hid : c.id = id) : c.isActive ≠ some true := by
  obtain ⟨c', hc', hid', hdead⟩ := h
  have heq : c = c' := Table.eq_of_clash hc hc' (by simp [Keyed.clash, Keyed.key, hid, hid'])
  rwa [heq]

/-- `DeleteClient` of a client that exists. -/
theorem dead_of_deleteClient (h : w.db.HasClient id) (hf : d.fault = false) :
    (respond (.sql (.deleteClient id)) d w).2.db.Dead id := by
  obtain ⟨c, hc, hid⟩ := h
  have hrows := respond_clients_map (q := .sql (.deleteClient id)) (by simp) d w
  refine ⟨(Request.sql (.deleteClient id)).clientRow d w c, ?_, by rw [Request.clientRow_id, hid], ?_⟩
  · rw [hrows]
    exact List.mem_map_of_mem hc
  · rw [Request.clientRow_sql hf]
    simp [Query.clientRow, hid]

/-- A client that was found exists. -/
theorem hasClient_of_getClient {c : Client} (h : (respond (.sql (.getClient id)) d w).1 = .ok c) :
    c ∈ w.db.clients.rows ∧ c.id = id := by
  obtain ⟨hc, hid⟩ := selectOne_ok (respond_sql_ok h).2.1
  exact ⟨hc, beq_iff_eq.mp hid⟩

/-- A dead client is not found active. -/
theorem not_foundActive_cons {log : Log effects} (hdead : w.db.Dead id) (h : ¬ FoundActive id log) :
    ¬ FoundActive id (⟨q, (respond q d w).1⟩ :: log) := by
  rintro ⟨c, hc, hactive⟩
  rcases List.mem_cons.mp hc with heq | hc
  · obtain ⟨rfl, hreply⟩ := Sigma.mk.inj heq
    obtain ⟨hmem, hid⟩ := hasClient_of_getClient (eq_of_heq hreply).symm
    exact hdead.isActive hmem hid hactive
  · exact h ⟨c, hc, hactive⟩

end Rows

/-! ### Runs -/

section Runs

variable {ι : Type} [DecidableEq ι] {env : WebEnv} {ops : ι → ServerOperation} {i : ι}
  {c : Pool backend ι ServerReply} {q : Request} {id : UUID}

/-- A client that some call has found exists. -/
def LookedUpExist (c : Pool backend ι ServerReply) : Prop :=
  ∀ i id, (∃ a : Client, (⟨.sql (.getClient id), .ok a⟩ : Event effects) ∈ (c.threads i).log) →
    c.world.db.HasClient id

theorem LookedUpExist.step {d : Draw}
    {k : q.Reply → Call ServerReply} (hi : (c.threads i).prog = .call q k) (h : LookedUpExist c) :
    LookedUpExist (c.step i d) := by
  refine Pool.forall_log_step (B := backend) (J := fun (_ : ι) (log : Log effects) (w : World) => ∀ id : UUID,
    (∃ a : Client, (⟨.sql (.getClient id), .ok a⟩ : Event effects) ∈ log) → w.db.HasClient id) hi ?_ ?_ h
  · rintro hself id ⟨a, ha⟩
    rcases List.mem_cons.mp ha with heq | ha
    · obtain ⟨rfl, hreply⟩ := Sigma.mk.inj heq
      obtain ⟨hmem, hid⟩ := hasClient_of_getClient (eq_of_heq hreply).symm
      exact Store.HasClient.respond ⟨a, hmem, hid⟩ _ d
    · exact (hself id ⟨a, ha⟩).respond q d
  · exact fun j _ hj id hfound => (hj id hfound).respond q d

omit [DecidableEq ι] in
/-- A statement that deletes a client is executed where the client exists. -/
theorem hasClient_of_request (h : LookedUpExist c)
    (hq : ((ops i).protocol env).request (.sql (.deleteClient id)) (c.threads i).log) :
    c.world.db.HasClient id := by
  unfold ServerOperation.protocol at hq
  split at hq
  · exact hq.1.elim
  · exact h i id hq

/-- What a request of an operation rests on, as far as the client `id` is concerned. -/
def Rests (env : WebEnv) (ops : ι → ServerOperation) (id : UUID) (i : ι) (q : Request) (log : Log effects) :
    Prop :=
  (q.newFor? = some id → FoundActive id log) ∧
    ((ops i).client? env = some id → q.Opening id ∨ FoundActive id log)

omit [DecidableEq ι] in
theorem rests_of_request {log : Log effects}
    (h : ((ops i).protocol env).request q log) : Rests env ops id i q log := by
  unfold ServerOperation.protocol at h
  split at h
  · next id' hid' =>
    obtain ⟨hfor, hopen⟩ := h
    refine ⟨fun hnew => ?_, fun hid => ?_⟩
    · -- what is stored is for the client for which the operation acts
      have heq : id = id' := by
        cases q with
        | sql q =>
          cases q with
          | deleteClient => cases hnew
          | _ => exact hfor id hnew
        | _ => exact hfor id hnew
      subst heq
      refine hopen.resolve_left fun hopening => ?_
      cases q with
      | sql q => cases q <;> first | exact hopening.elim | cases hnew
      | _ => cases hnew
    · obtain rfl := Option.some.inj (hid'.symm.trans hid)
      exact hopen
  · next hnone =>
    refine ⟨fun hnew => ?_, fun hid => ?_⟩
    · cases q with
      | sql q =>
        cases q with
        | deleteClient => cases hnew
        | _ => exact absurd (hnew.symm.trans h) (by simp)
      | _ => exact absurd (hnew.symm.trans h) (by simp)
    · rw [hnone] at hid
      cases hid

/-- **A deleted client stays dead.** Once `DeleteClient` has been executed, the client is never active again.
A call that has not found it active by then stores no code and no token for it; and if it acts for this client,
it makes no request but the look-up, and hands out nothing. -/
theorem deleted_client_stays_dead (env : WebEnv) (admin : AdminEnv) (ops : ι → ServerOperation) (w : World)
    (id : UUID) (before after : List (ι × Draw)) (j : ι) (d : Draw)
    (hnext : ((serverOperations env admin ops w).run before).next? j = some (.sql (.deleteClient id)))
    (hf : d.fault = false) :
    let c₁ := ((serverOperations env admin ops w).run before).step j d
    let c₂ := c₁.run after
    (∀ a ∈ c₂.world.db.clients.rows, a.id = id → a.isActive ≠ some true) ∧
      ∀ i, ¬ FoundActive id (c₁.threads i).log →
        (∀ e ∈ (c₂.threads i).log, e.1.newFor? ≠ some id) ∧
        ((ops i).client? env = some id →
          (∀ e ∈ (c₂.threads i).log, e.1.Opening id) ∧ ∀ r, c₂.result? i = some r → r.hands = false) := by
  intro c₁ c₂
  have hobeys : Pool.Obeys (fun i => (ops i).protocol env) (serverOperations env admin ops w) :=
    fun i => (ops i).obeys env admin
  obtain ⟨k, hk⟩ := Pool.call_of_next? hnext
  -- the client exists when it is deleted
  have hexist : LookedUpExist ((serverOperations env admin ops w).run before) :=
    Pool.invariant_of_step (fun c i d q k hi _ h => h.step hi) hobeys
      (fun i id ⟨a, ha⟩ => absurd ha List.not_mem_nil) before
  have hdead : c₁.world.db.Dead id := by
    have hworld : c₁.world = (respond (.sql (.deleteClient id)) d _).2 := step_world hk
    rw [hworld]
    exact dead_of_deleteClient (hasClient_of_request hexist ((hobeys.run before).request hk)) hf
  -- and from then on nobody finds it active
  have hlater : c₂.world.db.Dead id ∧
      ∀ i, ¬ FoundActive id (c₁.threads i).log → ¬ FoundActive id (c₂.threads i).log := by
    refine Pool.invariant_of_step (I := fun c : Pool backend ι ServerReply => c.world.db.Dead id ∧
      ∀ i, ¬ FoundActive id (c₁.threads i).log → ¬ FoundActive id (c.threads i).log) ?_
      ((hobeys.run before).step j d) ⟨hdead, fun _ h => h⟩ after
    rintro c i d q k hi _ ⟨hdead, hfound⟩
    refine ⟨by rw [step_world hi]; exact hdead.respond q d, ?_⟩
    refine Pool.forall_log_step (J := fun i log _ => ¬ FoundActive id (c₁.threads i).log → ¬ FoundActive id log)
      hi (fun hself hi => not_foundActive_cons hdead (hself hi)) (fun _ _ h => h) hfound
  have hrun : c₂ = (serverOperations env admin ops w).run (before ++ (j, d) :: after) :=
    (Pool.run_append (B := backend) _ before ((j, d) :: after)).symm
  have hevents : ∀ i, ∀ e ∈ (c₂.threads i).log, Rests env ops id i e.1 (c₂.threads i).log := by
    rw [hrun]
    refine Pool.forall_events (fun i q log h => rests_of_request h) (fun i q e log h => ?_) hobeys
      (fun i e he => absurd he List.not_mem_nil) _
    exact ⟨fun hnew => (h.1 hnew).cons e, fun hid => (h.2 hid).imp_right fun hfound => hfound.cons e⟩
  refine ⟨fun a ha hid => hlater.1.isActive ha hid, fun i hi => ?_⟩
  have hnone := hlater.2 i hi
  refine ⟨fun e he hnew => hnone ((hevents i e he).1 hnew), fun hclient => ⟨fun e he => ?_, fun r hr => ?_⟩⟩
  · exact ((hevents i e he).2 hclient).resolve_right hnone
  · have hresult : ((ops i).protocol env).result r (c₂.threads i).log := by
      rw [hrun] at hr ⊢
      exact (hobeys.run _).result hr
    unfold ServerOperation.protocol at hresult
    rw [hclient] at hresult
    exact Bool.eq_false_iff.mpr fun hands => hnone (hresult hands)

end Runs

section Examples

open Deployment

/-- `app` is deleted, and presents its code. -/
def deletion : Bool → ServerOperation
  | true => .client (.delete 1)
  | false => .auth (.exchangeCodeForToken "auth-code" 1 "s3cret" "https://app.example/callback")

/-- The world after the deletion, and after three steps of the exchange. -/
def afterDeletion : Pool backend Bool ServerReply :=
  ((serverOperations webEnv appAdmin deletion ⟨0, store⟩).run (turns 1 true)).step true (draw 7 20)

/-- The exchange looks the client up, and that is all. -/
theorem deleted_client_stays_dead_app :
    ((afterDeletion.run (turns 3 false)).threads false).log ≠ [] ∧
      ∀ e ∈ ((afterDeletion.run (turns 3 false)).threads false).log, e.1.Opening 1 := by
  have hnone : ¬ FoundActive 1 (afterDeletion.threads false).log := by
    rintro ⟨c, hc, _⟩
    cases hc
  refine ⟨List.cons_ne_nil _ _, ?_⟩
  exact (((deleted_client_stays_dead webEnv appAdmin deletion ⟨0, store⟩ 1 (turns 1 true) (turns 3 false) true
    (draw 7 20) rfl rfl).2 false hnone).2 rfl).1

end Examples

end GoauthServer
