import GoauthServer.Repository.Evolution
import GoauthServer.Service.Deployment

/-!
# Edits of a client

`UpdateClientDTO` has four fields. The statement `UpdateClient` writes two columns more, `is_confidential` and
`allow_refresh_tokens`, and the service passes a parameter record in which they have their zero values. So an
edit is an edit of the four columns exactly where both flags were already cleared, and a client that was
allowed refresh tokens loses them with its first edit (`update_keeps_columns_iff`).
-/

namespace GoauthServer

open Interact Relational

/-- `c'` is `c`, but for the columns that an edit is about. -/
def Client.EditOf (c c' : Client) : Prop :=
  c' =
    { c with
      name := c'.name, description := c'.description, redirectUris := c'.redirectUris
      grantTypes := c'.grantTypes, updatedAt := c'.updatedAt }

instance (c c' : Client) : Decidable (c.EditOf c') := inferInstanceAs (Decidable (_ = _))

theorem Client.EditOf.refl (c : Client) : c.EditOf c := rfl

/-- What `UpdateClient` makes of the row it addresses. -/
def UpdateClientDTO.row (dto : UpdateClientDTO) (now : Time) (c : Client) : Client :=
  { c with
    name := dto.name, description := dto.description, redirectUris := dto.redirectURIs
    grantTypes := dto.grantTypes, isConfidential := false, allowRefreshTokens := false, updatedAt := now }

/-- The row that is written is an edit where there was nothing to clear. -/
theorem UpdateClientDTO.editOf_row_iff (dto : UpdateClientDTO) (now : Time) (c : Client) :
    c.EditOf (dto.row now c) ↔ c.isConfidential = false ∧ c.allowRefreshTokens = false := by
  constructor
  · intro h
    have hconf := congrArg Client.isConfidential h
    have hallow := congrArg Client.allowRefreshTokens h
    exact ⟨hconf.symm, hallow.symm⟩
  · rintro ⟨hconf, hallow⟩
    cases c
    cases hconf
    cases hallow
    rfl

/-! ### One edit -/

section Update

variable {env : AdminEnv} {id : UUID} {dto : UpdateClientDTO} {ds : ℕ → Draw} {w : World}

/-- **An edit that succeeds** rewrites the rows with its identifier, of which there is one. -/
theorem updateClient_ok {m : ClientModel} (h : ((updateClient env id dto).run backend ds w).1 = .ok m) :
    (∃ c ∈ w.db.clients.rows, c.id = id) ∧
      ∃ now, ((updateClient env id dto).run backend ds w).2.db.clients.rows =
        w.db.clients.rows.map fun c => if c.id == id then dto.row now c else c := by
  unfold updateClient at h ⊢
  split at h
  · cases h
  · cases hf : (ds 0).fault with
    | true =>
      rw [run_sql_fault _ _ hf] at h
      cases h
    | false =>
      rw [run_sql _ _ hf] at h ⊢
      cases hrow : ((Query.updateClient _).exec (w.wait (ds 0).wait).now (ds 0).uuid w.db).1 with
      | error e =>
        rw [hrow] at h
        cases e <;> cases h
      | ok row =>
        have hupd : (updateOne w.db.clients (fun c => c.id == id) (dto.row (w.wait (ds 0).wait).now)
          fun _ => rfl).1 = .ok row := hrow
        obtain ⟨c, hc, hid, _⟩ := updateOne_ok hupd
        exact ⟨⟨c, hc, beq_iff_eq.mp hid⟩, (w.wait (ds 0).wait).now, rfl⟩

/-- An edit that fails leaves the clients as they were. -/
theorem updateClient_error {e : AdminError} (h : ((updateClient env id dto).run backend ds w).1 = .error e) :
    ((updateClient env id dto).run backend ds w).2.db.clients = w.db.clients := by
  unfold updateClient at h ⊢
  split at h
  · rfl
  · rw [Prog.run_call] at h ⊢
    cases hrow : (respond (.sql (.updateClient _)) (ds 0) w).1 with
    | error e' =>
      have hsame := respond_clients_error hrow
      cases e' <;> exact hsame
    | ok row =>
      rw [hrow] at h
      cases h

end Update

/-! ### Runs of edits -/

/-- An edit, with the draws of its call. -/
structure Edit where
  id : UUID
  dto : UpdateClientDTO
  draws : ℕ → Draw

def Edit.run (env : AdminEnv) (e : Edit) (w : World) : Except AdminError ClientModel × World :=
  (updateClient env e.id e.dto).run backend e.draws w

/-- Edits, one after the other. -/
def runEdits (env : AdminEnv) : List Edit → World → World
  | [], w => w
  | e :: es, w => runEdits env es (e.run env w).2

/-- Some edit of the client `id` succeeds. -/
def Edited (env : AdminEnv) (id : UUID) : List Edit → World → Prop
  | [], _ => False
  | e :: es, w => (e.id = id ∧ (e.run env w).1.isOk = true) ∨ Edited env id es (e.run env w).2

/-- The client `id` is allowed refresh tokens. -/
def Store.AllowsRefresh (s : Store) (id : UUID) : Prop :=
  ∃ c ∈ s.clients.rows, c.id = id ∧ c.allowRefreshTokens = true

/-- One edit and the client `id`: it loses refresh tokens if the edit is of this client and succeeds. -/
theorem allowsRefresh_edit_iff (env : AdminEnv) (e : Edit) (w : World) (id : UUID) :
    (e.run env w).2.db.AllowsRefresh id ↔
      w.db.AllowsRefresh id ∧ ¬ (e.id = id ∧ (e.run env w).1.isOk = true) := by
  cases hres : (e.run env w).1 with
  | error err =>
    have hsame : (e.run env w).2.db.clients = w.db.clients := updateClient_error hres
    unfold Store.AllowsRefresh
    rw [hsame]
    exact (and_iff_left fun h => Bool.false_ne_true h.2).symm
  | ok m =>
    obtain ⟨_, now, hrows⟩ := updateClient_ok hres
    have hrows : (e.run env w).2.db.clients.rows =
      w.db.clients.rows.map fun c => if c.id == e.id then e.dto.row now c else c := hrows
    unfold Store.AllowsRefresh
    rw [hrows]
    constructor
    · rintro ⟨c', hc', hid, hallow⟩
      obtain ⟨c, hc, rfl⟩ := List.mem_map.mp hc'
      by_cases heq : c.id = e.id
      · -- the row that was written is not allowed refresh tokens
        rw [if_pos (beq_iff_eq.mpr heq)] at hallow
        cases hallow
      · rw [if_neg fun h => heq (beq_iff_eq.mp h)] at hid hallow
        exact ⟨⟨c, hc, hid, hallow⟩, fun h => heq (hid.trans h.1.symm)⟩
    · rintro ⟨⟨c, hc, hid, hallow⟩, hother⟩
      have heq : ¬ (c.id == e.id) = true :=
        fun h => hother ⟨(beq_iff_eq.mp h).symm.trans hid, rfl⟩
      refine ⟨c, List.mem_map.mpr ⟨c, hc, if_neg heq⟩, hid, hallow⟩

/-- A client keeps its refresh tokens as long as it is not edited. -/
theorem allowsRefresh_runEdits_iff (env : AdminEnv) (es : List Edit) (w : World) (id : UUID) :
    (runEdits env es w).db.AllowsRefresh id ↔ w.db.AllowsRefresh id ∧ ¬ Edited env id es w := by
  induction es generalizing w with
  | nil => exact (and_iff_left not_false).symm
  | cons e es ih =>
    calc (runEdits env (e :: es) w).db.AllowsRefresh id
        ↔ (e.run env w).2.db.AllowsRefresh id ∧ ¬ Edited env id es (e.run env w).2 := ih _
      _ ↔ (w.db.AllowsRefresh id ∧ ¬ (e.id = id ∧ (e.run env w).1.isOk = true)) ∧
            ¬ Edited env id es (e.run env w).2 := by rw [allowsRefresh_edit_iff]
      _ ↔ w.db.AllowsRefresh id ∧ ¬ Edited env id (e :: es) w := by
        rw [and_assoc, ← not_or]
        rfl

/-- **When an edit changes only what was edited.** A call that succeeds is an edit of every row exactly if both
flags of the client it addresses were cleared before. And in a run of edits, a client that is allowed refresh
tokens still is at the end exactly if none of the edits that succeed is of this client. -/
theorem update_keeps_columns_iff (env : AdminEnv) :
    (∀ id dto ds w m, ((updateClient env id dto).run backend ds w).1 = .ok m →
      (List.Forall₂ Client.EditOf w.db.clients.rows
          ((updateClient env id dto).run backend ds w).2.db.clients.rows ↔
        ∀ c ∈ w.db.clients.rows, c.id = id → c.isConfidential = false ∧ c.allowRefreshTokens = false)) ∧
    ∀ es w id, w.db.AllowsRefresh id →
      ((runEdits env es w).db.AllowsRefresh id ↔ ¬ Edited env id es w) := by
  constructor
  · intro id dto ds w m hok
    obtain ⟨_, now, hrows⟩ := updateClient_ok hok
    rw [hrows, List.forall₂_map_right_iff, List.forall₂_same]
    refine forall₂_congr fun c _ => ?_
    by_cases hid : c.id = id
    · rw [if_pos (beq_iff_eq.mpr hid), dto.editOf_row_iff]
      exact ⟨fun h _ => h, fun h => h hid⟩
    · rw [if_neg fun h => hid (beq_iff_eq.mp h)]
      exact ⟨fun _ h => absurd h hid, fun _ => Client.EditOf.refl c⟩
  · intro es w id hallow
    rw [allowsRefresh_runEdits_iff]
    exact and_iff_right hallow

section Examples

open Deployment

/-- An edit that passes the validation. -/
def newName : UpdateClientDTO where
  name := "renamed"
  description := none
  redirectURIs := ["https://app.example/callback"]
  grantTypes := ["authorization_code", "refresh_token"]

/-- `app` before it was given refresh tokens. -/
def plainStore : Store :=
  { store with
    clients := ⟨[{ app with isConfidential := false, allowRefreshTokens := false }],
      List.pairwise_singleton _ _⟩ }

/-- A public client without refresh tokens is renamed, and `app` keeps its refresh tokens in the run without
edits. -/
theorem update_keeps_columns_app :
    List.Forall₂ Client.EditOf plainStore.clients.rows
        ((updateClient admin 1 newName).run backend (fun _ => draw 7 20) ⟨0, plainStore⟩).2.db.clients.rows ∧
      (runEdits admin [] ⟨0, store⟩).db.AllowsRefresh 1 := by
  obtain ⟨hone, hrun⟩ := update_keeps_columns_iff admin
  constructor
  · exact (hone 1 newName (fun _ => draw 7 20) ⟨0, plainStore⟩ (toClient (newName.row 0 app))
      (by decide +kernel)).mpr (by decide +kernel)
  · exact (hrun [] ⟨0, store⟩ 1 ⟨app, List.mem_singleton.mpr rfl, rfl, rfl⟩).mpr not_false

/-- **A renaming takes the refresh tokens away**: `app` is renamed, and is then neither confidential nor
allowed refresh tokens. -/
theorem renaming_clears_flags :
    ((updateClient admin 1 newName).run backend (fun _ => draw 7 20) ⟨0, store⟩).1.isOk = true ∧
      app.isConfidential = true ∧ app.allowRefreshTokens = true ∧
      (((updateClient admin 1 newName).run backend (fun _ => draw 7 20) ⟨0, store⟩).2.db.clients.rows.map
        fun c => (c.id, c.isConfidential, c.allowRefreshTokens)) = [(1, false, false)] := by
  decide +kernel

end Examples

end GoauthServer
