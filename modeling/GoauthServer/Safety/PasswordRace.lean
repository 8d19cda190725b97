import GoauthServer.Repository.Evolution
import GoauthServer.Service.Deployment
import GoauthServer.Service.Login
import GoauthServer.Spec.Log
import Mathlib.Data.Fintype.Basic

/-!
# Concurrent changes of a password

Any number of `ChangePassword` calls for one user. A call reads `force_password_change` at its start, and
writes the new hash and clears the flag in two statements later, so two calls that have both read the flag
both succeed, and the hash that stays is that of the call which wrote last (`both_changes_succeed`).

The flag is the right to change the password. It is exercised by `UpdatePasswordHash`: from then on the
call is about to clear the flag, or has cleared it. If every `UpdatePasswordHash` finds the flag set, and
no other call that has written its hash and is about to clear the flag (`WritesAlone`), there is never more
than one such call, and the hash in the table is its hash (`changes_once`).
-/

namespace GoauthServer

open Interact Relational

/-! ### The text of a call -/

/-- The hash that a call has written. -/
def Event.newHash? : Event effects → Option String
  | ⟨.sql (.updatePasswordHash _ hash), .ok _⟩ => hash
  | _ => none

/-- The call has cleared the flag. -/
def Event.clearsFlag : Event effects → Bool
  | ⟨.sql (.setForcePasswordChange _ _), .ok _⟩ => true
  | _ => false

/-- The hash that the call has written last. -/
def newHash (log : Log effects) : Option String := log.findSome? Event.newHash?

def flagCleared (log : Log effects) : Bool := log.any Event.clearsFlag

/-- The call has just written the hash, and not yet tried to clear the flag. -/
def midChange (log : Log effects) : Bool := (log.head?.bind Event.newHash?).isSome

/-- The requests of `ChangePassword`. -/
def changeRequest (env : Env) (userID : UUID) (newPassword : String) : Request → Log effects → Prop
  | .sql (.updatePasswordHash id hash), _ =>
    id = userID ∧ ∃ salt, hash = some (hashArgon2id env newPassword salt)
  | .sql (.setForcePasswordChange id flag), log => id = userID ∧ flag = false ∧ midChange log = true
  | .sql (.getUserByID _), _ | .randBytes _, _ | .sql (.revokeRefreshTokensByUser _ _), _
  | .sql (.createAuditLogEntry _), _ => True
  | _, _ => False

/-- A call that succeeds has cleared the flag. -/
def changeProtocol (env : Env) (userID : UUID) (newPassword : String) :
    Protocol effects (Except AuthError ChangePasswordResult) :=
  ⟨changeRequest env userID newPassword, fun r log => ∀ result, r = .ok result → flagCleared log = true⟩

section Protocol

variable {env : Env} {userID : UUID} {newPassword : String} {log : Log effects}

theorem changeProtocol_error (e : AuthError) :
    (changeProtocol env userID newPassword).result (.error e) log := by
  intro result h
  cases h

theorem storeNewPassword_change (user : User) (salt : Base64.Bytes) :
    (storeNewPassword env userID user (hashArgon2id env newPassword salt)).Obeys
      (changeProtocol env userID newPassword) log := by
  refine ⟨⟨rfl, salt, rfl⟩, ?_⟩
  rintro (e | _)
  · exact changeProtocol_error _
  refine ⟨⟨rfl, rfl, rfl⟩, ?_⟩
  rintro (e | _)
  · exact changeProtocol_error _
  refine ⟨trivial, fun _ => ?_⟩
  -- whether or not the events are logged, the flag was cleared
  have hlogged : ∀ r log', flagCleared log' = true →
      (changeProtocol env userID newPassword).result (.ok r) log' := fun _ _ h _ _ => h
  exact logEvent_obeys trivial (logEvent_obeys trivial (hlogged _ _ rfl) fun _ => hlogged _ _ rfl)
    fun _ => logEvent_obeys trivial (hlogged _ _ rfl) fun _ => hlogged _ _ rfl

theorem changePassword_change (env : Env) (userID : UUID) (newPassword : String) :
    (changePassword env userID newPassword).Obeys (changeProtocol env userID newPassword) [] := by
  refine ⟨trivial, ?_⟩
  rintro (e | user)
  · cases e <;> exact changeProtocol_error _
  dsimp only
  split
  · exact changeProtocol_error _
  split
  · exact changeProtocol_error _
  refine ⟨trivial, ?_⟩
  rintro (_ | salt)
  · exact changeProtocol_error _
  · exact storeNewPassword_change user salt

end Protocol

/-! ### The row of the user -/

/-- The password of the user has the hash `hash`. -/
def Store.HasHash (s : Store) (id : UUID) (hash : String) : Prop :=
  ∃ u ∈ s.users.rows, u.id = id ∧ u.passwordHash = some hash

section Row

variable {env : Env} {userID : UUID} {newPassword hash : String} {log : Log effects} {q : Request} {d : Draw}
  {w : World}

theorem respond_updatePasswordHash {u : User} {hash : Option String}
    (h : (respond (.sql (.updatePasswordHash userID hash)) d w).1 = .ok u) :
    ∃ v ∈ (respond (.sql (.updatePasswordHash userID hash)) d w).2.db.users.rows,
      v.id = userID ∧ v.passwordHash = hash := by
  obtain ⟨_, hexec, hdb⟩ := respond_sql_ok h
  rw [hdb]
  have hok : (updateUser w.db.users (w.wait d.wait).now userID (fun u => { u with passwordHash := hash })
      fun _ => rfl).1 = .ok u := hexec
  obtain ⟨a, _, hid, hu⟩ := updateUser_ok hok
  refine ⟨u, mem_updateUser _ hok, ?_, ?_⟩
  · rw [hu]
    exact hid
  · rw [hu]

/-- The row that was there before. -/
theorem row_of_updatePasswordHash {u : User} {hash : Option String}
    (h : (respond (.sql (.updatePasswordHash userID hash)) d w).1 = .ok u) :
    ∃ v ∈ w.db.users.rows, v.id = userID := by
  obtain ⟨_, hexec, _⟩ := respond_sql_ok h
  have hok : (updateUser w.db.users (w.wait d.wait).now userID (fun u => { u with passwordHash := hash })
      fun _ => rfl).1 = .ok u := hexec
  obtain ⟨a, ha, hid, _⟩ := updateUser_ok hok
  exact ⟨a, ha, hid⟩

/-- A statement that fails leaves the users alone. -/
theorem respond_user_error {q : Query} {e : DBError} (h : (respond (.sql q) d w).1 = .error e)
    (hq : (∃ hash, q = .updatePasswordHash userID hash) ∨ ∃ flag, q = .setForcePasswordChange userID flag) :
    (respond (.sql q) d w).2.db.users = w.db.users := by
  rcases respond_db (.sql q) d w with ⟨_, hdb⟩ | ⟨q', hq', hf, hdb⟩
  · rw [hdb]
  · cases hq'
    rw [respond_sql q hf] at h
    rw [hdb]
    rcases hq with ⟨hash, rfl⟩ | ⟨flag, rfl⟩
    · exact updateOne_error (by intro u; rfl) h
    · exact updateOne_error (by intro u; rfl) h

/-- Clearing the flag keeps the hash. -/
theorem Store.HasHash.setForcePasswordChange {id : UUID} {flag : Bool} (h : w.db.HasHash userID hash) :
    (respond (.sql (.setForcePasswordChange id flag)) d w).2.db.HasHash userID hash := by
  rcases respond_db (.sql (.setForcePasswordChange id flag)) d w with ⟨_, hdb⟩ | ⟨q', hq, _, hdb⟩
  · rw [hdb]
    exact h
  · cases hq
    rw [hdb]
    obtain ⟨u, hu, hid, hhash⟩ := h
    refine ⟨_, Table.mem_update hu, ?_, ?_⟩
    · split <;> exact hid
    · split <;> exact hhash

/-- The other requests do not touch the users. -/
theorem change_users (hq : changeRequest env userID newPassword q log) :
    (∃ hash, q = .sql (.updatePasswordHash userID hash)) ∨
      (q = .sql (.setForcePasswordChange userID false) ∧ midChange log = true) ∨
      ((respond q d w).2.db.users = w.db.users ∧
        ∀ reply : q.Reply, Event.newHash? ⟨q, reply⟩ = none ∧ Event.clearsFlag ⟨q, reply⟩ = false) := by
  cases q with
  | sql q =>
    cases q with
    | updatePasswordHash id hash => exact Or.inl ⟨hash, by rw [hq.1]⟩
    | setForcePasswordChange id flag =>
      obtain ⟨rfl, rfl, hmid⟩ := hq
      exact Or.inr (Or.inl ⟨rfl, hmid⟩)
    | getUserByID | revokeRefreshTokensByUser | createAuditLogEntry =>
      refine Or.inr (Or.inr ⟨?_, fun _ => ⟨rfl, rfl⟩⟩)
      rcases respond_db (.sql _) d w with ⟨_, hdb⟩ | ⟨q', hq', _, hdb⟩
      · rw [hdb]
      · cases hq'
        rw [hdb]
        rfl
    | _ => exact hq.elim
  | randBytes n => exact Or.inr (Or.inr ⟨rfl, fun _ => ⟨rfl, rfl⟩⟩)
  | _ => exact hq.elim

end Row

/-! ### The right to change the password -/

section Race

variable {ι α : Type}

/-- The user whose hash a request writes. -/
def Request.rehashes? : Request → Option UUID
  | .sql (.updatePasswordHash id _) => some id
  | _ => none

/-- **The condition.** Where `UpdatePasswordHash` is executed, the flag of the user is set, and no other
call has written its hash and is about to clear the flag. -/
def WritesAlone (c : Pool backend ι α) (i : ι) (d : Draw) : Prop :=
  ∀ id ∈ (c.next? i).bind Request.rehashes?, d.fault = false →
    (∀ u ∈ c.world.db.users.rows, u.id = id → u.forcePasswordChange = true) ∧
      ∀ j, j ≠ i → midChange (c.threads j).log = false

instance [Fintype ι] [DecidableEq ι] (c : Pool backend ι α) (i : ι) (d : Draw) :
    Decidable (WritesAlone c i d) := Option.decidableForallMem _

/-- The call has exercised the right to change the password. -/
def Changing (log : Log effects) : Prop := midChange log = true ∨ flagCleared log = true

/-- One call at most has exercised the right, and its hash is in the table. -/
structure ChangeInv (userID : UUID) (c : Pool backend ι α) : Prop where
  alone : ∀ i j, Changing (c.threads i).log → Changing (c.threads j).log → i = j
  hash : ∀ i, Changing (c.threads i).log →
    ∃ hash, newHash (c.threads i).log = some hash ∧ c.world.db.HasHash userID hash
  cleared : ∀ i, flagCleared (c.threads i).log = true → c.world.db.Unforced userID

variable {env : Env} {userID : UUID} {newPassword : String} {log : Log effects} {c : Pool backend ι α} {i : ι}
  {d : Draw} {q : Request} {k : q.Reply → Call α} {e : Event effects}

theorem flagCleared_cons (h : Event.clearsFlag e = false) : flagCleared (e :: log) = flagCleared log := by
  unfold flagCleared
  rw [List.any_cons, h, Bool.false_or]

theorem newHash_cons (h : Event.newHash? e = none) : newHash (e :: log) = newHash log := by
  unfold newHash
  rw [List.findSome?_cons, h]

theorem midChange_cons (e : Event effects) : midChange (e :: log) = (Event.newHash? e).isSome := rfl

variable [DecidableEq ι]

/-- A request that leaves the users alone. -/
theorem ChangeInv.step_other (h : ChangeInv userID c) (hi : (c.threads i).prog = .call q k)
    (husers : (respond q d c.world).2.db.users = c.world.db.users)
    (hhash : Event.newHash? ⟨q, (respond q d c.world).1⟩ = none)
    (hclear : Event.clearsFlag ⟨q, (respond q d c.world).1⟩ = false) : ChangeInv userID (c.step i d) := by
  have hchanging : ∀ j, Changing ((c.step i d).threads j).log → Changing (c.threads j).log := by
    intro j hj
    by_cases hij : j = i
    · subst hij
      rw [step_log hi] at hj
      rcases hj with hmid | hcleared
      · rw [midChange_cons, hhash] at hmid
        cases hmid
      · rw [flagCleared_cons hclear] at hcleared
        exact Or.inr hcleared
    · rw [Pool.step_threads_of_ne hij] at hj
      exact hj
  have hnew : ∀ j, newHash ((c.step i d).threads j).log = newHash (c.threads j).log := by
    intro j
    by_cases hij : j = i
    · subst hij
      rw [step_log hi, newHash_cons hhash]
    · rw [Pool.step_threads_of_ne hij]
  refine ⟨fun j j' hj hj' => h.alone j j' (hchanging j hj) (hchanging j' hj'), fun j hj => ?_, fun j hj => ?_⟩
  · rw [hnew j, step_world hi]
    obtain ⟨hash, hh, hrow⟩ := h.hash j (hchanging j hj)
    refine ⟨hash, hh, ?_⟩
    unfold Store.HasHash
    rw [husers]
    exact hrow
  · have hold : flagCleared (c.threads j).log = true := by
      by_cases hij : j = i
      · subst hij
        rw [step_log hi, flagCleared_cons hclear] at hj
        exact hj
      · rw [Pool.step_threads_of_ne hij] at hj
        exact hj
    rw [step_world hi]
    unfold Store.Unforced
    rw [husers]
    exact h.cleared j hold

/-- **The hash is written**: the call exercises the right, and no other has. -/
theorem ChangeInv.step_hash (h : ChangeInv userID c) {hash : String}
    {k : (Request.sql (.updatePasswordHash userID (some hash))).Reply → Call α}
    (hi : (c.threads i).prog = .call (.sql (.updatePasswordHash userID (some hash))) k)
    (hguard : WritesAlone c i d) : ChangeInv userID (c.step i d) := by
  cases hreply : (respond (.sql (.updatePasswordHash userID (some hash))) d c.world).1 with
  | error e =>
    refine h.step_other hi (respond_user_error hreply (Or.inl ⟨_, rfl⟩)) ?_ ?_
    · rw [hreply]
      rfl
    · rfl
  | ok u =>
    obtain ⟨hf, hexec, _⟩ := respond_sql_ok hreply
    have hnext : userID ∈ (c.next? i).bind Request.rehashes? := by
      rw [Pool.next?_of_call hi]
      rfl
    obtain ⟨hflag, hmid⟩ := hguard userID hnext hf
    -- the flag is set, so no call has cleared it
    have hnone : ∀ j, flagCleared (c.threads j).log = false := by
      intro j
      by_contra hj
      have hun := h.cleared j (by simpa using hj)
      obtain ⟨v, hv, hid⟩ := row_of_updatePasswordHash hreply
      have hforced := hflag v hv hid
      rw [hun v hv hid] at hforced
      cases hforced
    have honly : ∀ j, Changing ((c.step i d).threads j).log → j = i := by
      intro j hj
      by_contra hij
      rw [Pool.step_threads_of_ne hij] at hj
      rcases hj with hj | hj
      · rw [hmid j hij] at hj
        cases hj
      · rw [hnone j] at hj
        cases hj
    refine ⟨fun j j' hj hj' => (honly j hj).trans (honly j' hj').symm, fun j hj => ?_, fun j hj => ?_⟩
    · obtain rfl := honly j hj
      rw [step_log hi, step_world hi, hreply]
      exact ⟨hash, rfl, respond_updatePasswordHash hreply⟩
    · obtain rfl := honly j (Or.inr hj)
      rw [step_log hi, flagCleared_cons rfl, hnone j] at hj
      cases hj

/-- **The flag is cleared** by the call that has exercised the right. -/
theorem ChangeInv.step_flag (h : ChangeInv userID c)
    {k : (Request.sql (.setForcePasswordChange userID false)).Reply → Call α}
    (hi : (c.threads i).prog = .call (.sql (.setForcePasswordChange userID false)) k)
    (hmid : midChange (c.threads i).log = true) : ChangeInv userID (c.step i d) := by
  cases hreply : (respond (.sql (.setForcePasswordChange userID false)) d c.world).1 with
  | error e =>
    refine h.step_other hi (respond_user_error hreply (Or.inr ⟨_, rfl⟩)) rfl ?_
    rw [hreply]
    rfl
  | ok u =>
    have honly : ∀ j, Changing ((c.step i d).threads j).log → j = i := by
      intro j hj
      by_contra hij
      rw [Pool.step_threads_of_ne hij] at hj
      exact hij (h.alone j i hj (Or.inl hmid))
    refine ⟨fun j j' hj hj' => (honly j hj).trans (honly j' hj').symm, fun j hj => ?_, fun j hj => ?_⟩
    · obtain rfl := honly j hj
      obtain ⟨hash, hnew, hrow⟩ := h.hash j (Or.inl hmid)
      rw [step_log hi, step_world hi, newHash_cons rfl]
      exact ⟨hash, hnew, hrow.setForcePasswordChange⟩
    · rw [step_world hi]
      exact respond_clearForcePasswordChange hreply

/-- **One step.** -/
theorem ChangeInv.step (h : ChangeInv userID c) (hi : (c.threads i).prog = .call q k)
    (hq : changeRequest env userID newPassword q (c.threads i).log) (hguard : WritesAlone c i d) :
    ChangeInv userID (c.step i d) := by
  rcases change_users (d := d) (w := c.world) hq with ⟨hash, rfl⟩ | ⟨rfl, hmid⟩ | ⟨husers, hevent⟩
  · obtain ⟨_, salt, rfl⟩ := hq
    exact h.step_hash hi hguard
  · exact h.step_flag hi hmid
  · exact h.step_other hi husers (hevent _).1 (hevent _).2

end Race

/-! ### Whole runs -/

/-- `ChangePassword` calls for one user that are about to start. -/
def passwordChanges {ι : Type} (env : Env) (userID : UUID) (newPassword : ι → String) (w : World) :
    Pool backend ι (Except AuthError ChangePasswordResult) :=
  Pool.start (fun i => changePassword env userID (newPassword i)) w

/-- The hash a call has written is one of its password. -/
def OwnHash (env : Env) (newPassword : String) (log : Log effects) : Prop :=
  ∀ hash, newHash log = some hash → ∃ salt, hash = hashArgon2id env newPassword salt

theorem OwnHash.cons {env : Env} {userID : UUID} {newPassword : String} {log : Log effects} {q : Request}
    (h : OwnHash env newPassword log) (hq : changeRequest env userID newPassword q log) (reply : q.Reply) :
    OwnHash env newPassword (⟨q, reply⟩ :: log) := by
  intro hash hhash
  cases hev : Event.newHash? (⟨q, reply⟩ : Event effects) with
  | none =>
    rw [newHash_cons hev] at hhash
    exact h hash hhash
  | some hash' =>
    -- the event is the write of a hash
    have hsame : hash' = hash := by
      unfold newHash at hhash
      rw [List.findSome?_cons, hev] at hhash
      exact Option.some.inj hhash
    subst hsame
    unfold Event.newHash? at hev
    split at hev
    · next heq =>
      cases heq
      obtain ⟨_, salt, hsalt⟩ := hq
      rw [hev] at hsalt
      exact ⟨salt, Option.some.inj hsalt⟩
    · cases hev

/-- **A challenge is used once.** `ChangePassword` calls for one user, in any interleaving in which every
`UpdatePasswordHash` that is executed finds the flag set and no other call about to clear it. At most one
call succeeds, and then the password of the user has the hash that this call has written, which is one of
the password the call was given. -/
theorem changes_once {ι : Type} [DecidableEq ι] (env : Env) (userID : UUID) (newPassword : ι → String)
    (w : World) (schedule : List (ι × Draw))
    (hguard : Pool.Along WritesAlone (passwordChanges env userID newPassword w) schedule) :
    (∀ i j, ((passwordChanges env userID newPassword w).run schedule).Succeeded i →
      ((passwordChanges env userID newPassword w).run schedule).Succeeded j → i = j) ∧
    ∀ i, ((passwordChanges env userID newPassword w).run schedule).Succeeded i →
      ∃ hash salt, newHash (((passwordChanges env userID newPassword w).run schedule).threads i).log =
          some hash ∧ hash = hashArgon2id env (newPassword i) salt ∧
        ((passwordChanges env userID newPassword w).run schedule).world.db.HasHash userID hash := by
  have hob : Pool.Obeys (fun i => changeProtocol env userID (newPassword i))
      (passwordChanges env userID newPassword w) := fun i =>
    changePassword_change env userID (newPassword i)
  have hstart : ChangeInv userID (passwordChanges env userID newPassword w) := by
    refine ⟨fun i j hi => ?_, fun i hi => ?_, fun i hi => ?_⟩
    · rcases hi with hi | hi <;> cases hi
    · rcases hi with hi | hi <;> cases hi
    · cases hi
  have hinv : ChangeInv userID ((passwordChanges env userID newPassword w).run schedule) :=
    Pool.invariant (fun c i d q k hi hq hC hI => hI.step hi hq hC) hob hstart hguard
  have hown : ∀ i, OwnHash env (newPassword i)
      (((passwordChanges env userID newPassword w).run schedule).threads i).log := by
    refine Pool.invariant_of_step (I := fun c => ∀ i, OwnHash env (newPassword i) (c.threads i).log) ?_ hob
      (fun i hash h => by cases h) schedule
    intro c i d q k hi hq h
    exact Pool.forall_log_step (J := fun j log _ => OwnHash env (newPassword j) log) hi
      (fun hold => hold.cons hq _) (fun _ _ hold => hold) h
  have hcleared : ∀ i, ((passwordChanges env userID newPassword w).run schedule).Succeeded i →
      Changing (((passwordChanges env userID newPassword w).run schedule).threads i).log := by
    rintro i ⟨r, hr⟩
    exact Or.inr ((hob.run schedule).result hr r rfl)
  refine ⟨fun i j hi hj => hinv.alone i j (hcleared i hi) (hcleared j hj), fun i hi => ?_⟩
  obtain ⟨hash, hnew, hrow⟩ := hinv.hash i (hcleared i hi)
  obtain ⟨salt, hsalt⟩ := hown i hash hnew
  exact ⟨hash, salt, hnew, hsalt, hrow⟩

section Examples

open Deployment

/-- `ann` has to change the password. -/
def forcedStore : Store :=
  { store with users := ⟨[{ ann with forcePasswordChange := true }], List.pairwise_singleton _ _⟩ }

/-- Two changes of `ann`'s password. -/
def annChanges : Pool backend Bool (Except AuthError ChangePasswordResult) :=
  passwordChanges env 2 (fun i => if i then "Tr0ub4dor&3-horse" else "Battery.Staple9") ⟨0, forcedStore⟩

/-- One after the other: the second is told that the password was changed. -/
theorem changes_once_ann :
    (annChanges.run (turns 5 true ++ turns 5 false)).Succeeded true ∧
      ¬ (annChanges.run (turns 5 true ++ turns 5 false)).Succeeded false := by
  have honce := changes_once env 2 (fun i => if i then "Tr0ub4dor&3-horse" else "Battery.Staple9")
    ⟨0, forcedStore⟩ (turns 5 true ++ turns 5 false) (by decide +kernel)
  have htrue : (annChanges.run (turns 5 true ++ turns 5 false)).Succeeded true := by decide +kernel
  exact ⟨htrue, fun hfalse => by cases honce.1 true false htrue hfalse⟩

/-- **The race.** Both calls read the flag before either clears it: both succeed, and the password that
was set by the first to finish is gone. -/
theorem both_changes_succeed :
    (annChanges.run (turns 2 true ++ turns 2 false ++ turns 3 true ++ turns 3 false)).Succeeded true ∧
      (annChanges.run (turns 2 true ++ turns 2 false ++ turns 3 true ++ turns 3 false)).Succeeded false ∧
      ((annChanges.run (turns 2 true ++ turns 2 false ++ turns 3 true)).world.db.users.rows.map
        User.passwordHash) ≠ 
      ((annChanges.run (turns 2 true ++ turns 2 false ++ turns 3 true ++ turns 3 false)).world.db.users.rows.map
        User.passwordHash) := by
  decide +kernel

end Examples

end GoauthServer
