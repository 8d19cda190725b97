import GoauthServer.Service.Bootstrap
import GoauthServer.Service.Deployment
import GoauthServer.Spec.Grants

/-!
# Accounts that owe a change of password

An account with `force_password_change` owns no code and no token. Only the handler of the direct login
looks at the flag; exchanges and rotations do not. What keeps the law is that such an account cannot come
by a code in the first place. It was created by the bootstrap, without an identity at a provider, and so no
callback resolves to it.

The notion that carries the proof is `Store.Unforced`: no row with an identifier has the flag. It is
stable while requests are served, since no operation sets the flag (`Operation.ne_setForcePasswordChange`).
The invariant (`Settled`) says that all owners in the tables are unforced, and so are the users on whose
behalf a call in progress is about to store something:

* the owner of the code or of the token that it has read;
* the user that a callback has found, or created;
* the user whose login it has recorded, if the row did not have the flag then;
* the user whose flag it has cleared.

The bootstrap does set the flag, of the row that it has created itself. By the foreign keys nothing refers
to that row yet.
-/

namespace GoauthServer

open Interact Relational

variable {q : Request} {log : Log effects} {w : World} {d : Draw} {op : Operation} {id : UUID}
  {s : Store} {ι : Type}

/-! ### The law -/

/-- No code and no token belongs to a user with `force_password_change`. -/
def Store.NoForcedOwner (s : Store) : Prop :=
  ∀ u ∈ s.users.rows, u.forcePasswordChange = true → ¬ s.Owner u.id

/-- The users with `force_password_change` have no identity at a provider. -/
def Store.ForcedLocal (s : Store) : Prop :=
  ∀ u ∈ s.users.rows, u.forcePasswordChange = true → u.provider = none

theorem Store.noForcedOwner_iff : s.NoForcedOwner ↔ ∀ id, s.Owner id → s.Unforced id := by
  constructor
  · intro h id hid u hu huid
    by_contra hflag
    rw [← huid] at hid
    exact h u hu (Bool.not_eq_false _ ▸ hflag) hid
  · intro h u hu hflag howner
    rw [h u.id howner u hu rfl] at hflag
    cases hflag

/-- A user without the flag, where the others have no identity at a provider: one with such an
identity. -/
theorem Store.ForcedLocal.unforced (h : s.ForcedLocal) {u : User} (hu : u ∈ s.users.rows)
    (hprovider : u.provider ≠ none) : s.Unforced u.id := by
  refine Store.unforced_of_mem hu ?_
  by_contra hflag
  exact hprovider (h u hu (Bool.not_eq_false _ ▸ hflag))

/-! ### Requests -/

/-- No operation sets the flag. -/
theorem Operation.ne_setForcePasswordChange {env : Env} (h : op.request env q log) (id : UUID) :
    q ≠ .sql (.setForcePasswordChange id true) := by
  rintro rfl
  cases op with
  | updateUserStatus =>
    rcases h with h | h
    · cases h
    · cases h
  | _ => cases h

/-- The flag of a user is not set while the operation goes on. -/
theorem Store.Unforced.step {env : Env} (hq : op.request env q log) (h : w.db.Unforced id) :
    (GoauthServer.respond q d w).2.db.Unforced id :=
  h.respond (op.ne_setForcePasswordChange hq id)

theorem Store.ForcedLocal.step {env : Env} (hq : op.request env q log) (h : w.db.ForcedLocal) :
    (GoauthServer.respond q d w).2.db.ForcedLocal := by
  intro u' hu' hflag
  obtain ⟨u, hu, hlater, hforced | hset⟩ := respond_forced hu' hflag
  · rw [hlater.provider]
    exact h u hu hforced
  · exact absurd hset (op.ne_setForcePasswordChange hq _)

/-- The user to whom a code or token belongs belonged one before, or the statement stores one. -/
theorem respond_owner (h : (respond q d w).2.db.Owner id) :
    w.db.Owner id ∨ (∃ p, q = .sql (.createAuthorizationCode p) ∧ p.userID = id) ∨
      (∃ p, q = .sql (.createAccessToken p) ∧ p.userID = id) ∨
      ∃ p, q = .sql (.createRefreshToken p) ∧ p.userID = id := by
  cases h with
  | code h =>
    rcases respond_authorizationCode_origin h with ⟨c, hc, hlater, _⟩ | ⟨p, hp, rfl, _⟩
    · rw [hlater.userID]
      exact Or.inl (.code hc)
    · exact Or.inr (Or.inl ⟨p, hp, rfl⟩)
  | access h =>
    rcases respond_accessToken_origin h with ⟨a, ha, hlater⟩ | ⟨p, hp, rfl⟩
    · rw [hlater.userID]
      exact Or.inl (.access ha)
    · exact Or.inr (Or.inr (Or.inl ⟨p, hp, rfl⟩))
  | refresh h =>
    rcases respond_refreshToken_origin h with ⟨t, ht, hlater⟩ | ⟨p, hp, rfl⟩
    · rw [hlater.userID]
      exact Or.inl (.refresh ht)
    · exact Or.inr (Or.inr (Or.inr ⟨p, hp, rfl⟩))

/-! ### Calls in progress -/

/-- The users on whose behalf the call acts are unforced. -/
structure SettledLog (op : Operation) (log : Log effects) (s : Store) : Prop where
  loaded : LoadedUser op log
  code : ∀ c, readCode log = some c → s.Unforced c.userID
  record : ∀ t, readRecord log = some t → s.Unforced t.userID
  found : ∀ u, foundUser log = some u → s.Unforced u.id
  resolved : ∀ clientID providerName code callbackURL clientRedirectURI scope,
    op = .handleProviderCallback clientID providerName code callbackURL clientRedirectURI scope →
      ∀ u, signedIn log = some u → s.Unforced u.id
  recorded : ∀ u, signedIn log = some u → u.forcePasswordChange = false → s.Unforced u.id
  cleared : ∀ id (u : User),
    (⟨.sql (.setForcePasswordChange id false), .ok u⟩ : Event effects) ∈ log → s.Unforced id

theorem SettledLog.start (op : Operation) (s : Store) : SettledLog op [] s where
  loaded := ⟨fun _ _ _ _ _ _ hu => (by cases hu), fun _ _ _ _ _ hu => (by cases hu)⟩
  code _ h := by cases h
  record _ h := by cases h
  found _ h := by cases h
  resolved _ _ _ _ _ _ _ _ h := by cases h
  recorded _ h := by cases h
  cleared _ _ h := by cases h

/-- Where no flag is set, a call keeps what it had. -/
theorem SettledLog.mono {s s' : Store}
    (hs : ∀ id, s.Unforced id → s'.Unforced id) (h : SettledLog op log s) : SettledLog op log s' where
  loaded := h.loaded
  code c hc := hs _ (h.code c hc)
  record t ht := hs _ (h.record t ht)
  found u hu := hs _ (h.found u hu)
  resolved _ _ _ _ _ _ hop u hu := hs _ (h.resolved _ _ _ _ _ _ hop u hu)
  recorded u hu hflag := hs _ (h.recorded u hu hflag)
  cleared id u hmem := hs _ (h.cleared id u hmem)

section Step

variable {env : Env} {op : Operation} {q : Request} {log : Log effects} {d : Draw} {w : World}

/-- The users of the call that moves. -/
theorem SettledLog.step (hq : op.request env q log) (hlocal : w.db.ForcedLocal)
    (howners : ∀ id, w.db.Owner id → w.db.Unforced id) (h : SettledLog op log w.db) :
    SettledLog op (⟨q, (respond q d w).1⟩ :: log) (respond q d w).2.db where
  loaded := h.loaded.step hq
  code c hread := by
    rcases readCode_respond hread with hold | ⟨_, _, hmem, _⟩
    · exact (h.code c hold).step hq
    · exact (howners _ (.code hmem)).step hq
  record t hread := by
    rcases readRecord_respond hread with hold | ⟨_, _, hmem, _⟩
    · exact (h.record t hold).step hq
    · exact (howners _ (.refresh hmem)).step hq
  found u hread := by
    rcases foundUser_respond hread with hold | ⟨provider, providerID, _, hmem, hsame, _⟩
    · exact (h.found u hold).step hq
    · -- `NULL` equals nothing, so the user has an identity at a provider
      refine (hlocal.unforced hmem ?_).step hq
      intro hnone
      rw [hnone] at hsame
      cases hsame
  resolved clientID providerName code callbackURL uri scope hop u hread := by
    subst hop
    rcases signedIn_respond hread with hold | ⟨t, rfl⟩ | ⟨⟨p, rfl⟩, _⟩
    · exact (h.resolved _ _ _ _ _ _ rfl u hold).step hq
    · obtain ⟨u₀, hfound, hid, _⟩ := id hq
      have hunforced := h.found u₀ hfound
      rw [← hid] at hunforced
      exact hunforced.step hq
    · rcases respond_createUser_insert d w p with ⟨e, hr, _⟩ | ⟨table, hins, hr, hdb⟩
      · rw [hr] at hread
        exact (h.resolved _ _ _ _ _ _ rfl u hread).step hq
      · rw [hr] at hread
        obtain rfl := Option.some.inj hread
        refine Store.unforced_of_mem ?_ rfl
        rw [hdb]
        exact (Table.mem_of_insert hins).mpr (Or.inr rfl)
  recorded u hread hflag := by
    rcases signedIn_stored hread with hold | hmem
    · exact (h.recorded u hold hflag).step hq
    · exact Store.unforced_of_mem hmem hflag
  cleared id u hmem := by
    rcases List.mem_cons.mp hmem with heq | hold
    · obtain ⟨rfl, hr⟩ := Sigma.mk.inj heq
      exact respond_clearForcePasswordChange (eq_of_heq hr).symm
    · exact (h.cleared id u hold).step hq

/-- **For whom an operation stores.** The owner of a new code or token is unforced. -/
theorem SettledLog.stores (hq : (op.fullProtocol env).request q log) (h : SettledLog op log w.db)
    {id : UUID}
    (hstore : (∃ p, q = .sql (.createAuthorizationCode p) ∧ p.userID = id) ∨
      (∃ p, q = .sql (.createAccessToken p) ∧ p.userID = id) ∨
      ∃ p, q = .sql (.createRefreshToken p) ∧ p.userID = id) : w.db.Unforced id := by
  unfold Operation.fullProtocol at hq
  rcases hstore with ⟨p, rfl, rfl⟩ | ⟨p, rfl, rfl⟩ | ⟨p, rfl, rfl⟩
  · -- a code, for the user to whom the callback has resolved
    obtain ⟨_, _, _, _, _, _, rfl⟩ := Operation.eq_of_createAuthorizationCode hq.1
    obtain ⟨⟨u, hin, huser⟩, _⟩ := hq
    rw [huser]
    exact h.resolved _ _ _ _ _ _ rfl u hin
  · rcases Operation.eq_of_createAccessToken hq.1 with
      ⟨_, _, _, rfl⟩ | ⟨_, _, rfl⟩ | ⟨_, _, _, rfl⟩ | ⟨_, _, _, _, rfl⟩
    · -- the login checks the flag of the row it has read last
      obtain ⟨_, _, u, hin, hflag, huser⟩ := hq
      rw [huser]
      exact h.recorded u hin hflag
    · obtain ⟨_, _, u, hmem⟩ := hq
      exact h.cleared _ u hmem
    · obtain ⟨⟨t, u, _, _, _, _, _, huser, _, _, _, rfl⟩, _⟩ := hq
      obtain ⟨t', hread, hid⟩ := h.loaded.rotation _ _ _ rfl u huser
      rw [show u.id = t'.userID from hid]
      exact h.record t' hread
    · obtain ⟨⟨c, u, _, _, _, _, _, huser, _, _, _, rfl⟩, _⟩ := hq
      obtain ⟨c', hread, hid⟩ := h.loaded.exchange _ _ _ _ rfl u huser
      rw [show u.id = c'.userID from hid]
      exact h.code c' hread
  · rcases Operation.eq_of_createRefreshToken hq.1 with ⟨_, _, _, rfl⟩ | ⟨_, _, _, _, rfl⟩
    · obtain ⟨⟨t, u, a, _, _, _, _, huser, _, hp⟩, _⟩ := hq
      obtain ⟨t', hread, hid⟩ := h.loaded.rotation _ _ _ rfl u huser
      rw [hp.userID, hid]
      exact h.record t' hread
    · obtain ⟨⟨c, u, a, F, _, _, _, _, huser, _, _, hp⟩, _⟩ := hq
      obtain ⟨c', hread, hid⟩ := h.loaded.exchange _ _ _ _ rfl u huser
      rw [hp.userID, hid]
      exact h.code c' hread

end Step

/-! ### Serving requests -/

/-- The invariant while requests are served. -/
structure Settled {ι : Type} (ops : ι → Operation) (c : Pool backend ι Outcome) : Prop where
  owners : ∀ id, c.world.db.Owner id → c.world.db.Unforced id
  forcedLocal : c.world.db.ForcedLocal
  logs : ∀ i, SettledLog (ops i) (c.threads i).log c.world.db

/-- **One request of one call.** -/
theorem Settled.step [DecidableEq ι] {env : Env} {ops : ι → Operation} {c : Pool backend ι Outcome}
    {i : ι} {k : q.Reply → Call Outcome} (hi : (c.threads i).prog = .call q k)
    (hq : ((ops i).fullProtocol env).request q (c.threads i).log) (h : Settled ops c) :
    Settled ops (c.step i d) where
  owners := by
    rw [step_world hi]
    intro id howner
    refine Store.Unforced.step hq.1 ?_
    rcases respond_owner howner with hold | hstore
    · exact h.owners id hold
    · exact (h.logs i).stores hq hstore
  forcedLocal := by
    rw [step_world hi]
    exact h.forcedLocal.step hq.1
  logs := by
    refine Pool.forall_log_step (J := fun j log (w : World) => SettledLog (ops j) log w.db) hi ?_ ?_ h.logs
    · exact fun hlog => hlog.step hq.1 h.forcedLocal h.owners
    · exact fun j _ hlog => hlog.mono fun id hid => hid.step hq.1

/-! ### The bootstrap -/

/-- The requests of the bootstrap: the flag is set of the user it has created, without a provider. -/
def bootstrapRequest : Request → Log effects → Prop
  | .sql (.createUser p), log => p.provider = none ∧ signedIn log = none
  | .sql (.setForcePasswordChange id _), log => ∃ u, signedIn log = some u ∧ id = u.id
  | .sql .countAdminUsers, _ | .sql (.updatePasswordHash _ _), _ | .sql (.promoteUserToAdmin _), _
  | .sql (.createAuditLogEntry _), _ | .now, _ | .randBytes _, _ => True
  | _, _ => False

theorem bootstrapDefaultAdmin_obeys (env : Env) (cfg : BootstrapConfig) (serverCfg : ServerConfig) :
    (bootstrapDefaultAdmin env cfg serverCfg).Obeys ⟨bootstrapRequest, fun _ _ => True⟩ [] := by
  unfold bootstrapDefaultAdmin
  split
  · trivial
  split
  · trivial
  split
  · trivial
  split
  · trivial
  refine ⟨trivial, ?_⟩
  rintro (e | count)
  · trivial
  dsimp only
  split
  · trivial
  refine ⟨trivial, ?_⟩
  rintro (_ | salt)
  · trivial
  refine ⟨trivial, fun now => ⟨⟨rfl, rfl⟩, ?_⟩⟩
  rintro (e | newUser)
  · trivial
  -- the writes to the new row
  refine ⟨trivial, ?_⟩
  rintro (e | _)
  · trivial
  refine ⟨⟨newUser, rfl, rfl⟩, ?_⟩
  rintro (e | _)
  · trivial
  refine ⟨trivial, ?_⟩
  rintro (e | _)
  · trivial
  · exact ⟨trivial, fun _ => trivial⟩

/-- The bootstrap does not touch codes and tokens. -/
theorem bootstrapRequest_owner (hq : bootstrapRequest q log) (d : Draw)
    (w : World) (h : (respond q d w).2.db.Owner id) : w.db.Owner id := by
  rcases respond_owner h with hold | ⟨p, rfl, _⟩ | ⟨p, rfl, _⟩ | ⟨p, rfl, _⟩
  · exact hold
  all_goals cases hq

/-- The invariant of the bootstrap, which starts in `s₀`. The users of `s₀` keep the flag they have, and
the user that it has created is none of them and has no provider. -/
structure Booting (s₀ : Store) (log : Log effects) (w : World) : Prop where
  owners : ∀ id, w.db.Owner id → s₀.Owner id
  forcedLocal : w.db.ForcedLocal
  unforced : ∀ u₀ ∈ s₀.users.rows, s₀.Unforced u₀.id → w.db.Unforced u₀.id
  created : ∀ u, signedIn log = some u → (∀ u₀ ∈ s₀.users.rows, u₀.id ≠ u.id) ∧
    ∀ v ∈ w.db.users.rows, v.id = u.id → v.provider = none
  evolves : Table.Evolves User.Later s₀.users w.db.users

theorem Booting.start (hlocal : w.db.ForcedLocal) : Booting w.db [] w where
  owners _ h := h
  forcedLocal := hlocal
  unforced _ _ h := h
  created _ h := by cases h
  evolves := Table.Evolves.refl .refl _

theorem Booting.step {s₀ : Store} (hq : bootstrapRequest q log) (h : Booting s₀ log w) :
    Booting s₀ (⟨q, (respond q d w).1⟩ :: log) (respond q d w).2 where
  owners id howner := h.owners id (bootstrapRequest_owner hq d w howner)
  forcedLocal := by
    intro u' hu' hflag
    obtain ⟨u, hu, hlater, hforced | rfl⟩ := respond_forced hu' hflag
    · rw [hlater.provider]
      exact h.forcedLocal u hu hforced
    · -- the flag is set now, of the new user
      obtain ⟨v, hin, hid⟩ := hq
      rw [hlater.provider]
      exact (h.created v hin).2 u hu (hlater.id.symm.trans hid)
  unforced u₀ hu₀ hflag := by
    refine (h.unforced u₀ hu₀ hflag).respond ?_
    rintro rfl
    obtain ⟨v, hin, hid⟩ := hq
    exact (h.created v hin).1 u₀ hu₀ hid
  created u hread := by
    rcases signedIn_respond hread with hold | ⟨t, rfl⟩ | ⟨⟨p, rfl⟩, hnew⟩
    · refine ⟨(h.created u hold).1, fun v hv hid => ?_⟩
      have hq' : ∀ p, q ≠ .sql (.createUser p) := by
        rintro p rfl
        rw [hq.2] at hold
        cases hold
      obtain ⟨v₀, hv₀, hlater⟩ := respond_user_origin hq' hv
      rw [hlater.provider]
      exact (h.created u hold).2 v₀ hv₀ (hlater.id.symm.trans hid)
    · cases hq
    · refine ⟨fun u₀ hu₀ hid => ?_, fun v hv hid => ?_⟩
      · obtain ⟨u', hu', hlater⟩ := h.evolves u₀ hu₀
        exact hnew u' hu' (hlater.id.trans hid)
      · rcases respond_createUser_insert d w p with ⟨e, hr, _⟩ | ⟨table, hins, hr, hdb⟩
        · rw [hr] at hread
          exact absurd (hread.symm.trans hq.2) (by simp)
        · rw [hdb] at hv
          rcases (Table.mem_of_insert hins).mp hv with hold | rfl
          · exact absurd hid (hnew v hold)
          · exact hq.1
  evolves := h.evolves.trans (fun _ _ _ h h' => h.trans h') (respond_users q d w)

/-- After the bootstrap, however far it got, requests can be served. -/
theorem settled_start (env : Env) (cfg : BootstrapConfig) (serverCfg : ServerConfig) (ops : ι → Operation)
    (hlocal : w.db.ForcedLocal) (hno : w.db.NoForcedOwner) (hkeys : w.db.OwnersExist) (ds : ℕ → Draw) :
    Settled ops (operations env ops ((bootstrapDefaultAdmin env cfg serverCfg).run backend ds w).2) := by
  obtain ⟨_, _, hboot⟩ := (bootstrapDefaultAdmin_obeys env cfg serverCfg).run (B := backend)
    (J := Booting w.db) (fun q log d w hq _ hJ => hJ.step hq)
    (Prog.along_of_forall (fun _ _ _ => trivial) _ ds w) (.start hlocal)
  refine ⟨fun id howner => ?_, hboot.forcedLocal, fun i => .start _ _⟩
  -- an owner is a user of the database at the start
  have howner₀ := hboot.owners id howner
  obtain ⟨u₀, hu₀, rfl⟩ := hkeys id howner₀
  exact hboot.unforced u₀ hu₀ (Store.noForcedOwner_iff.mp hno _ howner₀)

/-- **No credentials before the change of password.** The database starts with users with
`force_password_change` who have no identity at a provider and own nothing; the bootstrap runs, and may
fail anywhere; then any operations are served, interleaved in any way. At no time does a code or a token
belong to a user with the flag. -/
theorem no_credentials_before_change {ι : Type} [DecidableEq ι] (env : Env) (cfg : BootstrapConfig)
    (serverCfg : ServerConfig) (ops : ι → Operation) (w : World) (hlocal : w.db.ForcedLocal)
    (hno : w.db.NoForcedOwner) (hkeys : w.db.OwnersExist) (ds : ℕ → Draw) (ls : List (ι × Draw)) :
    ((operations env ops ((bootstrapDefaultAdmin env cfg serverCfg).run backend ds w).2).run
      ls).world.db.NoForcedOwner := by
  have hsettled := Pool.invariant_of_step (fun c i d q k hi hq h => Settled.step hi hq h)
    (operations_obeys_full env ops _) (settled_start env cfg serverCfg ops hlocal hno hkeys ds) ls
  exact Store.noForcedOwner_iff.mpr hsettled.owners

section Examples

open Deployment

/-- The deployment, with a mail address for the administrator. -/
def adminEnv : Env :=
  { env with lib := { lib with isMailAddress := fun s => s == "admin@example.com" } }

def adminConfig : BootstrapConfig where
  allowDefaultAdmin := false
  defaultAdminEmail := "admin@example.com"
  defaultAdminPassword := "Correct-Horse-7"

/-- The world in which the server starts to take requests. -/
def adminWorld : World :=
  ((bootstrapDefaultAdmin adminEnv adminConfig ⟨"development"⟩).run backend (fun _ => draw 7 30)
    ⟨0, store⟩).2

/-- The administrator logs in, and `ann`'s code is exchanged. -/
def adminLogsIn : Bool → Operation
  | true => .login "admin@example.com" "Correct-Horse-7" "192.0.2.1"
  | false => .exchangeCodeForToken "auth-code" 1 "s3cret" "https://app.example/callback"

/-- The bootstrap leaves a user with the flag, and codes and tokens belong to `ann` alone. -/
theorem no_credentials_before_change_ann :
    (∃ u ∈ adminWorld.db.users.rows, u.forcePasswordChange = true) ∧
      ((operations adminEnv adminLogsIn adminWorld).run
        (turns 5 true ++ turns 13 false ++ turns 8 true)).world.db.NoForcedOwner := by
  have howner : ∀ id, store.Owner id → id = 2 := by
    rintro id (hmem | hmem | hmem)
    · obtain rfl := List.mem_singleton.mp hmem
      rfl
    · cases hmem
    · obtain rfl := List.mem_singleton.mp hmem
      rfl
  have hforced : ∀ u ∈ store.users.rows, u.forcePasswordChange ≠ true := by decide
  refine ⟨by decide +kernel, ?_⟩
  refine no_credentials_before_change adminEnv adminConfig ⟨"development"⟩ adminLogsIn ⟨0, store⟩
    (fun u hu hflag => absurd hflag (hforced u hu)) (fun u hu hflag => absurd hflag (hforced u hu))
    ?_ (fun _ => draw 7 30) _
  intro id hid
  exact ⟨ann, List.mem_singleton.mpr rfl, (howner id hid).symm⟩

end Examples

end GoauthServer
