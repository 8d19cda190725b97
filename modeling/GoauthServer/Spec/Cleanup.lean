import GoauthServer.Framework.Lockstep
import GoauthServer.Repository.Evolution
import GoauthServer.Service.Env

/-!
# A store next to the same store after cleanups

`w.Trails x t w'` relates the world `w` of a run without cleanups to the world `w'` of a run with them: the
database of `w'` is that of `w` without the codes and the access tokens in `x`, with the links of the refresh
tokens to them set to `NULL`; what is in `x` had expired before `t`, and it is `t` or later. The audit logs may
differ.

Most statements do not see the difference (`Query.blind`): they have the same answer in both databases, and
commute with leaving the rows out. The others are the ones that read codes or access tokens, those that insert
tokens, and the look-up of a refresh token. For each of them there is a lemma that says when the answers are
the same, and what they are if not.
-/

namespace GoauthServer

open Interact Relational

/-- The rows that cleanups have removed, by their identifiers. -/
structure Removed where
  codes : UUID → Bool
  tokens : UUID → Bool

namespace Removed

/-- What was removed from `s` had expired before `t`. -/
structure Expired (x : Removed) (s : Store) (t : Time) : Prop where
  codes : ∀ c ∈ s.authorizationCodes.rows, x.codes c.id = true → c.expiresAt < t
  tokens : ∀ a ∈ s.accessTokens.rows, x.tokens a.id = true → a.expiresAt < t
  present : ∀ id, x.tokens id = true → ∃ a ∈ s.accessTokens.rows, a.id = id

theorem Expired.later {x : Removed} {s : Store} {t t' : Time} (h : x.Expired s t) (hle : t ≤ t') :
    x.Expired s t' where
  codes c hc hx := (h.codes c hc hx).trans_le hle
  tokens a ha hx := (h.tokens a ha hx).trans_le hle
  present := h.present

/-- A refresh token without its link, if the link was removed. -/
def unlink (x : Removed) (r : RefreshToken) : RefreshToken :=
  if r.accessTokenID.any x.tokens then { r with accessTokenID := none } else r

end Removed

/-- The store without what was removed, and with another audit log. -/
def Store.cleaned (x : Removed) (log : Table AuditLog) (s : Store) : Store :=
  { s with
    authorizationCodes := s.authorizationCodes.delete fun c => x.codes c.id
    accessTokens := s.accessTokens.delete fun a => x.tokens a.id
    refreshTokens := s.refreshTokens.update (fun r => r.accessTokenID.any x.tokens)
      (fun r => { r with accessTokenID := none }) RefreshToken.key_unlink
    auditLog := log }

def World.cleaned (x : Removed) (log : Table AuditLog) (w : World) : World := ⟨w.now, w.db.cleaned x log⟩

/-- `w'` is `w` after cleanups. -/
structure World.Trails (x : Removed) (t : Time) (w w' : World) : Prop where
  since : t ≤ w.now
  expired : x.Expired w.db t
  eq : ∃ log, w' = w.cleaned x log

/-! ### Statements that do not see the difference -/

/-- The statement neither reads codes or access tokens, nor inserts a token, nor returns a refresh token or an
audit event. -/
def Query.blind : Query → Bool
  | .getAuthorizationCode _ | .getAuthorizationCodeByID _ | .listAuthorizationCodes _ _ _
  | .countAuthorizationCodes _ | .createAuthorizationCode _ | .markAuthorizationCodeUsed _
  | .deleteExpiredAuthorizationCodes | .getAccessToken _ | .getAccessTokenByID _ | .listAccessTokens _ _ _
  | .countAccessTokens _ | .createAccessToken _ | .deleteExpiredAccessTokens | .createRefreshToken _
  | .getRefreshTokenByHash _ | .createAuditLogEntry _ => false
  | _ => true

def Request.Blind : Request → Prop
  | .sql q => q.blind = true
  | _ => True

section Blind

variable {x : Removed} {log : Table AuditLog} {now : Time} {fresh : UUID} {s : Store}

/-- An update of refresh tokens that leaves the link alone. -/
theorem unlink_update (p : RefreshToken → Bool) (f : RefreshToken → RefreshToken)
    (hf : ∀ r, Keyed.key (f r) = Keyed.key r) (hlink : ∀ r, (f r).accessTokenID = r.accessTokenID)
    (hp : ∀ r : RefreshToken, p { r with accessTokenID := none } = p r)
    (hcomm : ∀ r : RefreshToken, f { r with accessTokenID := none } = { f r with accessTokenID := none }) :
    ({ s with refreshTokens := s.refreshTokens.update p f hf } : Store).cleaned x log =
      { s.cleaned x log with refreshTokens := (s.cleaned x log).refreshTokens.update p f hf } := by
  have hrows := Table.update_comm (t := s.refreshTokens) (p := p) (q := fun r => r.accessTokenID.any x.tokens)
    (f := f) (g := fun r : RefreshToken => { r with accessTokenID := none }) hf (fun _ => rfl) hp
    (fun r => by rw [hlink r]) hcomm
  unfold Store.cleaned
  rw [hrows]

/-- **A blind statement** has the same answer without the rows, and leaving them out commutes with it. -/
theorem Query.exec_cleaned {q : Query} (hq : q.blind = true) (x : Removed) (log : Table AuditLog)
    (now : Time) (fresh : UUID) (s : Store) :
    q.exec now fresh (s.cleaned x log) = ((q.exec now fresh s).1, (q.exec now fresh s).2.cleaned x log) := by
  -- the updates of the access tokens
  have hrevoke : ∀ p : AccessToken → Bool,
      (s.accessTokens.delete fun a => x.tokens a.id).update p AccessToken.revoke (fun _ => rfl) =
        (s.accessTokens.update p AccessToken.revoke fun _ => rfl).delete fun a => x.tokens a.id :=
    fun p => (Table.delete_update (f := AccessToken.revoke) (fun _ => rfl) fun _ => rfl).symm
  cases q with
  | deleteOAuthProvider id =>
    have hcodes := Table.delete_comm (t := s.authorizationCodes) (p := fun c => c.providerID == id)
      (g := fun c => x.codes c.id)
    refine Prod.ext rfl ?_
    show ({ s.cleaned x log with
      oauthProviders := _
      authorizationCodes := (s.authorizationCodes.delete fun c => x.codes c.id).delete _ } : Store) = _
    rw [← hcodes]
    rfl
  | revokeAuthorizationCode id =>
    have hcodes := Table.delete_update (t := s.authorizationCodes) (p := fun c => c.id == id)
      (g := fun c => x.codes c.id) (f := fun c => { c with isRevoked := some true }) (fun _ => rfl)
      fun _ => rfl
    refine Prod.ext rfl ?_
    show ({ s.cleaned x log with
      authorizationCodes := (s.authorizationCodes.delete fun c => x.codes c.id).update _ _ _ } : Store) = _
    rw [← hcodes]
    rfl
  | revokeAccessToken id =>
    refine Prod.ext rfl ?_
    show ({ s.cleaned x log with
      accessTokens := (s.accessTokens.delete fun a => x.tokens a.id).update _ _ _ } : Store) = _
    rw [hrevoke]
    rfl
  | revokeAccessTokensByClient clientID =>
    refine Prod.ext rfl ?_
    show ({ s.cleaned x log with
      accessTokens := (s.accessTokens.delete fun a => x.tokens a.id).update _ _ _ } : Store) = _
    rw [hrevoke]
    rfl
  | revokeAccessTokensByUser userID =>
    refine Prod.ext rfl ?_
    show ({ s.cleaned x log with
      accessTokens := (s.accessTokens.delete fun a => x.tokens a.id).update _ _ _ } : Store) = _
    rw [hrevoke]
    rfl
  | revokeRefreshToken id reason =>
    exact Prod.ext rfl (unlink_update (fun r => r.id == id) (.revoke now reason) (fun _ => rfl) (fun _ => rfl)
      (fun _ => rfl) fun _ => rfl).symm
  | revokeRefreshTokenFamily tokenFamilyID reason =>
    exact Prod.ext rfl (unlink_update (fun r => r.tokenFamilyID == tokenFamilyID) (.revoke now reason)
      (fun _ => rfl) (fun _ => rfl) (fun _ => rfl) fun _ => rfl).symm
  | markRefreshTokenUsed id =>
    exact Prod.ext rfl (unlink_update (fun r => r.id == id) (.markUsed now) (fun _ => rfl) (fun _ => rfl)
      (fun _ => rfl) fun _ => rfl).symm
  | revokeRefreshTokensByUser userID reason =>
    exact Prod.ext rfl (unlink_update (fun r => r.userID == userID && !r.isRevoked) (.revoke now reason)
      (fun _ => rfl) (fun _ => rfl) (fun _ => rfl) fun _ => rfl).symm
  | getAuthorizationCode | getAuthorizationCodeByID | listAuthorizationCodes | countAuthorizationCodes
  | createAuthorizationCode | markAuthorizationCodeUsed | deleteExpiredAuthorizationCodes | getAccessToken
  | getAccessTokenByID | listAccessTokens | countAccessTokens | createAccessToken
  | deleteExpiredAccessTokens | createRefreshToken | getRefreshTokenByHash | createAuditLogEntry => cases hq
  | _ => rfl

end Blind

/-! ### What was removed stays expired -/

section Requests

variable {x : Removed} {t : Time} {w w' : World} {q : Request} {d : Draw}

/-- The identifier of a new access token is not one of a row that was removed. -/
def Request.Spares (x : Removed) : Request → Draw → Prop
  | .sql (.createAccessToken _), d => x.tokens d.uuid = false
  | .sql (.createAuthorizationCode _), _ => False
  | .sql .deleteExpiredAccessTokens, _ => False
  | _, _ => True

theorem Removed.Expired.respond (h : x.Expired w.db t) (hq : q.Spares x d) :
    x.Expired (respond q d w).2.db t := by
  constructor
  · intro c' hc' hx
    rcases respond_authorizationCode_origin hc' with ⟨c, hc, hlater, _, hexp⟩ | ⟨p, rfl, _⟩
    · rw [hexp]
      exact h.codes c hc (hlater.id ▸ hx)
    · exact hq.elim
  · intro a' ha' hx
    rcases respond_accessToken_origin ha' with ⟨a, ha, hlater⟩ | ⟨p, rfl, rfl⟩
    · rw [hlater.expiresAt]
      exact h.tokens a ha (hlater.id ▸ hx)
    · -- a row that was inserted is none of those that were removed
      have hnot : x.tokens d.uuid = false := hq
      rw [show (p.row (w.wait d.wait).now d.uuid).id = d.uuid from rfl, hnot] at hx
      cases hx
  · intro id hx
    obtain ⟨a, ha, rfl⟩ := h.present id hx
    have hne : q ≠ .sql .deleteExpiredAccessTokens := by
      rintro rfl
      exact hq.elim
    obtain ⟨a', ha', hlater⟩ := respond_accessTokens (d := d) hne a ha
    exact ⟨a', ha', hlater.id⟩

theorem Request.Blind.spares (h : q.Blind) (d : Draw) : q.Spares x d := by
  cases q with
  | sql q =>
    cases q with
    | createAccessToken | createAuthorizationCode | deleteExpiredAccessTokens => cases h
    | _ => trivial
  | _ => trivial

/-- A statement that commutes with leaving the rows out has the same answer and keeps the relation. -/
theorem World.Trails.respond_of_exec {q : Query} (h : w.Trails x t w') (hq : Request.Spares x (.sql q) d)
    (hexec : ∀ log, q.exec (w.wait d.wait).now d.uuid (w.db.cleaned x log) =
      ((q.exec (w.wait d.wait).now d.uuid w.db).1, (q.exec (w.wait d.wait).now d.uuid w.db).2.cleaned x log)) :
    (respond (.sql q) d w').1 = (respond (.sql q) d w).1 ∧
      World.Trails x t (respond (.sql q) d w).2 (respond (.sql q) d w').2 := by
  obtain ⟨log, rfl⟩ := h.eq
  have heq : respond (.sql q) d (w.cleaned x log) =
      ((respond (.sql q) d w).1, (respond (.sql q) d w).2.cleaned x log) := by
    cases hf : d.fault with
    | true =>
      rw [respond_sql_fault q hf, respond_sql_fault q hf]
      rfl
    | false =>
      rw [respond_sql q hf, respond_sql q hf]
      show ((q.exec (w.wait d.wait).now d.uuid (w.db.cleaned x log)).1,
        World.mk _ (q.exec (w.wait d.wait).now d.uuid (w.db.cleaned x log)).2) = _
      rw [hexec log]
      rfl
  rw [heq]
  exact ⟨rfl, h.since.trans (le_now_respond (.sql q) d w), h.expired.respond hq, log, rfl⟩

theorem World.Trails.wait (h : w.Trails x t w') (n : ℕ) : (w.wait n).Trails x t (w'.wait n) := by
  obtain ⟨log, rfl⟩ := h.eq
  refine ⟨h.since.trans ?_, h.expired, log, rfl⟩
  exact le_add_of_nonneg_right (Int.natCast_nonneg n)

/-- **A blind request.** -/
theorem World.Trails.blind (h : w.Trails x t w') (hq : q.Blind) (d : Draw) :
    (respond q d w').1 = (respond q d w).1 ∧ World.Trails x t (respond q d w).2 (respond q d w').2 := by
  cases q with
  | sql q => exact h.respond_of_exec (hq.spares d) fun log => Query.exec_cleaned hq x log _ _ _
  | now =>
    refine ⟨?_, h.wait d.wait⟩
    obtain ⟨log, rfl⟩ := h.eq
    rfl
  | _ => exact ⟨rfl, h.wait d.wait⟩

/-- An audit event: the logs may differ before and after it. -/
theorem World.Trails.audit (h : w.Trails x t w') (p : CreateAuditLogEntryParams) (d : Draw) :
    World.Trails x t (respond (.sql (.createAuditLogEntry p)) d w).2
      (respond (.sql (.createAuditLogEntry p)) d w').2 := by
  obtain ⟨log, rfl⟩ := h.eq
  refine ⟨h.since.trans (le_now_respond _ d w), h.expired.respond trivial, ?_⟩
  cases hf : d.fault with
  | true =>
    rw [respond_sql_fault _ hf, respond_sql_fault _ hf]
    exact ⟨log, rfl⟩
  | false =>
    rw [respond_sql _ hf, respond_sql _ hf]
    exact ⟨_, rfl⟩

end Requests

/-! ### Reading codes and tokens -/

/-- A look-up by a unique column, in a table and in the rest of it. -/
theorem selectOne_delete {ρ : Type} [Keyed ρ] {t : Table ρ} {g p : ρ → Bool}
    (huniq : ∀ a b, p a = true → p b = true → Keyed.clash (Keyed.key a) (Keyed.key b) = true) :
    (selectOne (t.delete g) p = selectOne t p ∧ ∀ r, selectOne t p = .ok r → g r = false) ∨
      ∃ r, selectOne t p = .ok r ∧ g r = true ∧ selectOne (t.delete g) p = .error .noRows := by
  unfold selectOne
  rw [Table.select_delete huniq]
  cases hsel : t.select p with
  | none => exact Or.inl ⟨rfl, fun r hr => (by cases hr)⟩
  | some r =>
    rw [Option.filter_some]
    cases hg : g r with
    | false =>
      refine Or.inl ⟨rfl, fun r' hr' => ?_⟩
      obtain rfl := Except.ok.inj hr'
      exact hg
    | true => exact Or.inr ⟨r, rfl, hg, rfl⟩

section Reading

variable {x : Removed} {t : Time} {w w' : World} {q : Request}

theorem World.Trails.read (h : w.Trails x t w') (hq : q.Reads) (d : Draw) :
    World.Trails x t (respond q d w).2 (respond q d w').2 := by
  rw [respond_reads_world hq, respond_reads_world hq]
  exact h.wait d.wait

variable (h : w.Trails x t w') (d : Draw)
include h

/-- **The look-up of a code** finds the same row, or one that had expired and was removed. -/
theorem World.Trails.getAuthorizationCode (code : String) :
    ((respond (.sql (.getAuthorizationCode code)) d w').1 =
        (respond (.sql (.getAuthorizationCode code)) d w).1 ∧
      ∀ c, (respond (.sql (.getAuthorizationCode code)) d w).1 = .ok c → x.codes c.id = false) ∨
    ∃ c, (respond (.sql (.getAuthorizationCode code)) d w).1 = .ok c ∧ c.expiresAt < t ∧
      (respond (.sql (.getAuthorizationCode code)) d w').1 = .error .noRows := by
  obtain ⟨log, rfl⟩ := h.eq
  cases hf : d.fault with
  | true =>
    rw [respond_sql_fault _ hf, respond_sql_fault _ hf]
    exact Or.inl ⟨rfl, fun c hc => (by cases hc)⟩
  | false =>
    rw [respond_sql _ hf, respond_sql _ hf]
    have hboth := selectOne_delete (t := w.db.authorizationCodes) (g := fun c => x.codes c.id)
      (p := fun c => c.code == code) fun a b ha hb => by
        simp [Keyed.clash, Keyed.key, beq_iff_eq.mp ha, beq_iff_eq.mp hb]
    rcases hboth with hsame | ⟨c, hc, hx, hnone⟩
    · exact Or.inl hsame
    · exact Or.inr ⟨c, hc, h.expired.codes c (selectOne_ok hc).1 hx, hnone⟩

/-- **The look-up of an access token** finds the same row, or one that had expired and was removed. -/
theorem World.Trails.getAccessToken (tokenHash : String) :
    ((respond (.sql (.getAccessToken tokenHash)) d w').1 =
      (respond (.sql (.getAccessToken tokenHash)) d w).1) ∨
    ∃ a ∈ w.db.accessTokens.rows, a.tokenHash = tokenHash ∧ x.tokens a.id = true ∧
      (respond (.sql (.getAccessToken tokenHash)) d w).1 = .ok a ∧
      (respond (.sql (.getAccessToken tokenHash)) d w').1 = .error .noRows := by
  obtain ⟨log, rfl⟩ := h.eq
  cases hf : d.fault with
  | true =>
    rw [respond_sql_fault _ hf, respond_sql_fault _ hf]
    exact Or.inl rfl
  | false =>
    rw [respond_sql _ hf, respond_sql _ hf]
    have hboth := selectOne_delete (t := w.db.accessTokens) (g := fun a => x.tokens a.id)
      (p := fun a => a.tokenHash == tokenHash) fun a b ha hb => by
        simp [Keyed.clash, Keyed.key, beq_iff_eq.mp ha, beq_iff_eq.mp hb]
    rcases hboth with hsame | ⟨a, ha, hx, hnone⟩
    · exact Or.inl hsame.1
    · exact Or.inr ⟨a, (selectOne_ok ha).1, beq_iff_eq.mp (selectOne_ok ha).2, hx, ha, hnone⟩

theorem World.Trails.getAccessTokenByID {id : UUID} (hx : x.tokens id = false) :
    (respond (.sql (.getAccessTokenByID id)) d w').1 = (respond (.sql (.getAccessTokenByID id)) d w).1 := by
  obtain ⟨log, rfl⟩ := h.eq
  cases hf : d.fault with
  | true => rw [respond_sql_fault _ hf, respond_sql_fault _ hf]
  | false =>
    rw [respond_sql _ hf, respond_sql _ hf]
    have hboth := selectOne_delete (t := w.db.accessTokens) (g := fun a => x.tokens a.id)
      (p := fun a => a.id == id) fun a b ha hb => by
        simp [Keyed.clash, Keyed.key, beq_iff_eq.mp ha, beq_iff_eq.mp hb]
    rcases hboth with hsame | ⟨a, ha, hgone, _⟩
    · exact hsame.1
    · rw [beq_iff_eq.mp (selectOne_ok ha).2, hx] at hgone
      cases hgone

theorem World.Trails.getAuthorizationCodeByID {id : UUID} (hx : x.codes id = false) :
    (respond (.sql (.getAuthorizationCodeByID id)) d w').1 =
      (respond (.sql (.getAuthorizationCodeByID id)) d w).1 := by
  obtain ⟨log, rfl⟩ := h.eq
  cases hf : d.fault with
  | true => rw [respond_sql_fault _ hf, respond_sql_fault _ hf]
  | false =>
    rw [respond_sql _ hf, respond_sql _ hf]
    have hboth := selectOne_delete (t := w.db.authorizationCodes) (g := fun c => x.codes c.id)
      (p := fun c => c.id == id) fun a b ha hb => by
        simp [Keyed.clash, Keyed.key, beq_iff_eq.mp ha, beq_iff_eq.mp hb]
    rcases hboth with hsame | ⟨c, hc, hgone, _⟩
    · exact hsame.1
    · rw [beq_iff_eq.mp (selectOne_ok hc).2, hx] at hgone
      cases hgone

/-- **The look-up of a refresh token** finds the same row, up to the link. -/
theorem World.Trails.getRefreshTokenByHash (tokenHash : String) :
    (respond (.sql (.getRefreshTokenByHash tokenHash)) d w').1 =
      ((respond (.sql (.getRefreshTokenByHash tokenHash)) d w).1).map x.unlink := by
  obtain ⟨log, rfl⟩ := h.eq
  cases hf : d.fault with
  | true =>
    rw [respond_sql_fault _ hf, respond_sql_fault _ hf]
    rfl
  | false =>
    rw [respond_sql _ hf, respond_sql _ hf]
    have hsel := Table.select_update (t := w.db.refreshTokens) (p := fun r => r.accessTokenID.any x.tokens)
      (q := fun r => r.tokenHash == tokenHash) (f := fun r : RefreshToken => { r with accessTokenID := none })
      (fun _ => rfl) fun _ => rfl
    show selectOne (w.db.cleaned x log).refreshTokens _ = (selectOne w.db.refreshTokens _).map x.unlink
    unfold selectOne
    rw [show (w.db.cleaned x log).refreshTokens.select _ = _ from hsel]
    cases w.db.refreshTokens.select (fun r => r.tokenHash == tokenHash) <;> rfl

end Reading

/-! ### Writing codes and tokens -/

section Forms

variable {ρ : Type} [Keyed ρ] {t : Table ρ} {g p : ρ → Bool} {f : ρ → ρ}
  (hf : ∀ r, Keyed.key (f r) = Keyed.key r)

/-- An update of a row that is not left out. -/
theorem updateOne_delete
    (huniq : ∀ a b, p a = true → p b = true → Keyed.clash (Keyed.key a) (Keyed.key b) = true)
    (hg : ∀ r, g (f r) = g r) (hkept : ∀ r, p r = true → g r = false) :
    updateOne (t.delete g) p f hf = ((updateOne t p f hf).1, (updateOne t p f hf).2.delete g) := by
  have hsel : (t.delete g).select p = t.select p := by
    rw [Table.select_delete huniq]
    cases hr : t.select p with
    | none => rfl
    | some r =>
      rw [Option.filter_some, hkept r (Table.prop_of_select hr)]
      rfl
  refine Prod.ext ?_ (Table.delete_update hf hg).symm
  unfold updateOne Table.returning
  rw [hsel]

/-- An insert, in a table and in the rest of it. -/
theorem insertOne_delete {r : ρ} (hg : g r = false)
    (hkept : ∀ a ∈ t.rows, Keyed.clash (Keyed.key a) (Keyed.key r) = true → g a = false) (fk : Bool) :
    insertOne (t.delete g) fk r = ((insertOne t fk r).1, (insertOne t fk r).2.delete g) := by
  unfold insertOne
  rw [Table.insert_delete hg hkept]
  cases t.insert r with
  | none => rfl
  | some u => cases fk <;> rfl

theorem insertOne_update {r : ρ} (hp : p r = false) (fk : Bool) :
    insertOne (t.update p f hf) fk r = ((insertOne t fk r).1, (insertOne t fk r).2.update p f hf) := by
  unfold insertOne
  rw [Table.insert_update hf hp]
  cases t.insert r with
  | none => rfl
  | some u => cases fk <;> rfl

end Forms

section Writing

variable {x : Removed} {t : Time} {w w' : World} (h : w.Trails x t w') {d : Draw}
include h

/-- A code that is still there is marked. -/
theorem World.Trails.markAuthorizationCodeUsed {id : UUID} (hx : x.codes id = false) :
    (respond (.sql (.markAuthorizationCodeUsed id)) d w').1 =
        (respond (.sql (.markAuthorizationCodeUsed id)) d w).1 ∧
      World.Trails x t (respond (.sql (.markAuthorizationCodeUsed id)) d w).2
        (respond (.sql (.markAuthorizationCodeUsed id)) d w').2 := by
  refine h.respond_of_exec trivial fun log => ?_
  have hupd := updateOne_delete (t := w.db.authorizationCodes) (p := fun c => c.id == id)
    (g := fun c => x.codes c.id) (f := fun c => { c with usedAt := some (w.wait d.wait).now }) (fun _ => rfl)
    (fun a b ha hb => by simp [Keyed.clash, Keyed.key, beq_iff_eq.mp ha, beq_iff_eq.mp hb]) (fun _ => rfl)
    fun c hc => by rw [beq_iff_eq.mp hc, hx]
  have hreply := congrArg Prod.fst hupd
  have hrows := congrArg Prod.snd hupd
  exact Prod.ext hreply (congrArg (fun u => { w.db.cleaned x log with authorizationCodes := u }) hrows)

/-- **A new access token** that clashes with no row that was removed. -/
theorem World.Trails.createAccessToken {p : CreateAccessTokenParams} (hid : x.tokens d.uuid = false)
    (hfree : ∀ a ∈ w.db.accessTokens.rows, x.tokens a.id = true → a.tokenHash ≠ p.tokenHash) :
    (respond (.sql (.createAccessToken p)) d w').1 = (respond (.sql (.createAccessToken p)) d w).1 ∧
      World.Trails x t (respond (.sql (.createAccessToken p)) d w).2
        (respond (.sql (.createAccessToken p)) d w').2 := by
  refine h.respond_of_exec hid fun log => ?_
  have hins := insertOne_delete (t := w.db.accessTokens) (g := fun a => x.tokens a.id)
    (r := p.row (w.wait d.wait).now d.uuid) hid (fun a ha hclash => by
      -- neither the identifier nor the hash is that of a row that was removed
      by_contra hx
      rw [Bool.not_eq_false] at hx
      have hhash := hfree a ha hx
      have hne : a.id ≠ d.uuid := by
        intro heq
        rw [heq, hid] at hx
        cases hx
      simp [Keyed.clash, Keyed.key, CreateAccessTokenParams.row, hne, hhash] at hclash)
    (p.clientID.all (fun id => Refers w.db.clients fun c => c.id == id) &&
      Refers w.db.users fun u => u.id == p.userID)
  have hreply := congrArg Prod.fst hins
  have hrows := congrArg Prod.snd hins
  exact Prod.ext hreply (congrArg (fun u => { w.db.cleaned x log with accessTokens := u }) hrows)

/-- **A new refresh token** for an access token that is still there. -/
theorem World.Trails.createRefreshToken {p : CreateRefreshTokenParams} (hx : x.tokens p.accessTokenID = false) :
    (respond (.sql (.createRefreshToken p)) d w').1 = (respond (.sql (.createRefreshToken p)) d w).1 ∧
      World.Trails x t (respond (.sql (.createRefreshToken p)) d w).2
        (respond (.sql (.createRefreshToken p)) d w').2 := by
  refine h.respond_of_exec trivial fun log => ?_
  -- the rows that the foreign keys refer to are there in both
  have haccess : Refers (w.db.cleaned x log).accessTokens (fun a => a.id == p.accessTokenID) =
      Refers w.db.accessTokens fun a => a.id == p.accessTokenID := by
    rw [Bool.eq_iff_iff, refers_iff, refers_iff]
    constructor
    · rintro ⟨a, ha, hid⟩
      exact ⟨a, (Table.mem_delete.mp ha).1, hid⟩
    · rintro ⟨a, ha, hid⟩
      exact ⟨a, Table.mem_delete.mpr ⟨ha, by rw [beq_iff_eq.mp hid, hx]⟩, hid⟩
  have hprevious : ∀ id, Refers (w.db.cleaned x log).refreshTokens (fun r => r.id == id) =
      Refers w.db.refreshTokens fun r => r.id == id := by
    intro id
    show (w.db.refreshTokens.rows.map _).any _ = w.db.refreshTokens.rows.any _
    rw [List.any_map]
    congr 1
    funext r
    show ((if _ then _ else _ : RefreshToken).id == id) = _
    split <;> rfl
  have hins := insertOne_update (t := w.db.refreshTokens) (p := fun r => r.accessTokenID.any x.tokens)
    (f := fun r : RefreshToken => { r with accessTokenID := none }) (fun _ => rfl)
    (r := p.row (w.wait d.wait).now d.uuid) hx
    (Refers w.db.clients (fun c => c.id == p.clientID) && Refers w.db.users (fun u => u.id == p.userID) &&
      Refers w.db.accessTokens (fun t => t.id == p.accessTokenID) &&
      p.previousTokenID.all fun id => Refers w.db.refreshTokens fun t => t.id == id)
  simp only [Query.exec, haccess, hprevious]
  have hreply := congrArg Prod.fst hins
  have hrows := congrArg Prod.snd hins
  exact Prod.ext hreply (congrArg (fun u => { w.db.cleaned x log with refreshTokens := u }) hrows)

end Writing

/-! ### Between requests

The run without cleanups may go on alone for a while, on rows that the other one does not have any more. Its
clock is then ahead until the next request sets both. -/

/-- As `Trails`, without the clocks. -/
structure World.Behind (x : Removed) (t : Time) (w w' : World) : Prop where
  expired : x.Expired w.db t
  eq : ∃ log, w'.db = w.db.cleaned x log

/-- The request changes nothing but the audit log and what was removed. -/
def Request.Idle (x : Removed) : Request → Prop
  | .sql (.createAuditLogEntry _) => True
  | .sql (.revokeAccessToken id) => x.tokens id = true
  | .sql (.revokeAuthorizationCode id) => x.codes id = true
  | q => q.Reads

section Between

variable {x : Removed} {t : Time} {w w' : World} {q : Request}

theorem World.Trails.behind (h : w.Trails x t w') : w.Behind x t w' := by
  obtain ⟨log, rfl⟩ := h.eq
  exact ⟨h.expired, log, rfl⟩

/-- At the start nothing has been removed. -/
theorem World.Behind.start (w : World) : World.Behind ⟨fun _ => false, fun _ => false⟩ w.now w w := by
  have hcodes : w.db.authorizationCodes.delete (fun _ => false) = w.db.authorizationCodes :=
    Table.ext (List.filter_eq_self.mpr fun _ _ => rfl)
  have htokens : w.db.accessTokens.delete (fun _ => false) = w.db.accessTokens :=
    Table.ext (List.filter_eq_self.mpr fun _ _ => rfl)
  have hlinks : w.db.refreshTokens.update (fun r => r.accessTokenID.any fun _ => false)
      (fun r => { r with accessTokenID := none }) (fun _ => rfl) = w.db.refreshTokens := by
    refine Table.ext ((List.map_congr_left fun r _ => ?_).trans (List.map_id _))
    refine if_neg (Bool.eq_false_iff.mp ?_)
    cases hlink : r.accessTokenID <;> simp [hlink]
  refine ⟨⟨fun _ _ h => (by cases h), fun _ _ h => (by cases h), fun _ h => (by cases h)⟩, w.db.auditLog, ?_⟩
  unfold Store.cleaned
  rw [hcodes, htokens, hlinks]

/-- Both clocks are set to the time of the next request. -/
theorem World.Behind.trails (h : w.Behind x t w') {now : Time} (hle : t ≤ now) :
    World.Trails x t ⟨now, w.db⟩ ⟨now, w'.db⟩ := by
  obtain ⟨log, heq⟩ := h.eq
  exact ⟨hle, h.expired, log, by rw [heq]; rfl⟩

theorem Request.Idle.spares (h : q.Idle x) (d : Draw) : q.Spares x d := by
  cases q with
  | sql q =>
    cases q with
    | createAccessToken | createAuthorizationCode | deleteExpiredAccessTokens => cases h
    | _ => trivial
  | _ => trivial

/-- A statement of an idle request does not show in what is left of the store. -/
theorem Query.exec_idle {q : Query} (h : Request.Idle x (.sql q)) (log : Table AuditLog) (now : Time)
    (fresh : UUID) (s : Store) : (q.exec now fresh s).2.cleaned x log = s.cleaned x log := by
  cases q with
  | createAuditLogEntry p => rfl
  | revokeAccessToken id =>
    have htokens := Table.delete_update_of_left (t := s.accessTokens) (p := fun a => a.id == id)
      (g := fun a => x.tokens a.id) (f := AccessToken.revoke) (fun _ => rfl) (fun _ => rfl)
      fun a ha => by rw [beq_iff_eq.mp ha]; exact h
    exact congrArg (fun u => { s.cleaned x log with accessTokens := u }) htokens
  | revokeAuthorizationCode id =>
    have hcodes := Table.delete_update_of_left (t := s.authorizationCodes) (p := fun c => c.id == id)
      (g := fun c => x.codes c.id) (f := fun c => { c with isRevoked := some true }) (fun _ => rfl)
      (fun _ => rfl) fun c hc => by rw [beq_iff_eq.mp hc]; exact h
    exact congrArg (fun u => { s.cleaned x log with authorizationCodes := u }) hcodes
  | _ => rw [Query.exec_of_reads h]

/-- **A step of one run alone.** -/
theorem World.Behind.left (h : w.Behind x t w') (hq : q.Idle x) (d : Draw) :
    World.Behind x t (respond q d w).2 w' := by
  refine ⟨h.expired.respond (hq.spares d), ?_⟩
  obtain ⟨log, heq⟩ := h.eq
  rcases respond_db q d w with ⟨_, hdb⟩ | ⟨q', rfl, _, hdb⟩
  · exact ⟨log, by rw [hdb, heq]⟩
  · exact ⟨log, by rw [hdb, Query.exec_idle hq, heq]⟩

theorem World.Behind.right (h : w.Behind x t w') (hq : q.Idle x) (d : Draw) :
    World.Behind x t w (respond q d w').2 := by
  refine ⟨h.expired, ?_⟩
  obtain ⟨log, heq⟩ := h.eq
  rcases respond_db q d w' with ⟨_, hdb⟩ | ⟨q', rfl, _, hdb⟩
  · exact ⟨log, by rw [hdb, heq]⟩
  · cases q' with
    | createAuditLogEntry p => exact ⟨_, by rw [hdb, heq]; rfl⟩
    | revokeAccessToken id | revokeAuthorizationCode id =>
      exact ⟨log, by rw [hdb, heq, Query.exec_cleaned rfl, Query.exec_idle hq]⟩
    | _ => exact ⟨log, by rw [hdb, Query.exec_of_reads hq, heq]⟩

/-- Two calls that each touch what was removed only. -/
theorem alike_of_idle {α β : Type} {C : (q : Request) → Draw → World → Prop} {p : Call α} {p' : Call β}
    (hp : p.Only (Request.Idle x)) (hp' : p'.Only (Request.Idle x)) (h : w.Behind x t w') :
    p.Alike backend C (fun _ w _ w' => World.Behind x t w w') p' w w' :=
  Prog.Alike.of_only (B := backend) (J := World.Behind x t) (fun _ d _ _ hq h => h.left hq d)
    (fun _ d _ _ hq h => h.right hq d) hp hp' h

theorem Request.Reads.idle (h : q.Reads) : q.Idle x := by
  cases q with
  | sql q =>
    cases q with
    | createAuditLogEntry | revokeAccessToken | revokeAuthorizationCode => cases h
    | _ => exact h
  | _ => trivial

end Between

/-! ### The cleanups -/

/-- What has been removed after one more cleanup of the codes. -/
def Removed.andCodes (x : Removed) (s : Store) (now : Time) : Removed :=
  { x with codes := fun id =>
      x.codes id || s.authorizationCodes.rows.any fun c => decide (c.expiresAt < now) && c.id == id }

/-- What has been removed after one more cleanup of the access tokens. -/
def Removed.andTokens (x : Removed) (s : Store) (now : Time) : Removed :=
  { x with tokens := fun id =>
      x.tokens id || s.accessTokens.rows.any fun a => decide (a.expiresAt < now) && a.id == id }

section Cleanups

variable {x : Removed} {s : Store} {log : Table AuditLog} {now t : Time} {fresh : UUID}

theorem Removed.andCodes_of_mem {c : AuthorizationCode} (hc : c ∈ s.authorizationCodes.rows) :
    (x.andCodes s now).codes c.id = (x.codes c.id || decide (c.expiresAt < now)) := by
  refine congrArg (x.codes c.id || ·) ?_
  rw [Bool.eq_iff_iff, List.any_eq_true]
  constructor
  · rintro ⟨b, hb, hboth⟩
    rw [Bool.and_eq_true, beq_iff_eq] at hboth
    -- the row with the identifier of `c` is `c`
    obtain rfl : b = c := Table.eq_of_clash hb hc (by simp [Keyed.clash, Keyed.key, hboth.2])
    exact hboth.1
  · intro hexp
    exact ⟨c, hc, by rw [hexp, beq_self_eq_true]; rfl⟩

theorem Removed.andTokens_of_mem {a : AccessToken} (ha : a ∈ s.accessTokens.rows) :
    (x.andTokens s now).tokens a.id = (x.tokens a.id || decide (a.expiresAt < now)) := by
  refine congrArg (x.tokens a.id || ·) ?_
  rw [Bool.eq_iff_iff, List.any_eq_true]
  constructor
  · rintro ⟨b, hb, hboth⟩
    rw [Bool.and_eq_true, beq_iff_eq] at hboth
    obtain rfl : b = a := Table.eq_of_clash hb ha (by simp [Keyed.clash, Keyed.key, hboth.2])
    exact hboth.1
  · intro hexp
    exact ⟨a, ha, by rw [hexp, beq_self_eq_true]; rfl⟩

theorem Removed.Expired.andCodes (h : x.Expired s t) (hle : t ≤ now) : (x.andCodes s now).Expired s now where
  codes c hc hx := by
    rw [Removed.andCodes_of_mem hc, Bool.or_eq_true, decide_eq_true_iff] at hx
    rcases hx with hx | hexp
    · exact (h.codes c hc hx).trans_le hle
    · exact hexp
  tokens := (h.later hle).tokens
  present := h.present

theorem Removed.Expired.andTokens (h : x.Expired s t) (hle : t ≤ now) : (x.andTokens s now).Expired s now where
  codes := (h.later hle).codes
  tokens a ha hx := by
    rw [Removed.andTokens_of_mem ha, Bool.or_eq_true, decide_eq_true_iff] at hx
    rcases hx with hx | hexp
    · exact (h.tokens a ha hx).trans_le hle
    · exact hexp
  present id hx := by
    rw [Removed.andTokens, Bool.or_eq_true, List.any_eq_true] at hx
    rcases hx with hx | ⟨a, ha, hboth⟩
    · exact h.present id hx
    · rw [Bool.and_eq_true, beq_iff_eq] at hboth
      exact ⟨a, ha, hboth.2⟩

/-- **A cleanup of the codes**, in a store that has been cleaned before. -/
theorem cleanupCodes_cleaned : (Query.deleteExpiredAuthorizationCodes.exec now fresh (s.cleaned x log)).2 =
      s.cleaned (x.andCodes s now) log := by
  have hcodes : (s.authorizationCodes.delete fun c => x.codes c.id).delete
      (fun c => decide (c.expiresAt < now)) =
        s.authorizationCodes.delete fun c => (x.andCodes s now).codes c.id := by
    refine Table.ext ?_
    show (s.authorizationCodes.rows.filter _).filter _ = s.authorizationCodes.rows.filter _
    rw [List.filter_filter]
    refine List.filter_congr fun c hc => ?_
    dsimp only
    rw [Removed.andCodes_of_mem hc, Bool.not_or, Bool.and_comm]
  exact congrArg (fun u => { s.cleaned x log with authorizationCodes := u }) hcodes

/-- **A cleanup of the access tokens**, in a store that has been cleaned before. -/
theorem cleanupTokens_cleaned :
    (s.cleaned x log).deleteExpiredAccessTokens now = s.cleaned (x.andTokens s now) log := by
  have htokens : (s.accessTokens.delete fun a => x.tokens a.id).delete (fun a => decide (a.expiresAt < now)) =
        s.accessTokens.delete fun a => (x.andTokens s now).tokens a.id := by
    refine Table.ext ?_
    show (s.accessTokens.rows.filter _).filter _ = s.accessTokens.rows.filter _
    rw [List.filter_filter]
    refine List.filter_congr fun a ha => ?_
    dsimp only
    rw [Removed.andTokens_of_mem ha, Bool.not_or, Bool.and_comm]
  -- a link is cleared by this cleanup or by one before it
  have hgone : ∀ id, x.tokens id = false → ((s.accessTokens.delete fun a => x.tokens a.id).rows.any fun a =>
        decide (a.expiresAt < now) && a.id == id) =
        s.accessTokens.rows.any fun a => decide (a.expiresAt < now) && a.id == id := by
    intro id hx
    rw [Bool.eq_iff_iff, List.any_eq_true, List.any_eq_true]
    constructor
    · rintro ⟨a, ha, hboth⟩
      exact ⟨a, (Table.mem_delete.mp ha).1, hboth⟩
    · rintro ⟨a, ha, hboth⟩
      have hid : a.id = id := beq_iff_eq.mp (Bool.and_eq_true_iff.mp hboth).2
      exact ⟨a, Table.mem_delete.mpr ⟨ha, by rw [hid, hx]⟩, hboth⟩
  have hlinks : ((s.cleaned x log).deleteExpiredAccessTokens now).refreshTokens =
      (s.cleaned (x.andTokens s now) log).refreshTokens := by
    refine Table.ext ?_
    show (s.refreshTokens.rows.map _).map _ = s.refreshTokens.rows.map _
    rw [List.map_map]
    refine List.map_congr_left fun r _ => ?_
    cases hlink : r.accessTokenID with
    | none => simp [hlink]
    | some id =>
      cases hx : x.tokens id with
      | true => simp [hlink, hx, Removed.andTokens]
      | false =>
        have hnew : (x.andTokens s now).tokens id =
            (s.accessTokens.delete fun a => x.tokens a.id).rows.any fun a =>
              decide (a.expiresAt < now) && a.id == id := by
          rw [hgone id hx]
          show (x.tokens id || _) = _
          rw [hx, Bool.false_or]
        simp only [Function.comp_apply, hlink, Option.any_some, hx, hnew, Bool.false_eq_true, if_false]
        rfl
  show ({ s.cleaned x log with
    accessTokens := (s.accessTokens.delete fun a => x.tokens a.id).delete _
    refreshTokens := ((s.cleaned x log).deleteExpiredAccessTokens now).refreshTokens } : Store) = _
  rw [htokens, hlinks]
  rfl

end Cleanups

end GoauthServer
