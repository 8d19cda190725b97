import GoauthServer.Spec.Apart
import GoauthServer.Spec.Log
import GoauthServer.Transport.AdminHandlers

/-!
# What a call writes to the audit log

Four statements revoke refresh tokens, and one lifts a lock. A call that has executed one of them owes an
entry (`Event.Accounted`), and here is which calls pay: the revocation of a token by a client, replay
detection, a change of password, the two handlers of an administrator, and a rotation that ends well.
The others execute none of these statements (`Plain`), or are `Silent`: a logout revokes without an entry.

What a call owes depends on the rows it has read, so the statements are about logs. That the rows that a
statement changes are the rows that the call has read is for `Safety/AuditTrail.lean`.
-/

namespace GoauthServer

open Interact

variable {q : Request} {e : Event effects} {l : Log effects} {p : CreateAuditLogEntryParams}
  {β : Type} {op : AuditedOperation} {g : β → AuditedReply}

/-! ### Entries -/

/-- The entry that the call wants to be written. -/
def Event.asked? : Event effects → Option CreateAuditLogEntryParams
  | ⟨.sql (.createAuditLogEntry p), _⟩ => some p
  | _ => none

/-- The call has asked for the entry `p`. -/
def Asked (log : Log effects) (p : CreateAuditLogEntryParams) : Prop :=
  ∃ e ∈ log, Event.asked? e = some p

/-- The call has asked for an entry that names the user. -/
def Names (log : Log effects) (userID : UUID) : Prop := ∃ p, Asked log p ∧ p.userID = userID

/-- The call has read this refresh token. -/
def HasRead (log : Log effects) (t : RefreshToken) : Prop := ∃ e ∈ log, Event.record? e = some t

/-- The call has loaded the user `u` under the id `id`. -/
def HasLoaded (log : Log effects) (id : UUID) (u : User) : Prop :=
  (⟨.sql (.getUserByID id), .ok u⟩ : Event effects) ∈ log

section Head

variable {log : Log effects}

theorem asked_head (p : CreateAuditLogEntryParams) (r : (Request.sql (.createAuditLogEntry p)).Reply) :
    Asked ((⟨.sql (.createAuditLogEntry p), r⟩ : Event effects) :: log) p :=
  ⟨_, List.mem_cons_self, rfl⟩

theorem hasRead_head (hash : String) (t : RefreshToken) :
    HasRead ((⟨.sql (.getRefreshTokenByHash hash), .ok t⟩ : Event effects) :: log) t :=
  ⟨_, List.mem_cons_self, rfl⟩

theorem not_hasRead_nil {t : RefreshToken} : ¬ HasRead [] t := by
  rintro ⟨e, hmem, _⟩
  exact absurd hmem (by simp)

end Head

/-- What an event obliges the call to, by the end of it. `silent` calls owe nothing for the refresh
tokens of a user and for a lock. -/
def Event.Accounted (silent : Prop) (log : Log effects) : Event effects → Prop
  | ⟨.sql (.revokeRefreshToken id _), .ok _⟩ =>
    ∀ t, HasRead log t → t.id = id → Names log t.userID
  | ⟨.sql (.revokeRefreshTokenFamily tokenFamilyID _), _⟩ =>
    ∀ t, HasRead log t → t.tokenFamilyID = tokenFamilyID → Names log t.userID
  | ⟨.sql (.markRefreshTokenUsed id), .ok _⟩ =>
    ∀ t, HasRead log t → t.id = id → ∃ u, HasLoaded log t.userID u ∧ Names log u.id
  | ⟨.sql (.revokeRefreshTokensByUser userID _), .ok _⟩ => silent ∨ Names log userID
  | ⟨.sql (.unlockUserAccount userID), .ok _⟩ =>
    silent ∨ ∃ p, Asked log p ∧ p.eventType = .accountUnlocked ∧ p.userID = userID
  | _ => True

/-- The call owes nothing. -/
def DebtFree (silent : Prop) (log : Log effects) : Prop := ∀ e ∈ log, Event.Accounted silent log e

theorem debtFree_nil (silent : Prop) : DebtFree silent [] := by
  intro e he
  exact absurd he (by simp)

/-- Before a call revokes a token by its id or its family, it has read that token. -/
def auditRequest : Request → Log effects → Prop
  | .sql (.revokeRefreshToken id _), log | .sql (.markRefreshTokenUsed id), log =>
    ∃ t, HasRead log t ∧ t.id = id
  | .sql (.revokeRefreshTokenFamily tokenFamilyID _), log =>
    ∃ t, HasRead log t ∧ t.tokenFamilyID = tokenFamilyID
  | _, _ => True

/-- The protocol of a call that leaves no debt. -/
def auditProtocol (silent : Prop) (α : Type) : Protocol effects α :=
  ⟨auditRequest, fun _ log => DebtFree silent log⟩

/-! ### Plain calls -/

/-- The statement neither reads nor revokes refresh tokens, and does not lock an account or unlock it on
purpose. -/
def Query.plain : Query → Bool
  | .revokeRefreshToken _ _ | .revokeRefreshTokenFamily _ _ | .markRefreshTokenUsed _
  | .revokeRefreshTokensByUser _ _ | .unlockUserAccount _ | .getRefreshTokenByHash _
  | .lockUserAccount _ _ => false
  | _ => true

/-- A request that is not one of these statements. -/
def Request.Plain : Request → Prop
  | .sql q => q.plain = true
  | _ => True

/-- A call all of whose requests are plain. -/
abbrev Plain {α : Type} (p : Call α) : Prop := p.Only Request.Plain

variable {α : Type} {silent : Prop} {log : Log effects}

theorem Apart.plain {p : Call α} (hp : Apart p) : Plain p := by
  refine hp.mono fun q hq => ?_
  cases q with
  | sql q => cases q <;> first | rfl | cases hq
  | _ => trivial

theorem Request.Plain.audit (hq : q.Plain) (log : Log effects) : auditRequest q log := by
  unfold auditRequest
  split
  · cases hq
  · cases hq
  · cases hq
  · trivial

/-- What is accounted for stays so, as long as no further token is read. -/
theorem Event.Accounted.grow (h : Event.Accounted silent log e)
    (hread : ∀ e ∈ l, Event.record? e = none) : Event.Accounted silent (l ++ log) e := by
  have hold : ∀ t, HasRead (l ++ log) t → HasRead log t := by
    rintro t ⟨e', hmem, he'⟩
    rcases List.mem_append.mp hmem with hmem | hmem
    · rw [hread e' hmem] at he'
      cases he'
    · exact ⟨e', hmem, he'⟩
  have hasked : ∀ p, Asked log p → Asked (l ++ log) p := by
    rintro p ⟨e', hmem, he'⟩
    exact ⟨e', List.mem_append_right l hmem, he'⟩
  have hnames : ∀ u, Names log u → Names (l ++ log) u := by
    rintro u ⟨p, hp, hu⟩
    exact ⟨p, hasked p hp, hu⟩
  unfold Event.Accounted at h ⊢
  split
  · exact fun t ht hid => hnames _ (h t (hold t ht) hid)
  · exact fun t ht hid => hnames _ (h t (hold t ht) hid)
  · intro t ht hid
    obtain ⟨u, hu, hn⟩ := h t (hold t ht) hid
    exact ⟨u, List.mem_append_right l hu, hnames _ hn⟩
  · exact h.imp_right (hnames _)
  · rcases h with h | ⟨p, hp, hrest⟩
    · exact Or.inl h
    · exact Or.inr ⟨p, hasked p hp, hrest⟩
  · trivial

/-- **No debt**, once the new events are accounted for. -/
theorem DebtFree.append (h : DebtFree silent log) (hread : ∀ e ∈ l, Event.record? e = none)
    (hnew : ∀ e ∈ l, Event.Accounted silent (l ++ log) e) : DebtFree silent (l ++ log) := by
  intro e he
  rcases List.mem_append.mp he with he | he
  · exact hnew e he
  · exact (h e he).grow hread

theorem Request.Plain.record? (hq : q.Plain) (r : q.Reply) : Event.record? ⟨q, r⟩ = none := by
  unfold Event.record?
  split
  · next heq =>
    cases heq
    cases hq
  · rfl

theorem Request.Plain.accounted (hq : q.Plain) (r : q.Reply) (log : Log effects) :
    Event.Accounted silent log ⟨q, r⟩ := by
  unfold Event.Accounted
  split
  iterate 5
    next heq =>
      cases heq
      cases hq
  trivial

/-- An event that obliges to nothing. -/
theorem DebtFree.free (h : DebtFree silent log) (hread : Event.record? e = none)
    (he : ∀ log, Event.Accounted silent log e) : DebtFree silent (e :: log) := by
  refine h.append (l := [e]) ?_ ?_
  · intro e' he'
    obtain rfl := List.mem_singleton.mp he'
    exact hread
  · intro e' he'
    obtain rfl := List.mem_singleton.mp he'
    exact he _

/-- A plain request makes no debt. -/
theorem DebtFree.cons (h : DebtFree silent log) (hq : q.Plain) (r : q.Reply) :
    DebtFree silent (⟨q, r⟩ :: log) :=
  h.free (hq.record? r) fun log => hq.accounted r log

/-- **A debt is paid** by the entry that follows it. -/
theorem DebtFree.paid (h : DebtFree silent log) (hread : Event.record? e = none)
    {r : (Request.sql (.createAuditLogEntry p)).Reply}
    (he : Event.Accounted silent (⟨.sql (.createAuditLogEntry p), r⟩ :: e :: log) e) :
    DebtFree silent (⟨.sql (.createAuditLogEntry p), r⟩ :: e :: log) := by
  refine h.append (l := [⟨.sql (.createAuditLogEntry p), r⟩, e]) ?_ ?_
  · intro e' he'
    rcases List.mem_pair.mp he' with rfl | rfl
    · rfl
    · exact hread
  · intro e' he'
    rcases List.mem_pair.mp he' with rfl | rfl
    · trivial
    · exact he

/-- **Plain calls.** They leave no debt where there is none. -/
theorem Plain.obeys {p : Call α} (hp : Plain p) (h : DebtFree silent log) :
    p.Obeys (auditProtocol silent α) log :=
  hp.obeys_of_stable (G := DebtFree silent) (fun _ r _ hq hlog => hlog.cons hq r)
    (fun _ log hq _ => hq.audit log) (fun _ _ hlog => hlog) h

theorem authenticateRevokeRequest_plain (env : Env) (authorization : String) :
    Plain (authenticateRevokeRequest env authorization) :=
  authenticateRevokeRequest_only trivial (fun _ => rfl) (fun _ => rfl) env authorization

theorem plain_of_issues {clientID : UUID} (q : Request) (hq : q.Issues clientID) : q.Plain := by
  cases q with
  | sql q => cases q <;> first | rfl | cases hq
  | _ => trivial

theorem exchangeCodeForToken_plain (env : Env) (code : String) (clientID : UUID)
    (clientSecret redirectURI : String) :
    Plain (exchangeCodeForToken env code clientID clientSecret redirectURI) :=
  exchangeCodeForToken_only (fun _ => rfl) (fun _ => rfl) (fun _ => rfl) (fun _ => rfl) plain_of_issues env code
    clientSecret redirectURI

theorem revokeToken_plain (tokenHash : String) : Plain (revokeToken tokenHash) :=
  revokeToken_only (fun _ => rfl) (fun _ => rfl) tokenHash

theorem revokeAnyAccessToken_plain (env : Env) (rawToken : String) :
    Plain (revokeAnyAccessToken env rawToken) :=
  revokeAnyAccessToken_only (fun _ => rfl) (fun _ => rfl) (fun _ => rfl) env rawToken

/-! ### Calls with a debt: revocation -/

section Debts

variable {env : Env} {record : RefreshToken} {hash : String} {user : User}

/-- The only refresh token the call has read is `record`. -/
def ReadsOnly (log : Log effects) (record : RefreshToken) : Prop :=
  HasRead log record ∧ ∀ t, HasRead log t → t = record

theorem ReadsOnly.append {l : Log effects} (h : ReadsOnly log record)
    (hread : ∀ e ∈ l, Event.record? e = none) : ReadsOnly (l ++ log) record := by
  refine ⟨?_, ?_⟩
  · obtain ⟨e, hmem, he⟩ := h.1
    exact ⟨e, List.mem_append_right l hmem, he⟩
  · rintro t ⟨e, hmem, he⟩
    rcases List.mem_append.mp hmem with hmem | hmem
    · rw [hread e hmem] at he
      cases he
    · exact h.2 t ⟨e, hmem, he⟩

/-- All requests so far were plain. -/
def PlainLog (log : Log effects) : Prop := ∀ e ∈ log, Request.Plain e.1

theorem plainLog_nil : PlainLog [] := by
  intro e he
  exact absurd he (by simp)

theorem not_hasRead_of_plain (hplain : PlainLog log) (t : RefreshToken) : ¬ HasRead log t := by
  rintro ⟨e, hmem, he⟩
  rw [(hplain e hmem).record? e.2] at he
  cases he

/-- The first look-up finds a token. -/
theorem readsOnly_lookup (hplain : PlainLog log) :
    ReadsOnly ((⟨.sql (.getRefreshTokenByHash hash), .ok record⟩ : Event effects) :: log) record := by
  refine ⟨hasRead_head hash record, ?_⟩
  rintro t ⟨e, hmem, he⟩
  rcases List.mem_cons.mp hmem with rfl | hmem
  · exact (Option.some.inj he).symm
  · exact absurd ⟨e, hmem, he⟩ (not_hasRead_of_plain hplain t)

theorem debtFree_of_plain (hplain : PlainLog log) : DebtFree silent log := by
  intro e he
  exact (hplain e he).accounted e.2 log

/-- A look-up by itself obliges to nothing. -/
theorem debtFree_lookup {r : (Request.sql (.getRefreshTokenByHash hash)).Reply} (hplain : PlainLog log) :
    DebtFree silent ((⟨.sql (.getRefreshTokenByHash hash), r⟩ : Event effects) :: log) := by
  intro e he
  rcases List.mem_cons.mp he with rfl | he
  · trivial
  · exact (hplain e he).accounted e.2 _

/-- A plain call leaves a plain log. -/
theorem Plain.obeys_plain {p : Call α} (hp : Plain p) (h : PlainLog log) :
    p.Obeys ⟨auditRequest, fun _ log => PlainLog log⟩ log := by
  refine hp.obeys_of_stable (G := PlainLog) ?_ (fun _ log hq _ => hq.audit log) (fun _ _ hlog => hlog) h
  intro q r log hq hlog
  exact List.forall_mem_cons.mpr ⟨hq, hlog⟩

variable (haud : env.audited = true)

include haud

/-- With an audit service, an event is a statement. -/
theorem logEvent_audited (entry : AuditEntry) (k : Call α) :
    env.logEvent entry k = Call.sql (.createAuditLogEntry entry.params) fun _ => k := if_pos haud

/-- The revocation of a refresh token names the user of that token. -/
theorem revokeRefreshTokenAndLinkedAccess_audit {rt : RefreshToken} (hread : ReadsOnly log rt)
    (h : DebtFree silent log) :
    (revokeRefreshTokenAndLinkedAccess env rt).Obeys (auditProtocol silent _) log := by
  unfold revokeRefreshTokenAndLinkedAccess
  split
  · exact h
  refine ⟨⟨rt, hread.1, rfl⟩, ?_⟩
  rintro (e | row)
  · exact h.free rfl fun _ => trivial
  · rw [logEvent_audited haud]
    have hlinked : Plain (revokeLinkedAccess env rt) :=
      revokeLinkedAccess_only (fun _ => rfl) (fun _ => rfl) (fun _ => rfl) env rt
    refine ⟨trivial, fun r => hlinked.obeys (h.paid rfl ?_)⟩
    -- whichever token the call has read, it is `rt`
    intro t ht _
    have hrt : t = rt := (hread.append (l := [_, _]) (by simp [Event.record?])).2 t ht
    rw [hrt]
    exact ⟨_, asked_head _ r, rfl⟩

theorem revokeAnyToken_audit (rawToken tokenTypeHint : String) (hplain : PlainLog log) :
    (revokeAnyToken env rawToken tokenTypeHint).Obeys (auditProtocol silent _) log := by
  unfold revokeAnyToken
  split
  · refine ⟨trivial, fun r => ?_⟩
    dsimp only
    split
    · exact revokeRefreshTokenAndLinkedAccess_audit haud (readsOnly_lookup hplain) (debtFree_lookup hplain)
    · exact (revokeAnyAccessToken_plain env rawToken).obeys (debtFree_lookup hplain)
    · exact debtFree_lookup hplain
  · exact (revokeAnyAccessToken_plain env rawToken).obeys (debtFree_of_plain hplain)

theorem revoke_audit (authorization : String) (form : Option (String × String)) :
    (revoke env authorization form).Obeys (auditProtocol silent _) [] := by
  refine ((authenticateRevokeRequest_plain env authorization).obeys_plain plainLog_nil).andThen
    (fun _ _ hq => hq) ?_
  intro valid log hplain
  cases valid with
  | false => exact debtFree_of_plain hplain
  | true =>
    dsimp only
    split
    · exact debtFree_of_plain hplain
    split
    · exact debtFree_of_plain hplain
    · exact (revokeAnyToken_audit haud _ _ hplain).andThen (fun _ _ hq => hq) fun _ _ hend => hend

/-! ### Calls with a debt: users -/

/-- The refresh tokens of a user are revoked, and an entry names the user. -/
theorem revokeUserSessions_audit (idParam : String) (actorID : Option UUID) :
    (revokeUserSessions env idParam actorID).Obeys (auditProtocol silent _) [] := by
  have hnil : DebtFree silent [] := debtFree_nil _
  unfold revokeUserSessions
  split
  · exact hnil
  refine ⟨trivial, fun r => ?_⟩
  have hget := hnil.cons (q := .sql (.getUserByID _)) rfl r
  rcases r with e | user
  · cases e <;> exact hget
  refine ⟨trivial, ?_⟩
  rintro (e | row)
  · exact hget.free rfl fun _ => trivial
  · show (env.logEvent _ _).Obeys _ _
    rw [logEvent_audited haud]
    exact ⟨trivial, fun r => hget.paid rfl (Or.inr ⟨_, asked_head _ r, rfl⟩)⟩

/-- The lock is lifted, and an entry says so. -/
theorem unlockUser_audit (idParam : String) (actorID : Option UUID) :
    (unlockUser env idParam actorID).Obeys (auditProtocol silent _) [] := by
  have hnil : DebtFree silent [] := debtFree_nil _
  unfold unlockUser
  split
  · exact hnil
  next id _ =>
  refine ⟨trivial, ?_⟩
  rintro (e | user)
  · have hfail : DebtFree silent [⟨.sql (.unlockUserAccount id), .error e⟩] :=
      hnil.free rfl fun _ => trivial
    cases e <;> exact hfail
  · show (env.logEvent _ _).Obeys _ _
    rw [logEvent_audited haud]
    exact ⟨trivial, fun r => hnil.paid rfl (Or.inr ⟨_, asked_head _ r, rfl, rfl⟩)⟩

/-- A change of password revokes the refresh tokens of the user, and names the user, whatever becomes of
the revocation. -/
theorem changePassword_audit (userID : UUID) (newPassword : String) (h : DebtFree silent log) :
    (changePassword env userID newPassword).Obeys (auditProtocol silent _) log := by
  refine ⟨trivial, fun r => ?_⟩
  have hget := h.cons (q := .sql (.getUserByID userID)) rfl r
  dsimp only
  split
  · exact hget
  · exact hget
  split
  · exact hget
  split
  · exact hget
  refine ⟨trivial, fun r => ?_⟩
  have hsalt := hget.cons (q := .randBytes 16) trivial r
  rcases r with _ | salt
  · exact hsalt
  refine ⟨trivial, fun r => ?_⟩
  have hstore := hsalt.cons (q := .sql (.updatePasswordHash userID _)) rfl r
  rcases r with e | _
  · exact hstore
  refine ⟨trivial, fun r => ?_⟩
  have hforce := hstore.cons (q := .sql (.setForcePasswordChange userID false)) rfl r
  rcases r with e | _
  · exact hforce
  refine ⟨trivial, fun r => ?_⟩
  rw [logEvent_audited haud, logEvent_audited haud]
  refine ⟨trivial, fun r' => ⟨trivial, fun r'' => ?_⟩⟩
  refine DebtFree.cons (q := .sql (.createAuditLogEntry _)) (hforce.paid rfl ?_) rfl r''
  rcases r with e | _
  · trivial
  · exact Or.inr ⟨_, asked_head _ r', rfl⟩

/-! ### Calls with a debt: rotation -/

/-- Replay detection names the user of the token that was presented. -/
theorem replayDetected_audit (hread : ReadsOnly log record)
    (h : DebtFree silent log) : (replayDetected env record).Obeys (auditProtocol silent _) log := by
  refine ⟨⟨record, hread.1, rfl⟩, fun r => ?_⟩
  rw [logEvent_audited haud, logEvent_audited haud]
  refine ⟨trivial, fun r' => ⟨trivial, fun r'' => ?_⟩⟩
  refine DebtFree.cons (q := .sql (.createAuditLogEntry _)) (h.paid rfl ?_) rfl r''
  -- the statement is about the family of the one token that was read
  intro t ht _
  have htoken : t = record := (hread.append (l := [_, _]) (by simp [Event.record?])).2 t ht
  rw [htoken]
  exact ⟨_, asked_head _ r', rfl⟩

omit haud

/-- A rotation has marked its token, and owes the entry for it. -/
structure Owes (silent : Prop) (record : RefreshToken) (log : Log effects) : Prop where
  reads : ReadsOnly log record
  marked : marked log = true
  rest : ∀ e ∈ log, Event.marks e = true ∨ Event.Accounted silent log e

theorem Owes.cons {q : Request} (h : Owes silent record log) (hq : q.Plain)
    (r : q.Reply) : Owes silent record (⟨q, r⟩ :: log) := by
  have hread : ∀ e ∈ [(⟨q, r⟩ : Event effects)], Event.record? e = none := by
    intro e he
    obtain rfl := List.mem_singleton.mp he
    exact hq.record? r
  refine ⟨h.reads.append hread, List.any_eq_true.mpr ?_, ?_⟩
  · obtain ⟨e, hmem, he⟩ := List.any_eq_true.mp h.marked
    exact ⟨e, List.mem_cons_of_mem _ hmem, he⟩
  · intro e he
    rcases List.mem_cons.mp he with rfl | he
    · exact Or.inr (hq.accounted r _)
    · exact (h.rest e he).imp_right fun hacc => hacc.grow hread

/-- **The debt of a rotation** is paid by an entry for the user who was loaded. -/
theorem Owes.settled (h : Owes silent record log)
    (huser : HasLoaded log record.userID user) (hnames : Names log user.id) : DebtFree silent log := by
  intro e he
  rcases h.rest e he with hmark | hacc
  · unfold Event.marks at hmark
    split at hmark
    · intro t ht _
      rw [h.reads.2 t ht]
      exact ⟨user, huser, hnames⟩
    · cases hmark
  · exact hacc

/-- How a rotation ends: without a debt, or with an error, after it has marked its token. -/
def rotationAudit (silent : Prop) : Protocol effects (Except AuthError TokenResponse) :=
  ⟨auditRequest, fun r log => DebtFree silent log ∨ (∃ e, r = .error e) ∧ marked log = true⟩

theorem Owes.failed (h : Owes silent record log) (e : AuthError) :
    (rotationAudit silent).result (.error e) log := Or.inr ⟨⟨e, rfl⟩, h.marked⟩

include haud

theorem issueSuccessor_audit (cid : UUID) (tokenString : String)
    (h : Owes silent record log) (huser : HasLoaded log record.userID user) :
    (issueSuccessor env cid record user tokenString).Obeys (rotationAudit silent) log := by
  refine ⟨trivial, fun now => ⟨trivial, fun r => ?_⟩⟩
  have haccess := (h.cons (q := .now) trivial now).cons (q := .sql (.createAccessToken _)) rfl r
  rcases r with e | accessTokenRecord
  · exact haccess.failed _
  refine ⟨trivial, fun r => ?_⟩
  have hbytes := haccess.cons (q := .randBytes 32) trivial r
  rcases r with _ | bytes
  · exact hbytes.failed _
  refine ⟨trivial, fun now' => ⟨trivial, fun r => ?_⟩⟩
  have hrefresh := (hbytes.cons (q := .now) trivial now').cons (q := .sql (.createRefreshToken _)) rfl r
  rcases r with e | _
  · exact hrefresh.failed _
  -- only here is the debt paid
  show (env.logEvent _ _).Obeys _ _
  rw [logEvent_audited haud]
  refine ⟨trivial, fun r => Or.inl ?_⟩
  have hpaid := hrefresh.cons (q := .sql (.createAuditLogEntry _)) rfl r
  have hloaded : ∀ l : Log effects, HasLoaded (l ++ log) record.userID user :=
    fun l => List.mem_append_right l huser
  exact hpaid.settled (hloaded [_, _, _, _, _, _]) ⟨_, asked_head _ r, rfl⟩

theorem rotateRecord_audit (cid : UUID) (hread : ReadsOnly log record)
    (h : DebtFree silent log) : (rotateRecord env cid record).Obeys (rotationAudit silent) log := by
  refine ⟨⟨record, hread.1, rfl⟩, fun r => ?_⟩
  rcases r with e | row
  · exact Or.inl (h.free rfl fun _ => trivial)
  have hmarked : Owes silent record (⟨.sql (.markRefreshTokenUsed record.id), .ok row⟩ :: log) := by
    refine ⟨hread.append (l := [_]) (by simp [Event.record?]), rfl, ?_⟩
    intro e he
    rcases List.mem_cons.mp he with rfl | he
    · exact Or.inl rfl
    · exact Or.inr ((h e he).grow (l := [_]) (by simp [Event.record?]))
  refine ⟨trivial, fun r => ?_⟩
  have huser := hmarked.cons (q := .sql (.getUserByID record.userID)) rfl r
  rcases r with e | user
  · exact huser.failed _
  -- the signature does not touch the debt
  have hplain : Plain (generateAccessToken env (env.lib.uuidString user.id) user.email) :=
    generateAccessToken_only trivial (fun _ => trivial) env _ _
  have hsign := hplain.obeys_of_stable
    (P := ⟨auditRequest, fun _ log => Owes silent record log ∧ HasLoaded log record.userID user⟩)
    (G := fun log => Owes silent record log ∧ HasLoaded log record.userID user)
    (fun q r log hq hlog => ⟨hlog.1.cons hq r, List.mem_cons_of_mem _ hlog.2⟩)
    (fun _ log hq _ => hq.audit log) (fun _ _ hlog => hlog) ⟨huser, List.mem_cons_self⟩
  refine hsign.andThen (fun _ _ hq => hq) ?_
  rintro (e | tokenString) log ⟨hlog, hloaded⟩
  · exact hlog.failed _
  · exact issueSuccessor_audit haud cid tokenString hlog hloaded

theorem rotateRefreshToken_audit (rawToken clientID clientSecret : String) :
    (rotateRefreshToken env rawToken clientID clientSecret).Obeys (rotationAudit silent) [] := by
  unfold rotateRefreshToken
  split
  · exact Or.inl (debtFree_nil _)
  next cid _ =>
  refine ⟨trivial, fun r => ?_⟩
  have hclient : PlainLog [⟨.sql (.getClient cid), r⟩] := List.forall_mem_singleton.mpr rfl
  dsimp only
  split
  · exact Or.inl (debtFree_of_plain hclient)
  · exact Or.inl (debtFree_of_plain hclient)
  split
  · exact Or.inl (debtFree_of_plain hclient)
  split
  · exact Or.inl (debtFree_of_plain hclient)
  refine ⟨trivial, fun r => ?_⟩
  dsimp only
  split
  · exact Or.inl (debtFree_lookup hclient)
  · exact Or.inl (debtFree_lookup hclient)
  next record =>
  have hread : ReadsOnly (⟨.sql (.getRefreshTokenByHash (env.lib.sha256Hex rawToken)), .ok record⟩ :: _)
      record := readsOnly_lookup hclient
  have hlookup : DebtFree silent
      (⟨.sql (.getRefreshTokenByHash (env.lib.sha256Hex rawToken)), .ok record⟩ :: _) :=
    debtFree_lookup hclient
  unfold checkRecord
  split
  · refine Prog.Obeys.mono ?_ ?_ (replayDetected_audit haud hread hlookup)
    · exact fun _ _ hq => hq
    · exact fun _ _ hend => Or.inl hend
  refine ⟨trivial, fun now => ?_⟩
  have hnow := hlookup.cons (q := .now) trivial now
  dsimp only
  split
  · exact Or.inl hnow
  split
  · exact Or.inl hnow
  · exact rotateRecord_audit haud cid (hread.append (l := [_]) (by simp [Event.record?])) hnow

end Debts

/-! ### Logins -/

/-- The entries for a login that fails. -/
def CreateAuditLogEntryParams.forLogin (p : CreateAuditLogEntryParams) : Bool :=
  p.eventType = .loginFailed || p.eventType = .accountLocked

/-- How many entries for a failed login the call has asked for. -/
def loginEntries (log : Log effects) : ℕ :=
  log.countP fun e => (Event.asked? e).any CreateAuditLogEntryParams.forLogin

namespace Event

/-- The account was locked. -/
def locksAccount : Event effects → Bool
  | ⟨.sql (.lockUserAccount _ _), .ok _⟩ => true
  | _ => false

/-- The look-up of a user who cannot have a password: there is no such user, or no hash. -/
def strange : Event effects → Bool
  | ⟨.sql (.getUserByEmailForAuth _), .error .noRows⟩ => true
  | ⟨.sql (.getUserByEmailForAuth _), .ok u⟩ => u.passwordHash.isNone
  | _ => false

end Event

/-- The call has locked an account. -/
def locked (log : Log effects) : Bool := log.any Event.locksAccount

/-- The call has looked for a user who cannot have a password. -/
def strangeUser (log : Log effects) : Bool := log.any Event.strange

/-- The answer of `Login` to wrong credentials. -/
def LoginReply.rejected : LoginReply := .failed ⟨401, "invalid_credentials", none⟩

/-- **What `VerifyCredentials` has asked for when it ends**: one entry if it has rejected the credentials
or locked the account, unless it did not even get to a password. -/
def verifyAudit (silent : Prop) : Protocol effects Verified where
  request := auditRequest
  result v log := DebtFree silent log ∧
    match v with
    | .success _ => locked log = false
    | v => v = .failed .invalidCredentials ∨ locked log = true →
      strangeUser log = true ∨ loginEntries log = 1

/-- The same for `Login`. -/
def loginAudit (silent : Prop) : Protocol effects LoginReply where
  request := auditRequest
  result r log := DebtFree silent log ∧
    (r = .rejected ∨ locked log = true → strangeUser log = true ∨ loginEntries log = 1)

/-- Nothing was locked or entered yet. -/
structure NotYet (silent : Prop) (log : Log effects) : Prop where
  settled : DebtFree silent log
  entries : loginEntries log = 0
  locked : locked log = false

theorem loginEntries_of_none (he : Event.asked? e = none) : loginEntries (e :: log) = loginEntries log := by
  unfold loginEntries
  rw [List.countP_cons_of_neg]
  rw [he]
  simp

theorem loginEntries_entry (hp : p.forLogin = true) (r : (Request.sql (.createAuditLogEntry p)).Reply) :
    loginEntries ((⟨.sql (.createAuditLogEntry p), r⟩ : Event effects) :: log) = loginEntries log + 1 := by
  unfold loginEntries
  rw [List.countP_cons_of_pos]
  exact hp

theorem Request.Plain.locks (hq : q.Plain) (r : q.Reply) : Event.locksAccount ⟨q, r⟩ = false := by
  unfold Event.locksAccount
  split
  · next heq =>
    cases heq
    cases hq
  · rfl

theorem locked_cons_of_plain (hq : q.Plain) (r : q.Reply) :
    locked ((⟨q, r⟩ : Event effects) :: log) = locked log := by
  unfold locked
  rw [List.any_cons, hq.locks r]
  rfl

section Login

variable {env : Env} (haud : env.audited = true)

theorem NotYet.cons {q : Request} {r : q.Reply} (h : NotYet silent log) (hq : q.Plain)
    (hentry : Event.asked? ⟨q, r⟩ = none) : NotYet silent (⟨q, r⟩ :: log) where
  settled := h.settled.cons hq r
  entries := (loginEntries_of_none hentry).trans h.entries
  locked := (locked_cons_of_plain hq r).trans h.locked

/-- A failure that is not a rejection. -/
theorem NotYet.failed (h : NotYet silent log) {e : AuthError} (he : e ≠ .invalidCredentials) :
    (verifyAudit silent).result (.failed e) log := by
  refine ⟨h.settled, ?_⟩
  rintro (hrej | hlock)
  · exact absurd (Verified.failed.inj hrej) he
  · rw [h.locked] at hlock
    cases hlock

include haud

/-- One entry for the lock. -/
theorem lockAccount_audit (user : User) (email sourceIP : String) (h : NotYet silent log) :
    (lockAccount env user email sourceIP).Obeys (verifyAudit silent) log := by
  refine ⟨trivial, fun now => ⟨trivial, fun r => ?_⟩⟩
  have hnow := h.cons (q := .now) (r := now) trivial rfl
  have hsettled : DebtFree silent (⟨.sql (.lockUserAccount user.id _), r⟩ :: _) :=
    hnow.settled.free rfl fun _ => trivial
  rcases r with e | _
  · refine ⟨hsettled, ?_⟩
    rintro (hrej | hlock)
    · cases hrej
    · -- a lock that failed is none
      exact absurd (hlock.symm.trans hnow.locked) (by simp)
  · show (env.logEvent _ _).Obeys _ _
    rw [logEvent_audited haud]
    refine ⟨trivial, fun r => ⟨hsettled.cons (q := .sql (.createAuditLogEntry _)) rfl r, ?_⟩⟩
    intro _
    refine Or.inr ?_
    rw [loginEntries_entry rfl, loginEntries_of_none rfl, hnow.entries]

/-- One entry for the failure, or for the lock. -/
theorem failedAttempt_audit (user : User) (email sourceIP : String) (h : NotYet silent log) :
    (failedAttempt env user email sourceIP).Obeys (verifyAudit silent) log := by
  refine ⟨trivial, fun r => ?_⟩
  have hcount := h.cons (q := .sql (.incrementFailedLoginAttempts user.id)) (r := r) rfl rfl
  rcases r with e | updated
  · exact hcount.failed (by simp [AuthError.ofDB])
  refine ⟨trivial, fun now => ?_⟩
  have hnow := hcount.cons (q := .now) (r := now) trivial rfl
  dsimp only
  split
  · exact lockAccount_audit haud user email sourceIP hnow
  · rw [logEvent_audited haud]
    refine ⟨trivial, fun r => ⟨hnow.settled.cons (q := .sql (.createAuditLogEntry _)) rfl r, ?_⟩⟩
    intro _
    refine Or.inr ?_
    rw [loginEntries_entry rfl, hnow.entries]

omit haud in
theorem successfulAttempt_audit (user : User) (h : NotYet silent log) :
    (successfulAttempt user).Obeys (verifyAudit silent) log := by
  refine ⟨trivial, fun r => ?_⟩
  have hreset := h.cons (q := .sql (.resetLoginAttempts user.id)) (r := r) rfl rfl
  rcases r with e | _
  · exact hreset.failed (by simp [AuthError.ofDB])
  refine ⟨trivial, fun now => ⟨trivial, fun r => ?_⟩⟩
  have hlast := (hreset.cons (q := .now) (r := now) trivial rfl).cons
    (q := .sql (.updateLastLogin user.id now)) (r := r) rfl rfl
  rcases r with e | _
  · exact hlast.failed (by simp [AuthError.ofDB])
  · exact ⟨hlast.settled, hlast.locked⟩

/-- The password check. A user without a hash is rejected without an entry. -/
theorem checkPassword_audit (user : User) (email password sourceIP : String) (h : NotYet silent log)
    (hread : user.passwordHash = none → strangeUser log = true) :
    (checkPassword env user email password sourceIP).Obeys (verifyAudit silent) log := by
  unfold checkPassword
  split
  · next hnone => exact ⟨h.settled, fun _ => Or.inl (hread hnone)⟩
  split
  · exact h.failed (by simp)
  · exact h.failed (by simp)
  · exact failedAttempt_audit haud user email sourceIP h
  · exact successfulAttempt_audit user h

theorem verifyCredentials_audit (email password sourceIP : String) :
    (verifyCredentials env email password sourceIP).Obeys (verifyAudit silent) [] := by
  have hnil : NotYet silent [] := ⟨debtFree_nil _, rfl, rfl⟩
  refine ⟨trivial, fun r => ?_⟩
  have hget := hnil.cons (q := .sql (.getUserByEmailForAuth email)) (r := r) rfl rfl
  dsimp only
  split
  · exact ⟨hget.settled, fun _ => Or.inl rfl⟩
  · exact hget.failed (by simp [AuthError.ofDB])
  next user =>
  -- what the look-up has found is the first event of the call
  have hstrange : user.passwordHash = none →
      strangeUser [⟨.sql (.getUserByEmailForAuth email), .ok user⟩] = true := by
    intro hnone
    simp [strangeUser, Event.strange, hnone]
  split
  · exact checkPassword_audit haud user email password sourceIP hget hstrange
  refine ⟨trivial, fun now => ?_⟩
  have hnow := hget.cons (q := .now) (r := now) trivial rfl
  dsimp only
  split
  · -- the account is still locked, which is no news
    refine ⟨hnow.settled, ?_⟩
    rintro (hrej | hlock)
    · cases hrej
    · exact absurd (hlock.symm.trans hnow.locked) (by simp)
  refine ⟨trivial, fun r => ?_⟩
  have hreset := hnow.cons (q := .sql (.resetLoginAttempts user.id)) (r := r) rfl rfl
  rcases r with e | _
  · exact hreset.failed (by simp [AuthError.ofDB])
  · exact checkPassword_audit haud user email password sourceIP hreset hstrange

omit haud in
theorem loginChallenge_plain (env : Env) (user : User) : Plain (loginChallenge env user) := by
  refine (generateChallengeToken_only trivial env user.id).bind ?_
  rintro (e | token) <;> trivial

omit haud in
theorem loginAccessToken_plain (env : Env) (user : User) : Plain (loginAccessToken env user) := by
  refine (generateAccessToken_only trivial (fun _ => trivial) env _ _).bind ?_
  rintro (e | token)
  · trivial
  refine (revokeAllUserAccessTokens_only (C := Request.Plain) rfl).bind ?_
  rintro (e | _)
  · trivial
  refine (storeDirectLoginToken_only trivial (fun _ _ => rfl) env token user.id).bind ?_
  rintro (e | _) <;> trivial

omit haud in
/-- The answers that are not a rejection, from calls that lock nothing. -/
theorem Plain.obeys_login {p : Call LoginReply} (hp : Plain p)
    (hanswer : p.Obeys ⟨fun _ _ => True, fun r _ => r ≠ .rejected⟩ log) (h : DebtFree silent log)
    (hlocked : locked log = false) : p.Obeys (loginAudit silent) log := by
  have hquiet := hp.obeys_of_stable
    (P := ⟨auditRequest, fun _ log => DebtFree silent log ∧ locked log = false⟩)
    (G := fun log => DebtFree silent log ∧ locked log = false)
    (fun q r log hq hlog => ⟨hlog.1.cons hq r, (locked_cons_of_plain hq r).trans hlog.2⟩)
    (fun _ log hq _ => hq.audit log) (fun _ _ hlog => hlog) ⟨h, hlocked⟩
  refine Prog.Obeys.mono ?_ ?_ (hquiet.and hanswer)
  · exact fun _ _ hq => hq.1
  rintro r log ⟨⟨hend, hunlocked⟩, hr⟩
  refine ⟨hend, ?_⟩
  rintro (hrej | hlock)
  · exact absurd hrej hr
  · rw [hunlocked] at hlock
    cases hlock

theorem login_audit (email password sourceIP : String) :
    (login env email password sourceIP).Obeys (loginAudit silent) [] := by
  unfold login
  split
  · refine ⟨debtFree_nil _, ?_⟩
    rintro (hrej | hlock)
    · exact absurd hrej (by simp [LoginReply.rejected])
    · cases hlock
  have hverify : (verifyCredentials env email password sourceIP).Obeys (verifyAudit silent) [] :=
    verifyCredentials_audit haud email password sourceIP
  refine hverify.andThen (fun _ _ hq => hq) ?_
  rintro v log ⟨hsettled, hv⟩
  split
  · refine ⟨hsettled, ?_⟩
    rintro (hrej | hlock)
    · cases hrej
    · exact hv (Or.inr hlock)
  · exact ⟨hsettled, fun _ => hv (Or.inl rfl)⟩
  · refine ⟨hsettled, ?_⟩
    rintro (hrej | hlock)
    · exact absurd hrej (by simp [serverError, LoginReply.rejected])
    · exact hv (Or.inr hlock)
  next user =>
  split
  · refine (loginChallenge_plain env user).obeys_login ?_ hsettled hv
    refine (Prog.Obeys.anything _ _).andThen (fun _ _ _ => trivial) ?_
    rintro (e | token) log _ <;> exact fun hrej => by cases hrej
  · refine (loginAccessToken_plain env user).obeys_login ?_ hsettled hv
    refine (Prog.Obeys.anything _ _).andThen (fun _ _ _ => trivial) ?_
    rintro (e | token) log _
    · exact fun hrej => by cases hrej
    refine (Prog.Obeys.anything _ _).andThen (fun _ _ _ => trivial) ?_
    rintro (e | _) log _
    · exact fun hrej => by cases hrej
    refine (Prog.Obeys.anything _ _).andThen (fun _ _ _ => trivial) ?_
    rintro (e | _) log _ <;> exact fun hrej => by cases hrej

end Login

/-! ### Silent calls -/

/-- The refresh tokens of a user are revoked, and nothing is entered. -/
theorem revokeUserRefreshTokens_silent (hs : silent) (userID : UUID) (reason : String)
    (h : DebtFree silent log) :
    (revokeUserRefreshTokens userID reason).Obeys (auditProtocol silent _) log := by
  refine ⟨trivial, fun r => ?_⟩
  have hend : DebtFree silent (⟨.sql (.revokeRefreshTokensByUser userID (some reason)), r⟩ :: log) := by
    refine h.free rfl fun _ => ?_
    rcases r with e | _
    · trivial
    · exact Or.inl hs
  rcases r with e | _ <;> exact hend

theorem unlockUserAccount_silent (hs : silent) (userID : UUID) (h : DebtFree silent log) :
    (unlockUserAccount userID).Obeys (auditProtocol silent _) log := by
  refine ⟨trivial, fun r => ?_⟩
  have hend : DebtFree silent (⟨.sql (.unlockUserAccount userID), r⟩ :: log) := by
    refine h.free rfl fun _ => ?_
    rcases r with e | _
    · trivial
    · exact Or.inl hs
  rcases r with (_ | _) | _ <;> exact hend

theorem logoutRequest_silent (hs : silent) (env : Env) (h : RequestHeaders) :
    (logoutRequest env h).Obeys (auditProtocol silent _) [] := by
  have hauth : Plain (authMiddleware env h) := authMiddleware_only trivial (fun _ => rfl) env h
  refine (hauth.obeys (debtFree_nil silent)).andThen (fun _ _ hq => hq) ?_
  rintro (e | ctx) log hlog
  · exact hlog
  refine Prog.Obeys.map (Q := auditProtocol silent _) ?_ (fun _ _ hq => hq) fun _ _ hend => hend
  refine ((revokeToken_plain _).obeys hlog).andThen (fun _ _ hq => hq) fun _ log hlog => ?_
  unfold logoutRefreshTokens
  split
  · exact hlog
  split
  · exact hlog
  · exact (revokeUserRefreshTokens_silent hs _ _ hlog).map (fun _ _ hq => hq) fun _ _ hend => hend

/-! ### Every operation -/

/-- The operations that revoke refresh tokens or lift a lock and enter nothing. -/
def AuditedOperation.Silent : AuditedOperation → Prop
  | .server (.auth (.logout _)) | .server (.auth (.revokeUserRefreshTokens _ _))
  | .server (.auth (.unlockUserAccount _)) => True
  | _ => False

/-- The call ends as a rotation that has failed. -/
def AuditedReply.IsFailedRotation (r : AuditedReply) : Prop :=
  ∃ e, r = .server (.auth (.tokens (.error e)))

/-- **What an operation has asked for when it ends.** -/
structure AuditedOperation.Pays (op : AuditedOperation) (r : AuditedReply) (log : Log effects) : Prop where
  settled : DebtFree op.Silent log ∨ r.IsFailedRotation ∧ marked log = true
  login : ∀ email password sourceIP, op = .server (.auth (.login email password sourceIP)) →
    r = .server (.auth (.login .rejected)) ∨ locked log = true →
    strangeUser log = true ∨ loginEntries log = 1

/-- The protocol of an operation, for a call whose result `g` turns into the reply. -/
def AuditedOperation.audit {β : Type} (op : AuditedOperation) (g : β → AuditedReply) : Protocol effects β :=
  ⟨auditRequest, fun r log => op.Pays (g r) log⟩

/-- An operation that is not a login. -/
theorem pays_of_debtFree {p : Call α} {f : α → β}
    (hop : ∀ email password sourceIP, op ≠ .server (.auth (.login email password sourceIP)))
    (hp : p.Obeys (auditProtocol op.Silent α) []) : (p.map f).Obeys (op.audit g) [] :=
  hp.map (fun _ _ hq => hq) fun _ _ hend =>
    ⟨Or.inl hend, fun email password sourceIP h => absurd h (hop email password sourceIP)⟩

/-- An operation all of whose requests are plain. -/
theorem Plain.pays {p : Call α} {f : α → β}
    (hop : ∀ email password sourceIP, op ≠ .server (.auth (.login email password sourceIP)))
    (hp : Plain p) : (p.map f).Obeys (op.audit g) [] :=
  pays_of_debtFree hop (hp.obeys (debtFree_nil _))

theorem changePasswordHandler_audit {env : Env} (haud : env.audited = true)
    (challengeToken newPassword : String) :
    (changePasswordHandler env challengeToken newPassword).Obeys (auditProtocol silent _) [] := by
  have hvalidate : Plain (validateChallengeToken env challengeToken) := by
    unfold validateChallengeToken
    split
    · trivial
    · exact ⟨trivial, fun now => trivial⟩
  refine (hvalidate.obeys (debtFree_nil silent)).andThen (fun _ _ hq => hq) ?_
  rintro (e | userID) log hlog
  · exact hlog
  refine (changePassword_audit haud userID newPassword hlog).andThen (fun _ _ hq => hq) ?_
  rintro (e | result) log hlog
  · exact hlog
  refine Plain.obeys ?_ hlog
  refine (generateAccessToken_only trivial (fun _ => trivial) env _ _).bind ?_
  rintro (e | token)
  · trivial
  refine (storeDirectLoginToken_only trivial (fun _ _ => rfl) env token userID).bind ?_
  rintro (e | _) <;> trivial

section Operations

variable {env : Env} (haud : env.audited = true)

include haud

theorem login_pays (email password sourceIP : String) :
    ((login env email password sourceIP).map Outcome.login).Obeys
      (AuditedOperation.audit (.server (.auth (.login email password sourceIP)))
        fun r => .server (.auth r)) [] := by
  have hlogin : (login env email password sourceIP).Obeys (loginAudit False) [] :=
    login_audit haud email password sourceIP
  refine hlogin.map (fun _ _ hq => hq) ?_
  rintro reply log ⟨hsettled, hreply⟩
  refine ⟨Or.inl hsettled, fun _ _ _ _ hr => hreply (hr.imp_left ?_)⟩
  intro hrej
  cases hrej
  rfl

theorem rotateRefreshToken_pays (rawToken clientID clientSecret : String) :
    ((rotateRefreshToken env rawToken clientID clientSecret).map Outcome.tokens).Obeys
      (AuditedOperation.audit (.server (.auth (.rotateRefreshToken rawToken clientID clientSecret)))
        fun r => .server (.auth r)) [] := by
  have hrotate : (rotateRefreshToken env rawToken clientID clientSecret).Obeys (rotationAudit False) [] :=
    rotateRefreshToken_audit haud rawToken clientID clientSecret
  refine hrotate.map (fun _ _ hq => hq) ?_
  rintro reply log hend
  refine ⟨hend.imp_right ?_, fun _ _ _ h => nomatch h⟩
  rintro ⟨⟨e, rfl⟩, hmarked⟩
  exact ⟨⟨e, rfl⟩, hmarked⟩

theorem Operation.pays (op : Operation) :
    (op.call env).Obeys (AuditedOperation.audit (.server (.auth op)) fun r => .server (.auth r)) [] := by
  cases op with
  | login email password sourceIP => exact login_pays haud email password sourceIP
  | rotateRefreshToken rawToken clientID clientSecret =>
    exact rotateRefreshToken_pays haud rawToken clientID clientSecret
  | changePasswordHandler challengeToken newPassword =>
    exact pays_of_debtFree (fun _ _ _ => nofun) (changePasswordHandler_audit haud challengeToken newPassword)
  | changePassword userID newPassword =>
    exact pays_of_debtFree (fun _ _ _ => nofun) (changePassword_audit haud userID newPassword (debtFree_nil _))
  | revoke authorization form =>
    exact pays_of_debtFree (fun _ _ _ => nofun) (revoke_audit haud authorization form)
  | revokeAnyToken rawToken tokenTypeHint =>
    exact pays_of_debtFree (fun _ _ _ => nofun) (revokeAnyToken_audit haud rawToken tokenTypeHint plainLog_nil)
  | revokeUserSessions idParam actorID =>
    exact pays_of_debtFree (fun _ _ _ => nofun) (revokeUserSessions_audit haud idParam actorID)
  -- the silent ones
  | logout headers => exact pays_of_debtFree (fun _ _ _ => nofun) (logoutRequest_silent trivial env headers)
  | revokeUserRefreshTokens userID reason =>
    exact pays_of_debtFree (fun _ _ _ => nofun)
      (revokeUserRefreshTokens_silent trivial userID reason (debtFree_nil _))
  | unlockUserAccount userID =>
    exact pays_of_debtFree (fun _ _ _ => nofun) (unlockUserAccount_silent trivial userID (debtFree_nil _))
  -- the plain ones
  | handleProviderCallback clientID providerName code callbackURL clientRedirectURI scope =>
    exact Plain.pays (fun _ _ _ => nofun) (Apart.plain ((handleProviderCallback_signsIn ..).mono apart_of_signsIn))
  | exchangeCodeForToken code clientID clientSecret redirectURI =>
    exact Plain.pays (fun _ _ _ => nofun) (exchangeCodeForToken_plain ..)
  | revokeToken tokenHash => exact Plain.pays (fun _ _ _ => nofun) (revokeToken_plain tokenHash)
  | revokeRawToken rawToken => exact Plain.pays (fun _ _ _ => nofun) (revokeToken_plain _)
  | revokeAllUserAccessTokens userID =>
    exact Plain.pays (fun _ _ _ => nofun) (revokeAllUserAccessTokens_only rfl)
  | sessionRevokeAuthorizationCode id =>
    exact Plain.pays (fun _ _ _ => nofun) (sessionRevokeAuthorizationCode_only rfl rfl)
  | sessionRevokeAccessToken id =>
    exact Plain.pays (fun _ _ _ => nofun) (sessionRevokeAccessToken_only rfl rfl)
  | sessionRevokeUserSessions userID =>
    exact Plain.pays (fun _ _ _ => nofun) (sessionRevokeUserSessions_only rfl)
  | sessionRevokeClientSessions clientID =>
    exact Plain.pays (fun _ _ _ => nofun) (sessionRevokeClientSessions_only rfl)
  | updateUserStatus id isActive =>
    refine Plain.pays (fun _ _ _ => nofun) ⟨rfl, fun r => ?_⟩
    dsimp only
    split <;> trivial
  | cleanupExpiredCodes =>
    exact Plain.pays (fun _ _ _ => nofun) (sql_only rfl fun r => by cases r <;> exact ⟨_, rfl⟩)
  | cleanupExpiredTokens =>
    exact Plain.pays (fun _ _ _ => nofun) (sql_only rfl fun r => by cases r <;> exact ⟨_, rfl⟩)

end Operations

/-- **Every operation** keeps to its audit protocol. -/
theorem AuditedOperation.obeys (env : WebEnv) (admin : AdminEnv) (haud : env.auth.audited = true)
    (op : AuditedOperation) : (op.call env admin).Obeys (op.audit id) [] := by
  cases op with
  | unlockUser idParam actorID =>
    exact pays_of_debtFree (fun _ _ _ => nofun) (unlockUser_audit haud idParam actorID)
  | server op =>
    cases op with
    | webLogin r => exact Plain.pays (fun _ _ _ => nofun) (Apart.plain ((webLogin_apart env r).map _))
    | webCallback r => exact Plain.pays (fun _ _ _ => nofun) (Apart.plain ((webCallback_apart env r).map _))
    | client op => exact Plain.pays (fun _ _ _ => nofun) (Apart.plain ((clientOperation_apart admin op).map _))
    | provider op => exact Plain.pays (fun _ _ _ => nofun) (Apart.plain ((providerOperation_apart admin op).map _))
    | auth op =>
      show (((op.call env.auth).map _).map _).Obeys _ []
      rw [Prog.map_map]
      exact (op.pays haud).map (fun _ _ hq => hq) fun _ _ hend => hend

end GoauthServer
