import GoauthServer.Framework.Lockstep
import GoauthServer.Framework.RowWise
import GoauthServer.Transport.Accounts

/-!
# What the admin API shows of a store

Two stores *agree* if they are the same row by row but for the columns that hold secrets: the hash of a client
secret, the credentials of a provider, the hash of an access token, an authorization code, and the hash of a
password. No statement of the admin API has a condition on one of these columns, so its answers in two such
stores are the same up to them, and the stores agree afterwards (`Query.exec_agree`).

Two calls are *similar* if they end with related results in stores that agree. The rules for this relation
follow the text of a call, and they leave only one thing to check about a handler: that it makes nothing of a
row but what is shown of it. The two calls need not be the same, because an update of a provider may write back
a secret that it has read.
-/

namespace GoauthServer

open Interact Relational

/-! ### Stores that agree -/

/-- A user, without the hash of the password. -/
def User.shown (u : User) : User := { u with passwordHash := none }

/-- A client, without the hash of its secret. -/
def Client.shown (c : Client) : Client := { c with clientSecretHash := "" }

/-- A provider, without its credentials. -/
def OauthProvider.shown (o : OauthProvider) : OauthProvider :=
  { o with providerClientID := "", providerClientSecret := "" }

/-- The row of an authorization code, without the code. -/
def AuthorizationCode.shown (c : AuthorizationCode) : AuthorizationCode := { c with code := "" }

/-- The row of an access token, without the hash of the token. -/
def AccessToken.shown (t : AccessToken) : AccessToken := { t with tokenHash := "" }

/-- The stores are the same but for the columns with secrets. -/
structure Store.Agree (s s' : Store) : Prop where
  users : Table.RowWise (fun u u' => u.shown = u'.shown) s.users s'.users
  clients : Table.RowWise (fun c c' => c.shown = c'.shown) s.clients s'.clients
  oauthProviders : Table.RowWise (fun o o' => o.shown = o'.shown) s.oauthProviders s'.oauthProviders
  authorizationCodes :
    Table.RowWise (fun c c' => c.shown = c'.shown) s.authorizationCodes s'.authorizationCodes
  accessTokens : Table.RowWise (fun t t' => t.shown = t'.shown) s.accessTokens s'.accessTokens
  refreshTokens : s.refreshTokens = s'.refreshTokens
  auditLog : s.auditLog = s'.auditLog

/-- The stores agree, and the time is the same. -/
structure World.Agree (w w' : World) : Prop where
  now : w.now = w'.now
  db : w.db.Agree w'.db

theorem World.Agree.wait {w w' : World} (h : w.Agree w') (n : ℕ) : (w.wait n).Agree (w'.wait n) :=
  ⟨congrArg (· + (n : ℤ)) h.now, h.db⟩

/-! ### Forms of statements -/

/-- The same error, or results that are related. -/
inductive ExceptRel {ε α β : Type} (R : α → β → Prop) : Except ε α → Except ε β → Prop
  | ok {a : α} {b : β} (h : R a b) : ExceptRel R (.ok a) (.ok b)
  | error (e : ε) : ExceptRel R (.error e) (.error e)

section Forms

variable {ρ : Type} [Keyed ρ] {R : ρ → ρ → Prop} {t t' : Table ρ} {p p' : ρ → Bool}

theorem selectOne_rel (h : t.RowWise R t') (hp : Agrees R p p') :
    ExceptRel R (selectOne t p) (selectOne t' p') := by
  have hsel := h.select hp
  unfold selectOne
  generalize t.select p = o, t'.select p' = o' at hsel
  cases hsel with
  | some hr => exact .ok hr
  | none => exact .error _

theorem updateOne_rel (h : t.RowWise R t') (f f' : ρ → ρ) (hf : ∀ r, Keyed.key (f r) = Keyed.key r)
    (hf' : ∀ r, Keyed.key (f' r) = Keyed.key r) (hp : Agrees R p p') (hR : ∀ r r', R r r' → R (f r) (f' r')) :
    ExceptRel R (updateOne t p f hf).1 (updateOne t' p' f' hf').1 ∧
      (updateOne t p f hf).2.RowWise R (updateOne t' p' f' hf').2 := by
  refine ⟨?_, h.update_rows f f' hp hR⟩
  have hsel := h.select hp
  unfold updateOne Table.returning
  generalize t.select p = o, t'.select p' = o' at hsel
  cases hsel with
  | some hr => exact .ok (hR _ _ hr)
  | none => exact .error _

theorem insertOne_rel (h : t.RowWise R t') (hkey : ∀ r r' : ρ, R r r' → Keyed.key r = Keyed.key r') {r r' : ρ}
    (hr : R r r') {fk fk' : Bool} (hfk : fk = fk') :
    ExceptRel R (insertOne t fk r).1 (insertOne t' fk' r').1 ∧
      (insertOne t fk r).2.RowWise R (insertOne t' fk' r').2 := by
  subst hfk
  have hins := h.insert hkey hr
  unfold insertOne
  generalize t.insert r = o, t'.insert r' = o' at hins
  cases hins with
  | none => exact ⟨.error _, h⟩
  | some hu =>
    cases fk with
    | true => exact ⟨.ok hr, hu⟩
    | false => exact ⟨.error _, h⟩

omit [Keyed ρ] in
theorem page_rel {limit offset : ℤ} {rows rows' : List ρ} (h : List.Forall₂ R rows rows') :
    ExceptRel (List.Forall₂ R) (page limit offset rows) (page limit offset rows') := by
  unfold page
  split
  · exact .error _
  · exact .ok (List.forall₂_take _ (List.forall₂_drop _ h))

/-- A page of the rows with `p`, the newest first. -/
theorem listPage_rel (h : t.RowWise R t') {createdAt : ρ → Time}
    (hat : ∀ r r', R r r' → createdAt r = createdAt r') (hp : Agrees R p p') (limit offset : ℤ) :
    ExceptRel (List.Forall₂ R) (page limit offset (newestFirst createdAt (t.rows.filter p)))
      (page limit offset (newestFirst createdAt (t'.rows.filter p'))) := by
  refine page_rel (insertionSort_of_forall₂ (filter_of_forall₂ h hp) ?_)
  intro a a' b b' ha hb
  rw [hat a a' ha, hat b b' hb]

theorem refers_rel (h : t.RowWise R t') (hp : Agrees R p p') :
    Refers t p = Refers t' p' := any_of_forall₂ h hp

end Forms

/-- What does not read the hidden columns is the same of rows that show the same. -/
theorem of_shown {ρ σ : Type} {e : ρ → ρ} (f : ρ → σ) (hf : ∀ r, f (e r) = f r) :
    ∀ r r', e r = e r' → f r = f r' := by
  intro r r' h
  rw [← hf r, ← hf r', h]

/-! ### Statements -/

/-- What is related of the results of a statement in two stores that agree. -/
def Query.SameRow : (q : Query) → q.Row → q.Row → Prop
  | .getClient _, c, c' | .createClient _, c, c' | .updateClient _, c, c'
  | .regenerateClientSecret _ _, c, c' => c.shown = c'.shown
  | .listClients _ _ _, cs, cs' => List.Forall₂ (fun c c' => c.shown = c'.shown) cs cs'
  | .getOAuthProvider _, o, o' | .createOAuthProvider _, o, o' | .updateOAuthProvider _, o, o' =>
    o.shown = o'.shown
  | .listOAuthProvidersByClient _, os, os' | .listEnabledOAuthProvidersByClient _, os, os' =>
    List.Forall₂ (fun o o' => o.shown = o'.shown) os os'
  | .getUserByID _, u, u' | .updateUserActiveStatus _ _, u, u' | .unlockUserAccount _, u, u' =>
    u.shown = u'.shown
  | .listUsers _ _ _ _, us, us' => List.Forall₂ (fun u u' => u.shown = u'.shown) us us'
  | .getAuthorizationCodeByID _, c, c' => c.shown = c'.shown
  | .listAuthorizationCodes _ _ _, cs, cs' => List.Forall₂ (fun c c' => c.shown = c'.shown) cs cs'
  | .getAccessTokenByID _, t, t' => t.shown = t'.shown
  | .listAccessTokens _ _ _, ts, ts' => List.Forall₂ (fun t t' => t.shown = t'.shown) ts ts'
  | _, r, r' => r = r'

/-- The statements of the admin API. -/
def Query.ofAdmin : Query → Bool
  | .getClient _ | .listClients _ _ _ | .countClients _ | .createClient _ | .updateClient _ | .deleteClient _
  | .regenerateClientSecret _ _ | .getOAuthProvider _ | .listOAuthProvidersByClient _
  | .listEnabledOAuthProvidersByClient _ | .createOAuthProvider _ | .updateOAuthProvider _
  | .deleteOAuthProvider _ | .listUsers _ _ _ _ | .countUsers _ _ | .getUserByID _
  | .updateUserActiveStatus _ _ | .unlockUserAccount _ | .getAuthorizationCodeByID _
  | .listAuthorizationCodes _ _ _ | .countAuthorizationCodes _ | .revokeAuthorizationCode _
  | .getAccessTokenByID _ | .listAccessTokens _ _ _ | .countAccessTokens _ | .revokeAccessToken _
  | .revokeRefreshTokensByUser _ _ | .createAuditLogEntry _ => true
  | _ => false

section Exec

variable {s s' : Store} {now : Time} {fresh : UUID}

theorem updateUser_agree {id : UUID} {f : User → User} {hf : ∀ u, Keyed.key (f u) = Keyed.key u}
    (hshown : ∀ u : User, (f u.shown).shown = (f u).shown) (h : s.Agree s') :
    ExceptRel (fun u u' : User => u.shown = u'.shown) (s.withUsers (updateUser s.users now id f hf)).1
        (s'.withUsers (updateUser s'.users now id f hf)).1 ∧
      (s.withUsers (updateUser s.users now id f hf)).2.Agree
        (s'.withUsers (updateUser s'.users now id f hf)).2 := by
  let stamped : User → User := fun u => { f u with updatedAt := now }
  have hupd := updateOne_rel h.users stamped stamped hf hf (of_shown (fun u => u.id == id) fun _ => rfl)
    (of_shown (fun u => (stamped u).shown) fun u =>
      congrArg (fun v : User => { v with updatedAt := now }) (hshown u))
  exact ⟨hupd.1, { h with users := hupd.2 }⟩

/-- Two updates of a provider that differ at most in the secret they write. -/
theorem updateOAuthProvider_agree (p : UpdateOAuthProviderParams) (secret secret' : String) (now : Time)
    (fresh : UUID) (h : s.Agree s') :
    ExceptRel (fun o o' : OauthProvider => o.shown = o'.shown)
        ((Query.updateOAuthProvider { p with providerClientSecret := secret }).exec now fresh s).1
        ((Query.updateOAuthProvider { p with providerClientSecret := secret' }).exec now fresh s').1 ∧
      ((Query.updateOAuthProvider { p with providerClientSecret := secret }).exec now fresh s).2.Agree
        ((Query.updateOAuthProvider { p with providerClientSecret := secret' }).exec now fresh s').2 := by
  -- what either of them does to a row
  let f : String → OauthProvider → OauthProvider := fun secret o => { o with
    displayName := p.displayName, providerClientID := p.providerClientID, providerClientSecret := secret
    authUrl := p.authUrl, tokenUrl := p.tokenUrl, userInfoUrl := p.userInfoUrl, scopes := p.scopes
    isEnabled := p.isEnabled, updatedAt := now }
  have hupd := updateOne_rel h.oauthProviders (f secret) (f secret') (fun _ => rfl) (fun _ => rfl)
    (of_shown (fun o => o.id == p.id) fun _ => rfl) (of_shown (fun o => (f "" o).shown) fun _ => rfl)
  exact ⟨hupd.1, { h with oauthProviders := hupd.2 }⟩

/-- The order of the lists of providers. -/
theorem displayName_rel (a a' b b' : OauthProvider) (ha : a.shown = a'.shown) (hb : b.shown = b'.shown) :
    a.displayName ≤ b.displayName ↔ a'.displayName ≤ b'.displayName := by
  have hname := of_shown (e := OauthProvider.shown) OauthProvider.displayName fun _ => rfl
  rw [hname a a' ha, hname b b' hb]

/-- **The answers of a statement of the admin API in two stores that agree.** -/
theorem Query.exec_agree {q : Query} (hq : q.ofAdmin = true) (h : s.Agree s') :
    ExceptRel q.SameRow (q.exec now fresh s).1 (q.exec now fresh s').1 ∧
      (q.exec now fresh s).2.Agree (q.exec now fresh s').2 := by
  cases q with
  -- clients
  | getClient id =>
    have hsel := selectOne_rel h.clients (of_shown (fun c => c.id == id) fun _ => rfl)
    exact ⟨hsel, h⟩
  | listClients isActive limit offset =>
    have hlist := listPage_rel h.clients (of_shown Client.createdAt fun _ => rfl)
      (of_shown (fun c => c.isActive == some isActive) fun _ => rfl) limit offset
    exact ⟨hlist, h⟩
  | countClients isActive =>
    have hcount := countP_of_forall₂ h.clients (of_shown (fun c => c.isActive == some isActive) fun _ => rfl)
    exact ⟨.ok hcount, h⟩
  | createClient p =>
    have hfk := refers_rel h.users (of_shown (fun u => u.id == p.createdBy) fun _ => rfl)
    have hins := insertOne_rel h.clients (of_shown Client.id fun _ => rfl) (r := p.row now fresh) rfl hfk
    simp only [Query.exec]
    split
    · exact ⟨.error _, h⟩
    · exact ⟨hins.1, { h with clients := hins.2 }⟩
  | updateClient p =>
    let f : Client → Client := fun c => { c with
      name := p.name, description := p.description, redirectUris := p.redirectUris, grantTypes := p.grantTypes
      isConfidential := p.isConfidential, allowRefreshTokens := p.allowRefreshTokens, updatedAt := now }
    have hupd := updateOne_rel h.clients f f (fun _ => rfl) (fun _ => rfl)
      (of_shown (fun c => c.id == p.id) fun _ => rfl) (of_shown (fun c => (f c).shown) fun _ => rfl)
    exact ⟨hupd.1, { h with clients := hupd.2 }⟩
  | deleteClient id =>
    let f : Client → Client := fun c => { c with isActive := some false, updatedAt := now }
    have hupd := h.clients.update_rows f f (of_shown (fun c => c.id == id) fun _ => rfl)
      (of_shown (fun c => (f c).shown) fun _ => rfl)
    exact ⟨.ok rfl, { h with clients := hupd }⟩
  | regenerateClientSecret id hash =>
    let f : Client → Client := fun c => { c with clientSecretHash := hash, updatedAt := now }
    have hupd := updateOne_rel h.clients f f (fun _ => rfl) (fun _ => rfl)
      (of_shown (fun c => c.id == id) fun _ => rfl)
      (of_shown (fun c => (f c).shown) fun _ => rfl)
    exact ⟨hupd.1, { h with clients := hupd.2 }⟩
  -- providers
  | getOAuthProvider id =>
    have hsel := selectOne_rel h.oauthProviders (of_shown (fun o => o.id == id) fun _ => rfl)
    exact ⟨hsel, h⟩
  | listOAuthProvidersByClient clientID =>
    have hfilter := filter_of_forall₂ h.oauthProviders
      (of_shown (fun o => o.clientID == clientID) fun _ => rfl)
    exact ⟨.ok (insertionSort_of_forall₂ hfilter displayName_rel), h⟩
  | listEnabledOAuthProvidersByClient clientID =>
    have hfilter := filter_of_forall₂ h.oauthProviders
      (of_shown (fun o => o.clientID == clientID && o.isEnabled == some true) fun _ => rfl)
    exact ⟨.ok (insertionSort_of_forall₂ hfilter displayName_rel), h⟩
  | createOAuthProvider p =>
    have hfk := refers_rel h.clients (of_shown (fun c => c.id == p.clientID) fun _ => rfl)
    have hins := insertOne_rel h.oauthProviders
      (of_shown (fun o : OauthProvider => (o.id, o.clientID, o.name)) fun _ => rfl)
      (r := p.row now fresh) rfl hfk
    exact ⟨hins.1, { h with oauthProviders := hins.2 }⟩
  | updateOAuthProvider p =>
    exact updateOAuthProvider_agree p p.providerClientSecret p.providerClientSecret now fresh h
  | deleteOAuthProvider id =>
    have hproviders := h.oauthProviders.delete (of_shown (fun o => o.id == id) fun _ => rfl)
    have hcodes := h.authorizationCodes.delete (of_shown (fun c => c.providerID == id) fun _ => rfl)
    exact ⟨.ok rfl, { h with oauthProviders := hproviders, authorizationCodes := hcodes }⟩
  -- users
  | listUsers isActive isAdmin limit offset =>
    have hlist := listPage_rel h.users (of_shown User.createdAt fun _ => rfl)
      (of_shown (fun u => u.isActive == isActive && u.isAdmin == some isAdmin) fun _ => rfl) limit offset
    exact ⟨hlist, h⟩
  | countUsers isActive isAdmin =>
    have hcount := countP_of_forall₂ h.users
      (of_shown (fun u => u.isActive == isActive && u.isAdmin == some isAdmin) fun _ => rfl)
    exact ⟨.ok hcount, h⟩
  | getUserByID id =>
    have hsel := selectOne_rel h.users (of_shown (fun u => u.id == id) fun _ => rfl)
    exact ⟨hsel, h⟩
  | updateUserActiveStatus id isActive =>
    exact updateUser_agree (fun _ => rfl) h
  | unlockUserAccount id =>
    exact updateUser_agree (fun _ => rfl) h
  -- codes and tokens
  | getAuthorizationCodeByID id =>
    have hsel := selectOne_rel h.authorizationCodes (of_shown (fun c => c.id == id) fun _ => rfl)
    exact ⟨hsel, h⟩
  | listAuthorizationCodes f limit offset =>
    have hlist := listPage_rel h.authorizationCodes
      (of_shown AuthorizationCode.createdAt fun _ => rfl) (of_shown f.matchesCode fun _ => rfl) limit offset
    exact ⟨hlist, h⟩
  | countAuthorizationCodes f =>
    have hcount := countP_of_forall₂ h.authorizationCodes (of_shown f.matchesCode fun _ => rfl)
    exact ⟨.ok hcount, h⟩
  | revokeAuthorizationCode id =>
    let f : AuthorizationCode → AuthorizationCode := fun c => { c with isRevoked := some true }
    have hupd := h.authorizationCodes.update_rows f f (of_shown (fun c => c.id == id) fun _ => rfl)
      (of_shown (fun c => (f c).shown) fun _ => rfl)
    exact ⟨.ok rfl, { h with authorizationCodes := hupd }⟩
  | getAccessTokenByID id =>
    have hsel := selectOne_rel h.accessTokens (of_shown (fun t => t.id == id) fun _ => rfl)
    exact ⟨hsel, h⟩
  | listAccessTokens f limit offset =>
    have hlist := listPage_rel h.accessTokens (of_shown AccessToken.createdAt fun _ => rfl)
      (of_shown f.matchesToken fun _ => rfl) limit offset
    exact ⟨hlist, h⟩
  | countAccessTokens f =>
    have hcount := countP_of_forall₂ h.accessTokens (of_shown f.matchesToken fun _ => rfl)
    exact ⟨.ok hcount, h⟩
  | revokeAccessToken id =>
    have hupd := h.accessTokens.update_rows AccessToken.revoke AccessToken.revoke
      (of_shown (fun t => t.id == id) fun _ => rfl)
      (of_shown (fun t : AccessToken => t.revoke.shown) fun _ => rfl)
    exact ⟨.ok rfl, { h with accessTokens := hupd }⟩
  | revokeRefreshTokensByUser userID reason =>
    refine ⟨.ok rfl, { h with refreshTokens := ?_ }⟩
    simp only [Query.exec, h.refreshTokens]
  | createAuditLogEntry p =>
    simp only [Query.exec, h.auditLog]
    refine ⟨?_, { h with auditLog := rfl }⟩
    cases (insertOne s'.auditLog true (p.row now fresh)).1 with
    | error e => exact .error e
    | ok e => exact .ok rfl
  | _ => cases hq

end Exec

/-! ### Requests -/

/-- The time passes, and a statement is executed or fails as a whole. -/
theorem respond_agree {q : Query} (hq : q.ofAdmin = true) {w w' : World} (h : w.Agree w') (d : Draw) :
    ExceptRel q.SameRow (respond (.sql q) d w).1 (respond (.sql q) d w').1 ∧
      (respond (.sql q) d w).2.Agree (respond (.sql q) d w').2 := by
  cases hf : d.fault with
  | true =>
    rw [respond_sql_fault q hf, respond_sql_fault q hf]
    exact ⟨.error _, h.wait d.wait⟩
  | false =>
    rw [respond_sql q hf, respond_sql q hf, (h.wait d.wait).now]
    obtain ⟨hrow, hdb⟩ := Query.exec_agree hq h.db
    exact ⟨hrow, rfl, hdb⟩

theorem respond_agree_update (p : UpdateOAuthProviderParams) (secret secret' : String) {w w' : World}
    (h : w.Agree w') (d : Draw) :
    ExceptRel (fun o o' : OauthProvider => o.shown = o'.shown)
        (respond (.sql (.updateOAuthProvider { p with providerClientSecret := secret })) d w).1
        (respond (.sql (.updateOAuthProvider { p with providerClientSecret := secret' })) d w').1 ∧
      (respond (.sql (.updateOAuthProvider { p with providerClientSecret := secret })) d w).2.Agree
        (respond (.sql (.updateOAuthProvider { p with providerClientSecret := secret' })) d w').2 := by
  cases hf : d.fault with
  | true =>
    rw [respond_sql_fault _ hf, respond_sql_fault _ hf]
    exact ⟨.error _, h.wait d.wait⟩
  | false =>
    rw [respond_sql _ hf, respond_sql _ hf, (h.wait d.wait).now]
    obtain ⟨hrow, hdb⟩ := updateOAuthProvider_agree p secret secret' (w'.wait d.wait).now d.uuid h.db
    exact ⟨hrow, rfl, hdb⟩

/-! ### Calls -/

/-- In stores that agree the calls end with results that `Q` relates, and the stores agree. -/
def Similar {α β : Type} (Q : α → β → Prop) (p : Call α) (p' : Call β) : Prop :=
  ∀ w w' : World, w.Agree w' →
    p.Lockstep backend (fun a (w : World) b (w' : World) => Q a b ∧ w.Agree w') p' w w'

namespace Similar

variable {α β γ δ : Type} {Q : α → β → Prop} {R : γ → δ → Prop} {p : Call α} {p' : Call β}
  {f : α → Call γ}

theorem ret {a : α} {b : β} (h : Q a b) : Similar Q (.ret a) (.ret b) := fun _ _ hw => ⟨h, hw⟩

/-- A statement, executed in both. -/
theorem sql {q : Query} {k : Except DBError q.Row → Call α} {k' : Except DBError q.Row → Call β}
    (hq : q.ofAdmin = true) (hk : ∀ r r', ExceptRel q.SameRow r r' → Similar Q (k r) (k' r')) :
    Similar Q (Call.sql q k) (Call.sql q k') := by
  intro w w' hw d
  obtain ⟨hrow, hw'⟩ := respond_agree hq hw d
  exact hk _ _ hrow _ _ hw'

/-- The update of a provider, with different secrets. -/
theorem update {p : UpdateOAuthProviderParams} {secret secret' : String}
    {k : Except DBError OauthProvider → Call α} {k' : Except DBError OauthProvider → Call β}
    (hk : ∀ r r', ExceptRel (fun o o' : OauthProvider => o.shown = o'.shown) r r' → Similar Q (k r) (k' r')) :
    Similar Q (Call.sql (.updateOAuthProvider { p with providerClientSecret := secret }) k)
      (Call.sql (.updateOAuthProvider { p with providerClientSecret := secret' }) k') := by
  intro w w' hw d
  obtain ⟨hrow, hw'⟩ := respond_agree_update p secret secret' hw d
  exact hk _ _ hrow _ _ hw'

theorem randBytes {n : ℕ} {k : Option Base64.Bytes → Call α} {k' : Option Base64.Bytes → Call β}
    (hk : ∀ r, Similar Q (k r) (k' r)) : Similar Q (Call.randBytes n k) (Call.randBytes n k') :=
  fun _ _ hw d => hk _ _ _ (hw.wait d.wait)

theorem bind {f' : β → Call δ}
    (h : Similar Q p p') (hf : ∀ a b, Q a b → Similar R (f a) (f' b)) : Similar R (p.bind f) (p'.bind f') := by
  intro w w' hw
  refine Prog.Lockstep.bind (Prog.Lockstep.mono ?_ (h w w' hw))
  exact fun a w b w' hab => hf a b hab.1 w w' hab.2

theorem map {f : α → γ} {f' : β → δ} (h : Similar Q p p')
    (hf : ∀ a b, Q a b → R (f a) (f' b)) : Similar R (p.map f) (p'.map f') :=
  h.bind fun a b hab => ret (hf a b hab)

/-- What is made of equal results is equal. -/
theorem map_eq {p p' : Call α} (h : Similar Eq p p') (f : α → γ) : Similar Eq (p.map f) (p'.map f) :=
  h.map fun _ _ hab => congrArg f hab

theorem bind_eq {p p' : Call α} (h : Similar Eq p p') {f' : α → Call δ}
    (hf : ∀ a, Similar R (f a) (f' a)) : Similar R (p.bind f) (p'.bind f') := by
  refine h.bind fun a b hab => ?_
  rw [hab]
  exact hf b

/-- **Runs alone.** -/
theorem run (h : Similar Q p p') {w w' : World} (hw : w.Agree w') (ds : ℕ → Draw) :
    Q (p.run backend ds w).1 (p'.run backend ds w').1 ∧
      (p.run backend ds w).2.Agree (p'.run backend ds w').2 := (h w w' hw).run ds

end Similar

end GoauthServer
