import GoauthServer.Service.Deployment
import GoauthServer.Transport.Accounts

/-!
# The lists of codes and tokens

`ListAuthorizationCodes` and `ListAccessTokens` should show the requested page, newest first, of the rows
that satisfy the filters of the request, and count them. Three things stand against it:

* the service passes the zero value of its type where a filter is absent, and the query takes that for a
  filter like any other: `$1::uuid IS NULL` is never true. So the list is empty unless all three filters
  are given, or the rows have the zero values (`absent_filters_hide_rows`);
* the offset is converted to 32 bits: a large one becomes negative, which the database refuses, or it
  becomes a small one;
* a token without a client, which a direct login stores, cannot be rendered. The two faults hide each
  other: the query never returns such a row.

`session_listings_iff` says for which requests and tables the lists are right. Both lists are one
statement about rows with the columns of the filters (`listing_eq_iff`): the rows of the query are
among the rows that should be listed, so the total is right only if they are the same rows.
-/

namespace GoauthServer

open Interact Relational

/-! ### What a list should show -/

/-- The filters of a request, where they are given. -/
structure SessionFilters where
  clientID : Option UUID
  userID : Option UUID
  isRevoked : Option Bool

/-- The columns that the filters look at. -/
structure SessionColumns where
  clientID : Option UUID
  userID : UUID
  isRevoked : Option Bool

def AuthorizationCode.columns (c : AuthorizationCode) : SessionColumns :=
  ⟨some c.clientID, c.userID, c.isRevoked⟩

def AccessToken.columns (t : AccessToken) : SessionColumns := ⟨t.clientID, t.userID, t.isRevoked⟩

/-- The row satisfies every filter that is given. As everywhere in the program, a row without a mark is
not revoked. -/
def SessionFilters.selects (f : SessionFilters) (c : SessionColumns) : Bool :=
  f.clientID.all (fun id => c.clientID == some id) && f.userID.all (fun id => c.userID == id) &&
    f.isRevoked.all fun b => c.isRevoked.getD false == b

/-- The request is well formed, with these filters, this limit and this offset. -/
structure SessionQuery.Asks (env : Env) (q : SessionQuery) (f : SessionFilters) (limit offset : ℤ) :
    Prop where
  limit_pos : 1 ≤ limit
  limit_le : limit ≤ paginationMaxLimit
  limit_eq : Strconv.atoi (q.page.limit.getD "20") = some limit
  offset_nonneg : 0 ≤ offset
  offset_eq : Strconv.atoi (q.page.offset.getD "0") = some offset
  clientID : parseOptionalUUID env "client_id" q.clientID = .ok f.clientID
  userID : parseOptionalUUID env "user_id" q.userID = .ok f.userID
  isRevoked : parseOptionalBool "is_revoked" q.isRevoked = .ok f.isRevoked

section Listings

variable {ρ : Type}

/-- The requested page of the rows that satisfy `p`. -/
def requestedPage (createdAt : ρ → Time) (limit offset : ℤ) (p : ρ → Bool) (rows : List ρ) : List ρ :=
  ((newestFirst createdAt (rows.filter p)).drop offset.toNat).take limit.toNat

end Listings

/-- `AccessTokenResponse` for any row. -/
def shownToken (env : Env) (t : AccessToken) : AccessTokenResponse where
  id := env.lib.uuidString t.id
  clientID := (t.clientID.map env.lib.uuidString).getD ""
  userID := env.lib.uuidString t.userID
  scope := t.scope
  expiresAt := env.lib.formatRFC3339 t.expiresAt
  isRevoked := t.isRevoked.getD false
  createdAt := env.lib.formatRFC3339 t.createdAt

def shownCode (env : Env) (c : AuthorizationCode) : CodeResponse :=
  toAuthorizationCodeResponse env (toAuthorizationCode c)

/-- **Both lists are right**, and no row of the table breaks the rendering. -/
structure ListingsCorrect (env : Env) (q : SessionQuery) (f : SessionFilters) (limit offset : ℤ)
    (ds : ℕ → Draw) (w : World) : Prop where
  codes : ((listAuthorizationCodesHandler env q).run backend ds w).1 =
    .codes ((requestedPage AuthorizationCode.createdAt limit offset (fun c => f.selects c.columns)
      w.db.authorizationCodes.rows).map (shownCode env))
      (w.db.authorizationCodes.rows.countP fun c => f.selects c.columns)
  tokens : ((listAccessTokensHandler env q).run backend ds w).1 =
    .tokens ((requestedPage AccessToken.createdAt limit offset (fun t => f.selects t.columns)
      w.db.accessTokens.rows).map (shownToken env))
      (w.db.accessTokens.rows.countP fun t => f.selects t.columns)
  rendered : ∀ t ∈ w.db.accessTokens.rows, (toAccessTokenResponse env (toAccessToken t)).isSome

/-! ### The condition -/

/-- In the columns of the absent filters the row has the zero values, and it has a mark. -/
structure SessionFilters.AbsentZero (f : SessionFilters) (c : SessionColumns) : Prop where
  clientID : f.clientID = none → c.clientID = some 0
  userID : f.userID = none → c.userID = 0
  isRevoked : f.isRevoked = none → c.isRevoked = some false
  marked : c.isRevoked ≠ none

/-- The offset fits in 32 bits, or what it becomes is beyond the `total` rows as well. -/
def OffsetKept (offset : ℤ) (total : ℕ) : Prop :=
  offset < 2 ^ 31 ∨ (total : ℤ) ≤ (Int32.ofInt offset).toInt

/-- The list is right for these rows. -/
structure SessionFilters.Suits (f : SessionFilters) (offset : ℤ) (rows : List SessionColumns) :
    Prop where
  absent : ∀ c ∈ rows, f.selects c = true → f.AbsentZero c
  offset : OffsetKept offset (rows.countP f.selects)

/-! ### The query -/

/-- What the service passes to the database. -/
def SessionFilters.zeroed (f : SessionFilters) : SessionFilter :=
  { clientID := f.clientID.getD 0, userID := f.userID.getD 0, isRevoked := f.isRevoked.getD false }

/-- The condition of both queries. -/
def SessionFilter.matches (f : SessionFilter) (c : SessionColumns) : Bool :=
  c.clientID == some f.clientID && c.userID == f.userID && c.isRevoked == some f.isRevoked

/-- **What the query returns**: of the rows that should be listed, those with the zero values. -/
theorem SessionFilters.zeroed_matches_iff (f : SessionFilters) (c : SessionColumns) :
    f.zeroed.matches c = true ↔ f.selects c = true ∧ f.AbsentZero c := by
  -- a column of identifiers
  have hclient : c.clientID = some (f.clientID.getD 0) ↔
      f.clientID.all (fun id => c.clientID == some id) = true ∧
        (f.clientID = none → c.clientID = some 0) := by
    cases f.clientID <;> simp
  have huser : c.userID = f.userID.getD 0 ↔
      f.userID.all (fun id => c.userID == id) = true ∧ (f.userID = none → c.userID = 0) := by
    cases f.userID <;> simp
  -- the mark may be missing in the table
  have hrevoked : c.isRevoked = some (f.isRevoked.getD false) ↔
      f.isRevoked.all (fun b => c.isRevoked.getD false == b) = true ∧
        (f.isRevoked = none → c.isRevoked = some false) ∧ c.isRevoked ≠ none := by
    cases f.isRevoked <;> cases c.isRevoked <;> simp
  unfold SessionFilter.matches SessionFilters.selects SessionFilters.zeroed
  simp only [Bool.and_eq_true, beq_iff_eq]
  rw [hclient, huser, hrevoked]
  constructor
  · rintro ⟨⟨⟨hc, hc'⟩, hu, hu'⟩, hr, hr', hmark⟩
    exact ⟨⟨⟨hc, hu⟩, hr⟩, hc', hu', hr', hmark⟩
  · rintro ⟨⟨⟨hc, hu⟩, hr⟩, hc', hu', hr', hmark⟩
    exact ⟨⟨⟨hc, hc'⟩, hu, hu'⟩, hr, hr', hmark⟩

/-! ### One list -/

section Listings

variable {ρ σ : Type}

/-- A filter that keeps fewer rows keeps as many only if it keeps the same ones. -/
theorem countP_eq_iff {p p' : ρ → Bool} {rows : List ρ} (h : ∀ r ∈ rows, p' r = true → p r = true) :
    rows.countP p' = rows.countP p ↔ ∀ r ∈ rows, p r = true → p' r = true := by
  induction rows with
  | nil => simp
  | cons r rows ih =>
    have hrest := ih fun r' hr' => h r' (List.mem_cons_of_mem _ hr')
    have hle : rows.countP p' ≤ rows.countP p :=
      List.countP_mono_left fun r' hr' => h r' (List.mem_cons_of_mem _ hr')
    have hhead := h r List.mem_cons_self
    rw [List.forall_mem_cons, ← hrest, List.countP_cons, List.countP_cons]
    cases hp : p r <;> cases hp' : p' r <;> simp_all
    omega

/-- Two pages of a list without duplicates, the second one later, are the same only beyond its end. -/
theorem pages_eq_iff {xs : List σ} {a b n : ℕ} (hn : 1 ≤ n) (hab : a < b) (hnodup : xs.Nodup) :
    (xs.drop a).take n = (xs.drop b).take n ↔ xs.length ≤ a := by
  constructor
  · intro heq
    by_contra hlt
    have hfirst : ((xs.drop a).take n)[0]? = ((xs.drop b).take n)[0]? := by rw [heq]
    rw [List.getElem?_take_of_lt hn, List.getElem?_take_of_lt hn, List.getElem?_drop,
      List.getElem?_drop] at hfirst
    have hlen : a + 0 < xs.length := by omega
    have hsame := (List.getElem?_inj hlen hnodup).mp hfirst
    omega
  · intro hle
    rw [List.drop_eq_nil_of_le hle, List.drop_eq_nil_of_le (hle.trans hab.le)]

theorem length_newestFirst (createdAt : ρ → Time) (rows : List ρ) :
    (newestFirst createdAt rows).length = rows.length := List.length_insertionSort _ _

theorem mapM_map_eq_some {α β γ : Type} {g : α → β} {h : β → Option γ} {k : α → γ} {l : List α}
    (heq : ∀ a ∈ l, h (g a) = some (k a)) : (l.map g).mapM h = some (l.map k) := by
  induction l with
  | nil => rfl
  | cons a l ih =>
    rw [List.map_cons, List.mapM_cons, heq a List.mem_cons_self,
      ih fun b hb => heq b (List.mem_cons_of_mem _ hb)]
    rfl

/-- What the database answers to a list: the page at an offset of 32 bits. -/
def listed (createdAt : ρ → Time) (limit : ℤ) (offset : Int32) (p : ρ → Bool) (rows : List ρ) :
    Except DBError (List ρ) :=
  page limit offset.toInt (newestFirst createdAt (rows.filter p))

theorem mem_of_listed {createdAt : ρ → Time} {limit : ℤ} {offset : Int32} {p : ρ → Bool} {rows found : List ρ}
    (h : listed createdAt limit offset p rows = .ok found) {r : ρ} (hr : r ∈ found) : r ∈ rows.filter p := by
  unfold listed page at h
  split at h
  · cases h
  · obtain rfl := Except.ok.inj h
    exact (List.mem_insertionSort _).mp (List.mem_of_mem_drop (List.mem_of_mem_take hr))

/-- **One list.** The query keeps fewer rows than it should (`p'` for `p`), and the offset is converted to
32 bits. The list is right exactly if no row is lost, and the offset still is the same, or still beyond the
end. -/
theorem listing_eq_iff (createdAt : ρ → Time) {view : ρ → σ} {p p' : ρ → Bool} {rows : List ρ}
    {limit offset : ℤ} (hlimit : 1 ≤ limit) (hoffset : 0 ≤ offset)
    (hsub : ∀ r ∈ rows, p' r = true → p r = true) (hview : (rows.map view).Nodup) :
    ((listed createdAt limit (Int32.ofInt offset) p' rows).map (·.map view) =
        .ok ((requestedPage createdAt limit offset p rows).map view) ∧
      rows.countP p' = rows.countP p) ↔
    (∀ r ∈ rows, p r = true → p' r = true) ∧ OffsetKept offset (rows.countP p) := by
  rw [countP_eq_iff hsub, and_comm]
  refine and_congr_right fun hall => ?_
  -- the query keeps the same rows
  have hfilter : rows.filter p' = rows.filter p := by
    refine List.filter_congr fun r hr => ?_
    rw [Bool.eq_iff_iff]
    exact ⟨hsub r hr, hall r hr⟩
  unfold listed requestedPage
  rw [hfilter]
  have hlen : ((newestFirst createdAt (rows.filter p)).map view).length = rows.countP p := by
    rw [List.length_map, length_newestFirst, List.countP_eq_length_filter]
  have hnodup : ((newestFirst createdAt (rows.filter p)).map view).Nodup := by
    have hperm : ((newestFirst createdAt (rows.filter p)).map view).Perm ((rows.filter p).map view) :=
      (List.perm_insertionSort _ _).map view
    exact hperm.nodup_iff.mpr (hview.sublist (List.filter_sublist.map view))
  generalize newestFirst createdAt (rows.filter p) = found at hlen hnodup
  unfold page OffsetKept
  by_cases hfits : offset < 2 ^ 31
  · rw [toInt_ofInt_of_lt hoffset hfits, if_neg (by omega)]
    exact iff_of_true rfl (Or.inl hfits)
  · -- the offset that is left is smaller
    have hsmall : (Int32.ofInt offset).toInt < 2 ^ 31 := Int32.toInt_lt _
    generalize (Int32.ofInt offset).toInt = o at hsmall
    rw [or_iff_right hfits, ← hlen]
    by_cases hneg : o < 0
    · rw [if_pos (Or.inr hneg)]
      exact iff_of_false (fun h => by cases h) (by omega)
    · rw [if_neg (by omega)]
      show Except.ok (List.map view _) = Except.ok _ ↔ _
      rw [Except.ok.injEq, List.map_take, List.map_drop, List.map_take, List.map_drop,
        pages_eq_iff (by omega) (by omega) hnodup]
      omega

end Listings

/-! ### The handlers -/

section Handlers

variable {env : Env} {q : SessionQuery} {f : SessionFilters} {limit offset : ℤ} {ds : ℕ → Draw}
  {w : World} {o : Int32} {n m : ℕ}

/-- The parameters that a well-formed request becomes. -/
theorem parseSessionQuery_eq (h : q.Asks env f limit offset) : parseSessionQuery env q = .ok
      { clientID := f.clientID, userID := f.userID, isRevoked := f.isRevoked
        limit := Int32.ofInt limit, offset := Int32.ofInt offset } := by
  have hpage : parsePaginationParams q.page = .ok (Int32.ofInt limit, Int32.ofInt offset) := by
    have hlimit : ¬ (limit < 1 ∨ limit > paginationMaxLimit) := by
      have := h.limit_pos
      have := h.limit_le
      omega
    have hoffset : ¬ offset < 0 := not_lt.mpr h.offset_nonneg
    unfold parsePaginationParams
    rw [h.limit_eq, h.offset_eq]
    simp only [if_neg hlimit, if_neg hoffset]
  unfold parseSessionQuery
  rw [hpage, h.clientID, h.userID, h.isRevoked]
  rfl

/-- A limit that was accepted is passed on as it is. -/
theorem pageLimit_eq (h : q.Asks env f limit offset) (params : ListSessionsParams)
    (hparams : params.limit = Int32.ofInt limit) : params.pageLimit.toInt = limit := by
  have hle : limit ≤ 100 := h.limit_le
  have hpos := h.limit_pos
  have hlimit : (Int32.ofInt limit).toInt = limit := toInt_ofInt_of_lt (by omega) (by omega)
  unfold ListSessionsParams.pageLimit
  rw [hparams, if_neg ?_, hlimit]
  rw [Int32.le_iff_toInt_le, hlimit]
  exact not_le.mpr (show (0 : Int32).toInt < limit from hpos)

theorem listAuthorizationCodes_run (hs : Sound ds) (filter : SessionFilter) {params : ListSessionsParams}
    (hf : params.filter = filter) (hl : params.pageLimit.toInt = limit) (ho : params.offset = o) :
    ((listAuthorizationCodes params).run backend ds w).1 =
      match listed AuthorizationCode.createdAt limit o (fun r => filter.matches r.columns)
        w.db.authorizationCodes.rows with
      | .error e => .error (.ofDB "listing authorization codes" e)
      | .ok rows => .ok (rows.map toAuthorizationCode,
        w.db.authorizationCodes.rows.countP fun r => filter.matches r.columns) := by
  subst hf hl ho
  unfold listAuthorizationCodes
  rw [run_sql _ _ (hs 0)]
  have hlist : (Query.exec (.listAuthorizationCodes params.filter params.pageLimit.toInt params.offset.toInt)
      (w.wait (ds 0).wait).now (ds 0).uuid w.db).1 =
      listed AuthorizationCode.createdAt params.pageLimit.toInt params.offset
        (fun r => params.filter.matches r.columns) w.db.authorizationCodes.rows := rfl
  rw [hlist]
  cases listed AuthorizationCode.createdAt params.pageLimit.toInt params.offset
    (fun r => params.filter.matches r.columns) w.db.authorizationCodes.rows with
  | error e => rfl
  | ok rows =>
    -- the rows are counted with the same filter
    dsimp only
    rw [run_sql _ _ (hs 1)]
    rfl

theorem listAccessTokens_run (hs : Sound ds) (filter : SessionFilter) {params : ListSessionsParams}
    (hf : params.filter = filter) (hl : params.pageLimit.toInt = limit) (ho : params.offset = o) :
    ((listAccessTokens params).run backend ds w).1 =
      match listed AccessToken.createdAt limit o (fun r => filter.matches r.columns) w.db.accessTokens.rows with
      | .error e => .error (.ofDB "listing access tokens" e)
      | .ok rows => .ok (rows.map toAccessToken, w.db.accessTokens.rows.countP fun r => filter.matches r.columns) := by
  subst hf hl ho
  unfold listAccessTokens
  rw [run_sql _ _ (hs 0)]
  have hlist : (Query.exec (.listAccessTokens params.filter params.pageLimit.toInt params.offset.toInt)
      (w.wait (ds 0).wait).now (ds 0).uuid w.db).1 =
      listed AccessToken.createdAt params.pageLimit.toInt params.offset
        (fun r => params.filter.matches r.columns) w.db.accessTokens.rows := rfl
  rw [hlist]
  cases listed AccessToken.createdAt params.pageLimit.toInt params.offset
    (fun r => params.filter.matches r.columns) w.db.accessTokens.rows with
  | error e => rfl
  | ok rows =>
    -- the rows are counted with the same filter
    dsimp only
    rw [run_sql _ _ (hs 1)]
    rfl

/-- The list of codes, for a well-formed request. -/
theorem listAuthorizationCodesHandler_run (h : q.Asks env f limit offset) (hs : Sound ds) :
    ((listAuthorizationCodesHandler env q).run backend ds w).1 =
      match listed AuthorizationCode.createdAt limit (Int32.ofInt offset)
          (fun c => f.zeroed.matches c.columns) w.db.authorizationCodes.rows with
      | .error _ => .failed internalServerError
      | .ok cs => .codes (cs.map (shownCode env))
          (w.db.authorizationCodes.rows.countP fun c => f.zeroed.matches c.columns) := by
  unfold listAuthorizationCodesHandler
  rw [parseSessionQuery_eq h]
  simp only [Prog.map]
  rw [Prog.run_bind_ret fun _ => rfl, listAuthorizationCodes_run hs f.zeroed rfl (pageLimit_eq h _ rfl) rfl]
  cases listed AuthorizationCode.createdAt limit (Int32.ofInt offset)
    (fun c => f.zeroed.matches c.columns) w.db.authorizationCodes.rows with
  | error e => rfl
  | ok codes =>
    dsimp only
    rw [List.map_map]
    rfl

/-- A row that the query returns has a client, and it is rendered. -/
theorem toAccessTokenResponse_eq {t : AccessToken} (h : f.zeroed.matches t.columns = true) :
    toAccessTokenResponse env (toAccessToken t) = some (shownToken env t) := by
  unfold SessionFilter.matches at h
  simp only [Bool.and_eq_true, beq_iff_eq] at h
  have hclient : t.clientID = some f.zeroed.clientID := h.1.1
  unfold toAccessTokenResponse shownToken toAccessToken
  rw [hclient]
  rfl

/-- The list of tokens, for a well-formed request. **It never panics.** -/
theorem listAccessTokensHandler_run (h : q.Asks env f limit offset) (hs : Sound ds) :
    ((listAccessTokensHandler env q).run backend ds w).1 =
      match listed AccessToken.createdAt limit (Int32.ofInt offset)
          (fun t => f.zeroed.matches t.columns) w.db.accessTokens.rows with
      | .error _ => .failed internalServerError
      | .ok ts => .tokens (ts.map (shownToken env))
          (w.db.accessTokens.rows.countP fun t => f.zeroed.matches t.columns) := by
  unfold listAccessTokensHandler
  rw [parseSessionQuery_eq h]
  simp only [Prog.map]
  rw [Prog.run_bind_ret fun _ => rfl, listAccessTokens_run hs f.zeroed rfl (pageLimit_eq h _ rfl) rfl]
  cases hl : listed AccessToken.createdAt limit (Int32.ofInt offset)
    (fun t => f.zeroed.matches t.columns) w.db.accessTokens.rows with
  | error e => rfl
  | ok tokens =>
    have hmatch : ∀ t ∈ tokens, f.zeroed.matches t.columns = true := fun t ht =>
      (List.mem_filter.mp (mem_of_listed hl ht)).2
    have hrender : (tokens.map toAccessToken).mapM (toAccessTokenResponse env) =
        some (tokens.map (shownToken env)) :=
      mapM_map_eq_some fun t ht => toAccessTokenResponse_eq (hmatch t ht)
    dsimp only
    rw [hrender]

/-- Rows of a table are shown with different identifiers. -/
theorem shown_nodup {ρ σ : Type} [Keyed ρ] {t : Table ρ} {view : ρ → σ} (id : ρ → UUID)
    (hclash : ∀ a b : ρ, id a = id b → Keyed.clash (Keyed.key a) (Keyed.key b) = true)
    (hview : ∀ a b : ρ, view a = view b → id a = id b) : (t.rows.map view).Nodup := by
  refine List.pairwise_map.mpr (t.unique.imp fun {a b} hab heq => ?_)
  rw [hclash a b (hview a b heq)] at hab
  cases hab

/-- The condition of a list, row by row. -/
theorem suits_iff {ρ : Type} {columns : ρ → SessionColumns} {rows : List ρ} :
    f.Suits offset (rows.map columns) ↔
      (∀ r ∈ rows, f.selects (columns r) = true → f.zeroed.matches (columns r) = true) ∧
        OffsetKept offset (rows.countP fun r => f.selects (columns r)) := by
  have hcount : (rows.map columns).countP f.selects = rows.countP fun r => f.selects (columns r) :=
    List.countP_map
  constructor
  · rintro ⟨habsent, hoffset⟩
    refine ⟨fun r hr hsel => ?_, hcount ▸ hoffset⟩
    exact (f.zeroed_matches_iff _).mpr ⟨hsel, habsent _ (List.mem_map_of_mem hr) hsel⟩
  · rintro ⟨hmatch, hoffset⟩
    refine ⟨fun c hc hsel => ?_, hcount ▸ hoffset⟩
    obtain ⟨r, hr, rfl⟩ := List.mem_map.mp hc
    exact ((f.zeroed_matches_iff _).mp (hmatch r hr hsel)).2

theorem zeroed_matches_selects {c : SessionColumns} (h : f.zeroed.matches c = true) :
    f.selects c = true := ((f.zeroed_matches_iff c).mp h).1

theorem codes_eq_iff {x : Except DBError (List AuthorizationCode)} {cs : List CodeResponse} : (match x with
      | .error _ => AccountsReply.failed internalServerError
      | .ok rows => .codes (rows.map (shownCode env)) n) = .codes cs m ↔
      x.map (·.map (shownCode env)) = .ok cs ∧ n = m := by
  cases x <;> simp [Except.map]

theorem tokens_eq_iff {x : Except DBError (List AccessToken)} {ts : List AccessTokenResponse} : (match x with
      | .error _ => AccountsReply.failed internalServerError
      | .ok rows => .tokens (rows.map (shownToken env)) n) = .tokens ts m ↔
      x.map (·.map (shownToken env)) = .ok ts ∧ n = m := by
  cases x <;> simp [Except.map]

/-- A token is rendered exactly if it has a client. -/
theorem toAccessTokenResponse_isSome (env : Env) (t : AccessToken) :
    (toAccessTokenResponse env (toAccessToken t)).isSome = true ↔ t.clientID ≠ none := by
  unfold toAccessTokenResponse
  rw [Option.isSome_map, Option.isSome_iff_ne_none]
  rfl

/-- **When the lists of sessions are right**: if every row that satisfies the filters of the request has
the zero values in the columns of the other filters, and the offset survives its conversion; and no row
breaks the rendering if every token has a client. -/
theorem session_listings_iff (hlib : Function.Injective env.lib.uuidString)
    (h : q.Asks env f limit offset) (hs : Sound ds) :
    ListingsCorrect env q f limit offset ds w ↔
      f.Suits offset (w.db.authorizationCodes.rows.map AuthorizationCode.columns) ∧
      f.Suits offset (w.db.accessTokens.rows.map AccessToken.columns) ∧
      ∀ t ∈ w.db.accessTokens.rows, t.clientID ≠ none := by
  have hcodes : (w.db.authorizationCodes.rows.map (shownCode env)).Nodup :=
    shown_nodup AuthorizationCode.id (fun a b hab => by simp [Keyed.clash, Keyed.key, hab])
      fun a b hab => hlib (congrArg CodeResponse.id hab)
  have htokens : (w.db.accessTokens.rows.map (shownToken env)).Nodup :=
    shown_nodup AccessToken.id (fun a b hab => by simp [Keyed.clash, Keyed.key, hab])
      fun a b hab => hlib (congrArg AccessTokenResponse.id hab)
  have hrendered : (∀ t ∈ w.db.accessTokens.rows,
      (toAccessTokenResponse env (toAccessToken t)).isSome = true) ↔
      ∀ t ∈ w.db.accessTokens.rows, t.clientID ≠ none :=
    forall₂_congr fun t _ => toAccessTokenResponse_isSome env t
  rw [suits_iff, suits_iff, ← hrendered,
    ← listing_eq_iff AuthorizationCode.createdAt h.limit_pos h.offset_nonneg
      (fun _ _ => zeroed_matches_selects) hcodes,
    ← listing_eq_iff AccessToken.createdAt h.limit_pos h.offset_nonneg
      (fun _ _ => zeroed_matches_selects) htokens,
    ← codes_eq_iff, ← tokens_eq_iff, ← listAuthorizationCodesHandler_run h hs,
    ← listAccessTokensHandler_run h hs]
  exact ⟨fun ⟨hc, ht, hr⟩ => ⟨hc, ht, hr⟩, fun ⟨hc, ht, hr⟩ => ⟨hc, ht, hr⟩⟩

end Handlers

section Examples

open Deployment

/-- The deployment with identifiers that are written out. -/
def writtenEnv : Env :=
  { env with lib := { lib with uuidString := fun u => String.ofList (List.replicate u.toNat 'i') } }

theorem writtenEnv_injective : Function.Injective writtenEnv.lib.uuidString := by
  intro u v huv
  have hlist : List.replicate u.toNat 'i' = List.replicate v.toNat 'i' := String.ofList_inj.mp huv
  have hlen := congrArg List.length hlist
  rw [List.length_replicate, List.length_replicate] at hlen
  exact BitVec.eq_of_toNat_eq hlen

/-- All three filters are given: `ann`'s codes at `app` that are not revoked. -/
def annQuery : SessionQuery := ⟨⟨none, none⟩, appText, annText, "false"⟩

/-- With all three filters the lists are right. -/
theorem session_listings_iff_ann :
    ListingsCorrect writtenEnv annQuery ⟨some 1, some 2, some false⟩ 20 0 (fun _ => draw 7 20)
      ⟨0, store⟩ := by
  have hasks : annQuery.Asks writtenEnv ⟨some 1, some 2, some false⟩ 20 0 :=
    { limit_pos := by decide, limit_le := by decide, limit_eq := by decide +kernel
      offset_nonneg := by decide, offset_eq := by decide +kernel, clientID := by decide +kernel
      userID := by decide +kernel, isRevoked := by decide +kernel }
  refine (session_listings_iff writtenEnv_injective hasks fun _ => rfl).mpr ⟨⟨?_, ?_⟩, ⟨?_, ?_⟩, ?_⟩
  · intro c hc _
    obtain rfl := List.mem_singleton.mp hc
    exact ⟨nofun, nofun, nofun, nofun⟩
  · exact Or.inl (by decide)
  · exact fun c hc => absurd hc List.not_mem_nil
  · exact Or.inl (by decide)
  · exact fun t ht => absurd ht List.not_mem_nil

/-- The database after `ann` has logged in. -/
def loginStore : Store := { store with accessTokens := annSessions }

/-- A request without filters. -/
def anyQuery (offset : Option String) : SessionQuery := ⟨⟨none, offset⟩, "", "", ""⟩

/-- **Absent filters hide the rows.** There is one code and one token, and the lists without filters show
none of them; with an offset of 2^31 they fail; and the token of the login, which has no client, cannot be
rendered. -/
theorem absent_filters_hide_rows :
    loginStore.authorizationCodes.rows = [annCode] ∧ loginStore.accessTokens.rows = [annAccessToken] ∧
      ((listAuthorizationCodesHandler env (anyQuery none)).run backend (fun _ => draw 7 20)
        ⟨0, loginStore⟩).1 = .codes [] 0 ∧
      ((listAccessTokensHandler env (anyQuery none)).run backend (fun _ => draw 7 20)
        ⟨0, loginStore⟩).1 = .tokens [] 0 ∧
      ((listAccessTokensHandler env (anyQuery (some "2147483648"))).run backend (fun _ => draw 7 20)
        ⟨0, loginStore⟩).1 = .failed internalServerError ∧
      toAccessTokenResponse env (toAccessToken annAccessToken) = none := by
  refine ⟨rfl, rfl, ?_⟩
  decide +kernel

end Examples

end GoauthServer
