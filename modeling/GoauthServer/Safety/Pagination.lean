import GoauthServer.Service.Deployment
import GoauthServer.Transport.Accounts

/-!
# Pages

`parsePaginationParams` reads `limit` and `offset` as 64-bit integers, checks the limit on both sides and the offset
on one, and converts both to 32 bits. The comment in the code says that both fit. The limit does; the offset wraps
around from 2³¹ on, to a negative number, which the database refuses, or to another page.

`pages_passed_on_iff` says this for every pair of parameters that is accepted, together with what reaches the
database in the four lists that are paged: the services pass on what the handler has parsed
(`ApiRequest.call_pages`).
-/

namespace GoauthServer

open Interact

/-- The parameters of a list that is paged. -/
def ApiRequest.page : ApiRequest → Option PageQuery
  | .listClients q _ => some q
  | .listUsers q _ _ => some q
  | .listAuthorizationCodes q => some q.page
  | .listAccessTokens q => some q.page
  | _ => none

/-- A statement with `LIMIT` and `OFFSET` has these. -/
def Request.Pages (limit offset : ℤ) : Request → Prop
  | .sql (.listClients _ l o) => l = limit ∧ o = offset
  | .sql (.listUsers _ _ l o) => l = limit ∧ o = offset
  | .sql (.listAuthorizationCodes _ l o) => l = limit ∧ o = offset
  | .sql (.listAccessTokens _ l o) => l = limit ∧ o = offset
  | _ => True

/-- **The parameters are passed on faithfully**: what was parsed is what the texts stand for, it is in range, and it
is what reaches the database. -/
structure PassedOn (q : PageQuery) (limit offset : Int32) : Prop where
  limit_denoted : Strconv.Denotes (q.limit.getD "20").toList limit.toInt
  offset_denoted : Strconv.Denotes (q.offset.getD "0").toList offset.toInt
  limit_pos : 1 ≤ limit.toInt
  limit_le : limit.toInt ≤ 100
  offset_nonneg : 0 ≤ offset.toInt
  statements : ∀ env (req : ApiRequest), req.page = some q →
    (req.call env).Only (Request.Pages limit.toInt offset.toInt)

/-! ### What is accepted -/

/-- The integers that were read, and what was made of them. -/
structure PageQuery.Reads (q : PageQuery) (l o : ℤ) : Prop where
  limit : Strconv.atoi (q.limit.getD "20") = some l
  limit_pos : 1 ≤ l
  limit_le : l ≤ 100
  offset : Strconv.atoi (q.offset.getD "0") = some o
  offset_nonneg : 0 ≤ o

theorem parsePaginationParams_ok {q : PageQuery} {limit offset : Int32}
    (h : parsePaginationParams q = .ok (limit, offset)) :
    ∃ l o, q.Reads l o ∧ limit = Int32.ofInt l ∧ offset = Int32.ofInt o := by
  unfold parsePaginationParams at h
  cases hl : Strconv.atoi (q.limit.getD "20") with
  | none => simp [hl] at h
  | some l =>
    rw [hl] at h
    dsimp only at h
    split at h
    · cases h
    next hrange =>
    cases ho : Strconv.atoi (q.offset.getD "0") with
    | none => simp [ho] at h
    | some o =>
      rw [ho] at h
      dsimp only at h
      split at h
      · cases h
      next hneg =>
      obtain ⟨rfl, rfl⟩ := Prod.mk.inj (Except.ok.inj h)
      have hmax : paginationMaxLimit = 100 := rfl
      exact ⟨l, o, ⟨hl, by omega, by omega, ho, by omega⟩, rfl, rfl⟩

/-! ### What reaches the database -/

section Lists

variable {q : PageQuery} {limit offset : Int32} {params : ListSessionsParams}

/-- The services replace a limit that is not positive, and no such limit was accepted. -/
theorem limit_not_replaced (h : 1 ≤ limit.toInt) : ¬ limit ≤ 0 := by
  rw [Int32.le_iff_toInt_le]
  exact not_le.mpr (show (0 : Int32).toInt < limit.toInt from h)

theorem listClients_pages {params : ListClientsParams} (h : 1 ≤ params.limit.toInt) :
    (listClients params).Only (Request.Pages params.limit.toInt params.offset.toInt) := by
  refine ⟨⟨by rw [if_neg (limit_not_replaced h)], rfl⟩, ?_⟩
  rintro (e | clients)
  · trivial
  · refine ⟨trivial, ?_⟩
    rintro (e | total) <;> trivial

theorem listUsers_pages {params : ListUsersParams} (h : 1 ≤ params.limit.toInt) :
    (listUsers params).Only (Request.Pages params.limit.toInt params.offset.toInt) := by
  refine ⟨⟨by rw [if_neg (limit_not_replaced h)], rfl⟩, ?_⟩
  rintro (e | users)
  · trivial
  · refine ⟨trivial, ?_⟩
    rintro (e | total) <;> trivial

theorem listAuthorizationCodes_pages (h : 1 ≤ params.limit.toInt) :
    (listAuthorizationCodes params).Only (Request.Pages params.limit.toInt params.offset.toInt) := by
  refine ⟨⟨congrArg Int32.toInt (if_neg (limit_not_replaced h)), rfl⟩, ?_⟩
  rintro (e | codes)
  · trivial
  · refine ⟨trivial, ?_⟩
    rintro (e | total) <;> trivial

theorem listAccessTokens_pages (h : 1 ≤ params.limit.toInt) :
    (listAccessTokens params).Only (Request.Pages params.limit.toInt params.offset.toInt) := by
  refine ⟨⟨congrArg Int32.toInt (if_neg (limit_not_replaced h)), rfl⟩, ?_⟩
  rintro (e | tokens)
  · trivial
  · refine ⟨trivial, ?_⟩
    rintro (e | total) <;> trivial

/-- The parameters of the lists of sessions have the page that was parsed. -/
theorem parseSessionQuery_page {env : Env} {q : SessionQuery}
    (hpage : parsePaginationParams q.page = .ok (limit, offset)) (h : parseSessionQuery env q = .ok params) :
    params.limit = limit ∧ params.offset = offset := by
  unfold parseSessionQuery at h
  rw [hpage] at h
  cases hc : parseOptionalUUID env "client_id" q.clientID with
  | error e => rw [hc] at h; cases h
  | ok clientID =>
    cases hu : parseOptionalUUID env "user_id" q.userID with
    | error e => rw [hc, hu] at h; cases h
    | ok userID =>
      cases hr : parseOptionalBool "is_revoked" q.isRevoked with
      | error e => rw [hc, hu, hr] at h; cases h
      | ok isRevoked =>
        rw [hc, hu, hr] at h
        obtain rfl := Except.ok.inj h
        exact ⟨rfl, rfl⟩

/-- **What reaches the database** is what was parsed. -/
theorem ApiRequest.call_pages (env : AdminEnv) {req : ApiRequest} (hreq : req.page = some q)
    (h : parsePaginationParams q = .ok (limit, offset)) (hpos : 1 ≤ limit.toInt) :
    (req.call env).Only (Request.Pages limit.toInt offset.toInt) := by
  cases req with
  | listClients q' isActive =>
    obtain rfl := Option.some.inj hreq
    refine Prog.Only.map ?_ _
    unfold listClientsHandler
    rw [h]
    dsimp only
    split
    · trivial
    · exact Prog.Only.map (listClients_pages hpos) _
  | listUsers q' isActive isAdmin =>
    obtain rfl := Option.some.inj hreq
    refine Prog.Only.map ?_ _
    unfold listUsersHandler
    rw [h]
    dsimp only
    split
    · trivial
    split
    · trivial
    · exact Prog.Only.map (listUsers_pages hpos) _
  | listAuthorizationCodes q' =>
    obtain rfl := Option.some.inj hreq
    refine Prog.Only.map ?_ _
    unfold listAuthorizationCodesHandler
    split
    · trivial
    · next params hparams =>
      obtain ⟨rfl, rfl⟩ := parseSessionQuery_page h hparams
      exact Prog.Only.map (listAuthorizationCodes_pages hpos) _
  | listAccessTokens q' =>
    obtain rfl := Option.some.inj hreq
    refine Prog.Only.map ?_ _
    unfold listAccessTokensHandler
    split
    · trivial
    · next params hparams =>
      obtain ⟨rfl, rfl⟩ := parseSessionQuery_page h hparams
      exact Prog.Only.map (listAccessTokens_pages hpos) _
  | _ => cases hreq

/-- **Pages are passed on.** Parameters that are accepted are passed on faithfully exactly if the offset stands for
a number below 2³¹. -/
theorem pages_passed_on_iff (h : parsePaginationParams q = .ok (limit, offset)) :
    PassedOn q limit offset ↔ ∀ o, Strconv.Denotes (q.offset.getD "0").toList o → o < 2 ^ 31 := by
  obtain ⟨l, o, hreads, rfl, rfl⟩ := parsePaginationParams_ok h
  have hlimit : (Int32.ofInt l).toInt = l :=
    toInt_ofInt_of_lt (by linarith [hreads.limit_pos]) (by linarith [hreads.limit_le])
  have hdenotes := (Strconv.atoi_eq_some_iff.mp hreads.offset).1
  constructor
  · intro hpassed o' ho'
    rw [ho'.unique hpassed.offset_denoted]
    exact Int32.toInt_lt _
  · intro hsmall
    have hoffset : (Int32.ofInt o).toInt = o := toInt_ofInt_of_lt hreads.offset_nonneg (hsmall o hdenotes)
    refine ⟨?_, ?_, ?_, ?_, ?_, fun env req hreq => ApiRequest.call_pages env hreq h ?_⟩
    · rw [hlimit]
      exact (Strconv.atoi_eq_some_iff.mp hreads.limit).1
    · rw [hoffset]
      exact hdenotes
    · rw [hlimit]
      exact hreads.limit_pos
    · rw [hlimit]
      exact hreads.limit_le
    · rw [hoffset]
      exact hreads.offset_nonneg
    · rw [hlimit]
      exact hreads.limit_pos

end Lists

section Examples

open Deployment

theorem pages_passed_on_iff_second :
    PassedOn ⟨some "50", some "+50"⟩ 50 50 := by
  have h : parsePaginationParams ⟨some "50", some "+50"⟩ = .ok (50, 50) := by decide +kernel
  refine (pages_passed_on_iff h).mpr fun o ho => ?_
  have hfifty := (Strconv.atoi_eq_some_iff (s := "+50") (n := 50)).mp (by decide +kernel)
  rw [ho.unique hfifty.1]
  decide

/-- **Other pages.** The offset 2147483648 is accepted and becomes negative, and 4294967301 is accepted and becomes
the offset 5. -/
theorem large_offsets_wrap :
    parsePaginationParams ⟨none, some "2147483648"⟩ = .ok (20, -2147483648) ∧
      ¬ PassedOn ⟨none, some "2147483648"⟩ 20 (-2147483648) ∧
      parsePaginationParams ⟨none, some "4294967301"⟩ = .ok (20, 5) ∧
      ¬ PassedOn ⟨none, some "4294967301"⟩ 20 5 := by
  have hdenotes := (Strconv.atoi_eq_some_iff (s := "4294967301") (n := 4294967301)).mp (by decide +kernel)
  refine ⟨by decide +kernel, fun h => absurd h.offset_nonneg (by decide), by decide +kernel, fun h => ?_⟩
  have heq : (5 : Int32).toInt = 4294967301 := h.offset_denoted.unique hdenotes.1
  exact absurd heq (by decide)

end Examples

end GoauthServer
