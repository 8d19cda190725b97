import GoauthServer.Framework.Exclusive
import GoauthServer.Service.Deployment
import GoauthServer.Spec.Exchange

/-!
# Redemption of a code under interleaving

Any number of calls of `ExchangeCodeForToken` present one code. The right to redeem it is held by
the row of the code while it is unused, and from then on by the call that has marked it
(`CodeHolder`). Only a call that has marked the code goes on to store tokens, so if the right has
one holder then one call is answered, and one access token and one refresh token are stored.

`MarkAuthorizationCodeUsed` is an update by primary key that does not look at `used_at`. Two calls
that have both read the row before either marks it both go on. The property holds where every
execution of the statement finds the row unused (`RedeemsUnused`).
-/

namespace GoauthServer

open Interact Relational

/-! ### What an exchange leaves alone -/

section Frame

variable {env : Env} {code : String} {q : Request} {log : Log effects} {d : Draw} {w : World}

theorem exchange_accessTokens (hq : exchangeRequest env code q log) :
    (respond q d w).2.db.accessTokens = w.db.accessTokens ∨ ∃ p, q = .sql (.createAccessToken p) := by
  rcases respond_db q d w with ⟨_, h⟩ | ⟨q', rfl, _, h⟩
  · exact Or.inl (by rw [h])
  · rw [h]
    cases q' with
    | createAccessToken p => exact Or.inr ⟨p, rfl⟩
    | _ => first | exact Or.inl rfl | exact hq.elim

theorem exchange_refreshTokens (hq : exchangeRequest env code q log) :
    (respond q d w).2.db.refreshTokens = w.db.refreshTokens ∨ ∃ p, q = .sql (.createRefreshToken p) := by
  rcases respond_db q d w with ⟨_, h⟩ | ⟨q', rfl, _, h⟩
  · exact Or.inl (by rw [h])
  · rw [h]
    cases q' with
    | createRefreshToken p => exact Or.inr ⟨p, rfl⟩
    | _ => first | exact Or.inl rfl | exact hq.elim

/-- The codes stay, and an unused one was so before and was not marked. -/
theorem exchange_codes_evolve (hq : exchangeRequest env code q log) :
    Table.Evolves AuthorizationCode.Later w.db.authorizationCodes
      (respond q d w).2.db.authorizationCodes := by
  refine respond_authorizationCodes ?_
  -- an exchange neither cleans up nor deletes a provider
  rintro q' rfl
  cases q' <;> first | rfl | exact hq.elim

theorem exchange_unused (hq : exchangeRequest env code q log) {c' : AuthorizationCode}
    (h : c' ∈ (respond q d w).2.db.authorizationCodes.rows) (hunused : c'.usedAt = none) :
    ∃ c ∈ w.db.authorizationCodes.rows, c.usedAt = none ∧ c.Later c' ∧
      (d.fault = false → q ≠ .sql (.markAuthorizationCodeUsed c.id)) := by
  rcases respond_db q d w with ⟨hf, hdb⟩ | ⟨q', rfl, _, hdb⟩
  · rw [hdb] at h
    refine ⟨c', h, hunused, .refl c', fun hf' heq => ?_⟩
    rw [hf _ heq] at hf'
    cases hf'
  · rw [hdb] at h
    rcases (q'.authorizationCodes_step _ _ _).origin h with ⟨c, hc, hstep⟩ | ⟨p, rfl, _⟩
    · obtain ⟨hu, hne⟩ := hstep.unused hunused
      exact ⟨c, hc, hu, hstep.later, fun _ heq => hne (Request.sql.inj heq)⟩
    · exact hq.elim

end Frame

/-! ### The right to redeem -/

section Holder

variable {ι α : Type}

/-- The right to redeem `code` is held by its row while it is unused, and by the call that has
marked it. -/
def CodeHolder (code : String) (c : Pool backend ι α) : Unit ⊕ ι → Prop
  | .inl _ => ∃ r ∈ c.world.db.authorizationCodes.rows, r.code = code ∧ r.usedAt = none
  | .inr i => redeemed (c.threads i).log = true

/-- The authorization code a request marks as used. -/
def Request.redeems? : Request → Option UUID
  | .sql (.markAuthorizationCodeUsed id) => some id
  | _ => none

/-- The condition on a step: where it executes `MarkAuthorizationCodeUsed`, the row is unused. -/
def RedeemsUnused (c : Pool backend ι α) (i : ι) (d : Draw) : Prop :=
  ∀ id ∈ (c.next? i).bind Request.redeems?, d.fault = false →
    ∀ r ∈ c.world.db.authorizationCodes.rows, r.id = id → r.usedAt = none

instance (c : Pool backend ι α) (i : ι) (d : Draw) : Decidable (RedeemsUnused c i d) :=
  Option.decidableForallMem _

/-- What a call has read is in the table, in a later state of the row, and it is the code the call
was given. Tokens are stored only after the code was marked. -/
structure CodeSeen (code : String) (log : Log effects) (w : World) : Prop where
  record : ∀ r, readCode log = some r →
    r.code = code ∧ ∃ r' ∈ w.db.authorizationCodes.rows, r.Later r'
  access : (storedAccess log).isSome = true → redeemed log = true
  refresh : created log = true → redeemed log = true

section CodeSeen

variable {env : Env} {code : String} {log : Log effects} {q : Request} {d : Draw} {w : World}

theorem CodeSeen.nil (code : String) (w : World) : CodeSeen code [] w :=
  ⟨fun _ h => (by cases h), fun h => (by cases h), fun h => (by cases h)⟩

theorem CodeSeen.other {log' : Log effects} (hq : exchangeRequest env code q log')
    (h : CodeSeen code log w) : CodeSeen code log (respond q d w).2 := by
  refine ⟨fun r hr => ?_, h.access, h.refresh⟩
  obtain ⟨hcode, r', hr', hlater⟩ := h.record r hr
  obtain ⟨r'', hr'', hlater'⟩ := exchange_codes_evolve (d := d) hq r' hr'
  exact ⟨hcode, r'', hr'', hlater.trans hlater'⟩

theorem CodeSeen.self (hq : exchangeRequest env code q log) (h : CodeSeen code log w) :
    CodeSeen code (⟨q, (respond q d w).1⟩ :: log) (respond q d w).2 := by
  have hgrow : redeemed log = true → redeemed (⟨q, (respond q d w).1⟩ :: log) = true :=
    fun hred => Bool.or_eq_true_iff.mpr (Or.inr hred)
  refine ⟨fun r hr => ?_, fun ha => hgrow ?_, fun hc => hgrow ?_⟩
  · rcases readCode_respond hr with hold | ⟨code', rfl, hmem, hcode⟩
    · exact (h.other (d := d) hq).record r hold
    · obtain ⟨r', hr', hlater⟩ := exchange_codes_evolve (d := d) hq r hmem
      exact ⟨hcode.trans hq.1, r', hr', hlater⟩
  · obtain ⟨a, ha⟩ := Option.isSome_iff_exists.mp ha
    rcases storedAccess_respond ha with hold | ⟨p, rfl, _⟩
    · exact h.access (by rw [hold]; rfl)
    · obtain ⟨_, _, _, _, _, _, hred, _⟩ := hq
      exact hred
  · rcases insert_of_created_respond hc with hold | ⟨p, rfl, _⟩
    · exact h.refresh hold
    · obtain ⟨_, _, _, _, _, _, hred, _⟩ := hq
      exact hred

end CodeSeen

/-- The calls know what they have read, the right to redeem has at most one holder, and tokens
were stored at most once since the tables were `access₀` and `refresh₀`. -/
structure CodeInv (code : String) (access₀ : List AccessToken) (refresh₀ : List RefreshToken)
    (c : Pool backend ι α) : Prop where
  seen : ∀ i, CodeSeen code (c.threads i).log c.world
  holder : Exclusive fun _ : Unit => CodeHolder code c
  access : AppendedOnce (fun i => (storedAccess (c.threads i).log).isSome = true) access₀
    c.world.db.accessTokens.rows
  refresh : AppendedOnce (fun i => created (c.threads i).log = true) refresh₀
    c.world.db.refreshTokens.rows

variable {env : Env} {code : String} {access₀ : List AccessToken} {refresh₀ : List RefreshToken}
  {c : Pool backend ι α} {i : ι} {d : Draw} {q : Request} {k : q.Reply → Call α}

/-- Only one call has marked the code. -/
theorem CodeInv.redeemed_unique (h : CodeInv code access₀ refresh₀ c) {j : ι}
    (hi : redeemed (c.threads i).log = true) (hj : redeemed (c.threads j).log = true) : i = j :=
  Sum.inr.inj (h.holder () (.inr i) (.inr j) hi hj)

variable [DecidableEq ι]

/-- A step hands the right from the row to the call that marks it, or drops it. -/
theorem CodeInv.holder_step (h : CodeInv code access₀ refresh₀ c) (hi : (c.threads i).prog = .call q k)
    (hq : exchangeRequest env code q (c.threads i).log) (hguard : RedeemsUnused c i d) :
    Exclusive fun _ : Unit => CodeHolder code (c.step i d) := by
  have hrow : ∀ u, CodeHolder code (c.step i d) (.inl u) →
      ∃ r ∈ c.world.db.authorizationCodes.rows, r.code = code ∧ r.usedAt = none ∧
        (d.fault = false → q ≠ .sql (.markAuthorizationCodeUsed r.id)) := by
    rintro _ ⟨r', hr', rfl, hunused⟩
    rw [Pool.step_world_of_call hi] at hr'
    obtain ⟨r, hr, hu, hlater, hne⟩ := exchange_unused hq hr' hunused
    exact ⟨r, hr, hlater.code.symm, hu, hne⟩
  have hother : ∀ j, j ≠ i → CodeHolder code (c.step i d) (.inr j) → CodeHolder code c (.inr j) := by
    intro j hij hj
    simpa only [CodeHolder, Pool.step_threads_of_ne hij] using hj
  by_cases hm : ∃ id, q = .sql (.markAuthorizationCodeUsed id) ∧ d.fault = false
  · obtain ⟨id, rfl, hf⟩ := hm
    obtain ⟨r, hread, _, rfl, _⟩ := hq
    obtain ⟨hcode, r', hr', hlater⟩ := (h.seen i).record r hread
    have hmark : r.id ∈ (c.next? i).bind Request.redeems? := by
      rw [Pool.next?_of_call hi]
      rfl
    refine h.holder.handOver (.inl ()) (.inr i) fun _ z hz => ?_
    rcases z with u | j
    · -- the marked row was the only one of this code
      obtain ⟨r₂, hr₂, hcode₂, _, hne⟩ := hrow u hz
      have heq : r₂ = r' := Store.code_eq hr₂ hr' (Or.inr (by rw [hcode₂, hlater.code, hcode]))
      exact absurd (by rw [heq, hlater.id]) (hne hf)
    · by_cases hij : j = i
      · exact Or.inr ⟨by rw [hij], r', hr', hlater.code.trans hcode, hguard r.id hmark hf r' hr' hlater.id⟩
      · exact Or.inl ⟨hother j hij hz, by simp⟩
  · refine h.holder.mono fun _ z hz => ?_
    rcases z with u | j
    · obtain ⟨r, hr, hcode, hu, _⟩ := hrow u hz
      exact ⟨r, hr, hcode, hu⟩
    · by_cases hij : j = i
      · subst hij
        simp only [CodeHolder, Pool.step_threads_self hi] at hz
        rcases redeemed_respond hz with hold | hnow
        · exact hold
        · exact absurd hnow hm
      · exact hother j hij hz

theorem CodeInv.access_step (h : CodeInv code access₀ refresh₀ c)
    (hi : (c.threads i).prog = .call q k) (hq : exchangeRequest env code q (c.threads i).log) :
    AppendedOnce (fun j => (storedAccess ((c.step i d).threads j).log).isSome = true) access₀
      (c.step i d).world.db.accessTokens.rows := by
  have hgrow : ∀ j, (storedAccess (c.threads j).log).isSome = true →
      (storedAccess ((c.step i d).threads j).log).isSome = true := fun j =>
    Pool.step_log_mono (P := fun log => (storedAccess log).isSome = true) fun e log hlog => by
      obtain ⟨x, hx, hsome⟩ := List.findSome?_isSome_iff.mp hlog
      exact List.findSome?_isSome_iff.mpr ⟨x, List.mem_cons_of_mem e hx, hsome⟩
  rw [step_world hi]
  rcases exchange_accessTokens (d := d) (w := c.world) hq with hsame | ⟨p, rfl⟩
  · rw [hsame]
    exact h.access.mono hgrow
  rcases respond_createAccessToken d c.world p with ⟨e, _, hdb⟩ | ⟨t, hins, hr, ht⟩
  · rw [hdb]
    exact h.access.mono hgrow
  · obtain ⟨_, _, _, _, _, _, hred, _, hnone, _⟩ := hq
    rw [ht, (Table.insert_eq_some hins).1]
    refine h.access.append (fun j hj => ?_) (y := i) ?_ _
    · obtain rfl := h.redeemed_unique hred ((h.seen j).access hj)
      rw [hnone] at hj
      cases hj
    · rw [step_log hi, hr]
      rfl

theorem CodeInv.refresh_step (h : CodeInv code access₀ refresh₀ c)
    (hi : (c.threads i).prog = .call q k) (hq : exchangeRequest env code q (c.threads i).log) :
    AppendedOnce (fun j => created ((c.step i d).threads j).log = true) refresh₀
      (c.step i d).world.db.refreshTokens.rows := by
  have hgrow : ∀ j, created (c.threads j).log = true → created ((c.step i d).threads j).log = true := fun j =>
    Pool.step_log_mono (P := fun log => created log = true) fun e log hlog =>
      Bool.or_eq_true_iff.mpr (Or.inr hlog)
  rw [step_world hi]
  rcases exchange_refreshTokens (d := d) (w := c.world) hq with hsame | ⟨p, rfl⟩
  · rw [hsame]
    exact h.refresh.mono hgrow
  rcases respond_createRefreshToken d c.world p with ⟨e, _, hdb⟩ | ⟨t, hins, hr, ht⟩
  · rw [hdb]
    exact h.refresh.mono hgrow
  · obtain ⟨_, _, _, _, _, _, hred, hnew, _⟩ := hq
    rw [ht, (Table.insert_eq_some hins).1]
    refine h.refresh.append (fun j hj => ?_) (y := i) ?_ _
    · obtain rfl := h.redeemed_unique hred ((h.seen j).refresh hj)
      rw [hnew] at hj
      cases hj
    · rw [step_log hi, hr]
      rfl

/-- **One step keeps the right to redeem with one holder**, and tokens are stored once. -/
theorem CodeInv.step (h : CodeInv code access₀ refresh₀ c) (hi : (c.threads i).prog = .call q k)
    (hq : exchangeRequest env code q (c.threads i).log) (hguard : RedeemsUnused c i d) :
    CodeInv code access₀ refresh₀ (c.step i d) where
  seen := Pool.forall_log_step (J := fun _ => CodeSeen code) hi (fun hs => hs.self hq)
    (fun _ _ hs => hs.other hq) h.seen
  holder := h.holder_step hi hq hguard
  access := h.access_step hi hq
  refresh := h.refresh_step hi hq

end Holder

/-! ### Concurrent exchanges -/

/-- The arguments of `ExchangeCodeForToken` besides the code. -/
structure ExchangeArgs where
  clientID : UUID
  clientSecret : String
  redirectURI : String

/-- Calls of `ExchangeCodeForToken` with one code that are about to start. -/
def exchanges {ι : Type} (env : Env) (code : String) (args : ι → ExchangeArgs) (w : World) :
    Pool backend ι (Except AuthError TokenResponse) :=
  Pool.start (fun i =>
    exchangeCodeForToken env code (args i).clientID (args i).clientSecret (args i).redirectURI) w

section Exchanges

variable {ι : Type} {env : Env} {code : String} {args : ι → ExchangeArgs} {w : World}

theorem exchanges_obeys (env : Env) (code : String) (args : ι → ExchangeArgs) (w : World) :
    Pool.Obeys (fun _ => exchangeProtocol env code) (exchanges env code args w) :=
  Pool.Obeys.start (B := backend) (fun i => exchangeCodeForToken_obeys env code (args i).clientID
    (args i).clientSecret (args i).redirectURI) w

theorem codeInv_start : CodeInv code w.db.accessTokens.rows w.db.refreshTokens.rows
    (exchanges env code args w) where
  seen i := CodeSeen.nil code w
  holder := by
    -- no call has started, so only the row can hold the right
    rintro _ (u | i) (u' | j) hx hy
    · rfl
    · cases hy
    · cases hx
    · cases hx
  access := .refl _ _
  refresh := .refl _ _

variable [DecidableEq ι]

/-- **An authorization code is redeemed at most once**, if every `MarkAuthorizationCodeUsed` finds
its row unused: whatever the schedule, at most one call is answered with a response, and at most
one access token and one refresh token are stored. -/
theorem redeem_at_most_once (schedule : List (ι × Draw))
    (hguard : Pool.Along RedeemsUnused (exchanges env code args w) schedule) :
    (∀ i j, ((exchanges env code args w).run schedule).Succeeded i →
      ((exchanges env code args w).run schedule).Succeeded j → i = j) ∧
    (∃ new, ((exchanges env code args w).run schedule).world.db.accessTokens.rows =
      w.db.accessTokens.rows ++ new ∧ new.length ≤ 1) ∧
    ∃ new, ((exchanges env code args w).run schedule).world.db.refreshTokens.rows =
      w.db.refreshTokens.rows ++ new ∧ new.length ≤ 1 := by
  have hinv : CodeInv code w.db.accessTokens.rows w.db.refreshTokens.rows
      ((exchanges env code args w).run schedule) :=
    Pool.invariant (fun _ _ _ _ _ hi hq hC hI => hI.step hi hq hC)
      (exchanges_obeys env code args w) codeInv_start hguard
  refine ⟨fun i j ⟨resp, hi⟩ ⟨resp', hj⟩ => ?_, hinv.access.exists_append,
    hinv.refresh.exists_append⟩
  have hobeys := (exchanges_obeys env code args w).run schedule
  obtain ⟨_, _, _, _, hred, _⟩ := hobeys.result hi resp rfl
  obtain ⟨_, _, _, _, hred', _⟩ := hobeys.result hj resp' rfl
  exact hinv.redeemed_unique hred hred'

end Exchanges

open Deployment (turns)

/-- Two exchanges of one code, in the deployment. -/
def twoExchanges : Pool backend Bool (Except AuthError TokenResponse) :=
  exchanges Deployment.env "auth-code" (fun _ => ⟨1, "s3cret", "https://app.example/callback"⟩)
    ⟨0, Deployment.store⟩

/-- One after the other: the first is answered, the second finds the code used. -/
theorem redeem_at_most_once_in_turn :
    Pool.Along RedeemsUnused twoExchanges (turns 13 true ++ turns 13 false) ∧
      (twoExchanges.run (turns 13 true ++ turns 13 false)).Succeeded true ∧
      ¬ (twoExchanges.run (turns 13 true ++ turns 13 false)).Succeeded false := by
  have hguard : Pool.Along RedeemsUnused twoExchanges (turns 13 true ++ turns 13 false) := by
    decide +kernel
  have hanswered : (twoExchanges.run (turns 13 true ++ turns 13 false)).Succeeded true := by
    decide +kernel
  obtain ⟨honce, _⟩ := redeem_at_most_once _ hguard
  exact ⟨hguard, hanswered, fun h => Bool.noConfusion (honce true false hanswered h)⟩

/-- **Both exchanges are answered** where each has read the code before the other marks it, and
two access tokens and two families of refresh tokens are stored. -/
theorem redeem_twice_interleaved :
    (twoExchanges.run (turns 3 true ++ turns 3 false ++ turns 10 true ++
        turns 10 false)).Succeeded true ∧
      (twoExchanges.run (turns 3 true ++ turns 3 false ++ turns 10 true ++
        turns 10 false)).Succeeded false ∧
      (twoExchanges.run (turns 3 true ++ turns 3 false ++ turns 10 true ++
        turns 10 false)).world.db.accessTokens.rows.length = 2 ∧
      (twoExchanges.run (turns 3 true ++ turns 3 false ++ turns 10 true ++
        turns 10 false)).world.db.refreshTokens.rows.map (·.tokenFamilyID) = [9, 20, 21] := by
  decide +kernel

end GoauthServer
