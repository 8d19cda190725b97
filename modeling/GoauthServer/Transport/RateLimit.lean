import GoauthServer.Lib.TokenBucket
import GoauthServer.Transport.Middleware
import Mathlib.Data.NNRat.Defs
import Mathlib.Data.Rat.Floor

/-!
# Rate limits

`internal/middleware/ratelimit.go`. A `KeyedLimiter` has a limiter for every address or user, made when the key is
first seen, and forgets those that were not seen for `ttl`. A request takes a token from the limiter of its key; if
there is none it is answered with 429, and `retryAfterSeconds` finds out when to try again by reserving a token and
cancelling the reservation.

The calls to the limiter are the effects of a program (`enforce`), as each of them reads the clock and they are not
under one lock: requests with the same key interleave. `KeyedLimiter.serve` is a request that is handled at one
instant. Time is in seconds and exact, and so are the buckets.
-/

namespace GoauthServer

open Interact TokenBucket

/-! ### One limiter -/

/-- Calls to a limiter, and to a reservation of it. -/
inductive LimiterRequest where
  | allow
  | reserve
  | delay (r : Reservation ℚ)
  | cancel (r : Reservation ℚ)
  deriving DecidableEq

/-- What they return. -/
def LimiterRequest.Reply : LimiterRequest → Type
  | .allow => Bool
  | .reserve => Reservation ℚ
  | .delay _ => ℚ
  | .cancel _ => Unit

/-- The effects of a rate-limited request. -/
abbrev limiterEffects : Signature := ⟨LimiterRequest, LimiterRequest.Reply⟩

/-- A limiter and the time of the last call to it. -/
structure LimiterWorld where
  now : ℚ
  limiter : Limiter ℚ
  deriving DecidableEq

/-- Each call reads the clock, some time after the call before. -/
def LimiterRequest.respond (q : LimiterRequest) (elapsed : ℚ≥0) (w : LimiterWorld) : q.Reply × LimiterWorld :=
  let t := w.now + elapsed
  match q with
  | .allow => ((w.limiter.allow t).1, ⟨t, (w.limiter.allow t).2⟩)
  | .reserve => ((w.limiter.reserve t).1, ⟨t, (w.limiter.reserve t).2⟩)
  | .delay r => (r.delay t, ⟨t, w.limiter⟩)
  | .cancel r => ((), ⟨t, w.limiter.cancel r t⟩)

/-- A limiter as a backend of programs. -/
abbrev limiterBackend : Backend limiterEffects := ⟨LimiterWorld, ℚ≥0, LimiterRequest.respond⟩

/-- Whole seconds, and at least one. -/
def wholeSeconds (d : ℚ) : String := toString (max 1 ⌈d⌉)

/-- `retryAfterSeconds`. -/
def retryAfterSeconds : Prog limiterEffects String :=
  .call .reserve fun r => .call (.delay r) fun d => .call (.cancel r) fun _ => .ret (wholeSeconds d)

/-- What the middleware decides, with the header `Retry-After` of a rejection. -/
inductive Verdict where
  | admitted
  | tooManyRequests (retryAfter : String)
  deriving DecidableEq

/-- Both middlewares, once they have the limiter. -/
def enforce : Prog limiterEffects Verdict :=
  .call .allow fun
  | true => .ret .admitted
  | false => retryAfterSeconds.map .tooManyRequests

/-! ### Limiters by key -/

/-- `limiterEntry`. -/
structure LimiterEntry where
  limiter : Limiter ℚ
  lastSeen : ℚ
  deriving DecidableEq

/-- `keyedLimiter`. -/
structure KeyedLimiter where
  entries : String → Option LimiterEntry
  r : ℚ
  burst : ℕ
  ttl : ℚ

def newKeyedLimiter (r : ℚ) (burst : ℕ) (ttl : ℚ) : KeyedLimiter where
  entries _ := none
  r := r
  burst := burst
  ttl := ttl

namespace KeyedLimiter

/-- The limiter of a key, which is a new one if there is none yet. -/
def limiterOf (kl : KeyedLimiter) (key : String) : Limiter ℚ :=
  match kl.entries key with
  | some entry => entry.limiter
  | none => newLimiter kl.r kl.burst

def setEntry (kl : KeyedLimiter) (key : String) (entry : LimiterEntry) : KeyedLimiter :=
  { kl with entries := Function.update kl.entries key (some entry) }

/-- `getLimiter`, at the time `now`. -/
def getLimiter (kl : KeyedLimiter) (key : String) (now : ℚ) : Limiter ℚ × KeyedLimiter :=
  (kl.limiterOf key, kl.setEntry key ⟨kl.limiterOf key, now⟩)

/-- The loop of `cleanup`, which reads the clock for each entry. -/
def cleanup (kl : KeyedLimiter) (readings : String → ℚ) : KeyedLimiter :=
  { kl with
    entries := fun key => (kl.entries key).filter fun entry => ¬ kl.ttl < readings key - entry.lastSeen }

/-- A request that is handled at one instant. The limiter of the entry is a pointer: what is done to it is seen
by the next request with this key. -/
def serve (kl : KeyedLimiter) (key : String) (t : ℚ) : Verdict × KeyedLimiter :=
  let found := kl.getLimiter key t
  let decided := enforce.run limiterBackend (fun _ => (0 : ℚ≥0)) ⟨t, found.1⟩
  (decided.1, found.2.setEntry key ⟨decided.2.limiter, t⟩)

end KeyedLimiter

/-- The limiter that `RateLimitByIP` and `RateLimitByUser` make. -/
def perMinute (perMin burst : ℕ) : KeyedLimiter := newKeyedLimiter (perMin / 60) burst (5 * 60)

/-- `RateLimitByIP`. -/
def rateLimitByIP (kl : KeyedLimiter) (r : HttpRequest) (t : ℚ) : Verdict × KeyedLimiter := kl.serve r.clientIP t

/-- The answer of a middleware. -/
def Verdict.answer (ctx : Option AuthContext) : Verdict → Except ErrorReply (Option AuthContext)
  | .admitted => .ok ctx
  | .tooManyRequests _ =>
    .error ⟨429, "too_many_requests", some (.text "rate limit exceeded, please slow down")⟩

/-- `RateLimitByUser`, with what the limiter of the key says. -/
theorem rateLimitByUser_serve (kl : KeyedLimiter) (t : ℚ) (r : HttpRequest) (ctx : Option AuthContext) :
    rateLimitByUser (fun key => (kl.serve key t).1 = .admitted) r ctx =
      .ret ((kl.serve (rateLimitKey r ctx) t).1.answer ctx) := by
  unfold rateLimitByUser
  cases h : (kl.serve (rateLimitKey r ctx) t).1 with
  | admitted =>
    rw [if_pos (decide_eq_true h)]
    rfl
  | tooManyRequests retryAfter =>
    rw [if_neg (by simp [h])]
    rfl

/-! ### A request at one instant -/

section Instant

variable {l : Limiter ℚ} {t : ℚ}

/-- What a request finds out from the number of tokens. -/
def verdictOf (limit tokens : ℚ) : Verdict :=
  if 1 ≤ tokens then .admitted else .tooManyRequests (wholeSeconds ((1 - tokens) / limit))

/-- What it leaves. -/
def spend (tokens : ℚ) : ℚ := if 1 ≤ tokens then tokens - 1 else tokens

theorem spend_nonneg {tokens : ℚ} (h : 0 ≤ tokens) : 0 ≤ spend tokens := by
  unfold spend
  split
  · next hone => exact sub_nonneg.mpr hone
  · exact h

/-- **A request at one instant** takes a token if there is one, and otherwise leaves the tokens that there are: what
is reserved is given back. -/
theorem enforce_run (hlimit : 0 < l.limit) (hburst : 1 ≤ l.burst) :
    ∃ e, enforce.run limiterBackend (fun _ => (0 : ℚ≥0)) ⟨t, l⟩ = (verdictOf l.limit (l.advance t),
        ⟨t, { l with tokens := spend (l.advance t), last := t, lastEvent := e }⟩) := by
  have hsame : t + ((0 : ℚ≥0) : ℚ) = t := by rw [NNRat.cast_zero, add_zero]
  unfold verdictOf spend
  rcases le_or_gt 1 (l.advance t) with hle | hlt
  · refine ⟨t, ?_⟩
    rw [if_pos hle, if_pos hle]
    have hallow := Limiter.allow_of_le hle
    simp only [enforce, Prog.run, LimiterRequest.respond, hsame, hallow]
  · obtain ⟨e, hcancel⟩ := Limiter.cancel_reserve (t := t) hlimit hburst
    refine ⟨e, ?_⟩
    rw [if_neg (not_le.mpr hlt), if_neg (not_le.mpr hlt)]
    have hallow := Limiter.allow_of_lt hlimit hlt
    have hdelay : (l.reserve t).1.delay t = (1 - l.advance t) / l.limit := by
      rw [Limiter.reserve_eq hburst]
      show max 0 (t + l.wait t - t) = _
      rw [add_sub_cancel_left, max_eq_right (Limiter.wait_nonneg hlimit), Limiter.wait_of_lt hlt]
    simp only [enforce, retryAfterSeconds, Prog.map, Prog.bind, Prog.run, LimiterRequest.respond, hsame,
      hallow, hdelay, hcancel]

end Instant

end GoauthServer
