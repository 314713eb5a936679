import Mathlib.Algebra.Order.Ring.Rat
import Mathlib.Logic.Function.Basic
import VyuhHmi.Foundation.TokenBucket
import VyuhHmi.Models

/-!
# The rate limiter

One token bucket for each client address, created full at the first request.  A background task may
drop the buckets that have not been asked for five minutes: by then they have filled up, and the
next request finds the same tokens in a new one.  Tokens are exact rationals.
-/

namespace VyuhHmi

/-- Per-IP rate limit state. -/
structure Bucket where
  tokens : ℚ
  lastRefill : Instant
deriving DecidableEq

/-- Rate limiter configuration and its buckets. -/
structure RateLimiter where
  buckets : String → Option Bucket
  maxTokens : ℚ
  refillRate : ℚ

/-- `Instant::duration_since` in seconds, zero when the clock has not advanced. -/
def durationSince (now earlier : Instant) : ℚ := ((now - earlier : ℕ) : ℚ) / nanosPerSecond

/-- An instant in seconds. -/
def inSeconds (now : Instant) : ℚ := (now : ℚ) / nanosPerSecond

namespace RateLimiter

/-- Create a new rate limiter. -/
def new (maxTokens refillRate : ℚ) : RateLimiter where
  buckets := fun _ ↦ none
  maxTokens := maxTokens
  refillRate := refillRate

/-- Check if a request from this IP is allowed. -/
def check (limiter : RateLimiter) (ip : String) (now : Instant) : RateLimiter × Bool :=
  let bucket := (limiter.buckets ip).getD ⟨limiter.maxTokens, now⟩
  let elapsed := durationSince now bucket.lastRefill
  let tokens := min (bucket.tokens + elapsed * limiter.refillRate) limiter.maxTokens
  if 1 ≤ tokens then
    ({ limiter with buckets := Function.update limiter.buckets ip (some ⟨tokens - 1, now⟩) }, true)
  else
    ({ limiter with buckets := Function.update limiter.buckets ip (some ⟨tokens, now⟩) }, false)

/-- Drop the buckets that have not been refilled for 300 whole seconds. -/
def cleanup (limiter : RateLimiter) (now : Instant) : RateLimiter :=
  { limiter with
    buckets := fun ip ↦ (limiter.buckets ip).filter fun bucket ↦
      (now - bucket.lastRefill) / nanosPerSecond < 300 }

end RateLimiter

/-! ## Runs -/

/-- A request that is checked. -/
structure Check where
  ip : String
  now : Instant
deriving DecidableEq

/-- A check with its answer. -/
structure CheckAnswer extends Check where
  allowed : Bool
deriving DecidableEq

/-- A call of the limiter. -/
inductive LimiterCall
  | check (request : Check)
  | cleanup (now : Instant)
deriving DecidableEq

namespace LimiterCall

def now : LimiterCall → Instant
  | .check request => request.now
  | .cleanup now => now

def isCheck : LimiterCall → Bool
  | .check _ => true
  | .cleanup _ => false

end LimiterCall

namespace RateLimiter

/-- The limiter after a call. -/
def call (limiter : RateLimiter) : LimiterCall → RateLimiter
  | .check request => (limiter.check request.ip request.now).1
  | .cleanup now => limiter.cleanup now

/-- The limiter after some calls. -/
def afterCalls (limiter : RateLimiter) (calls : List LimiterCall) : RateLimiter :=
  calls.foldl call limiter

/-- The answers of the checks among some calls. -/
def answers (limiter : RateLimiter) : List LimiterCall → List CheckAnswer
  | [] => []
  | .check request :: calls =>
      ⟨request, (limiter.check request.ip request.now).2⟩ ::
        answers (limiter.call (.check request)) calls
  | .cleanup now :: calls => answers (limiter.call (.cleanup now)) calls

/-- The answers of the checks when nothing is ever cleaned up. -/
abbrev answersTo (limiter : RateLimiter) (requests : List Check) : List CheckAnswer :=
  limiter.answers (requests.map .check)

end RateLimiter

/-- The times of the checks of one address, in seconds. -/
def checkTimes (ip : String) (requests : List Check) : List ℚ :=
  (requests.filter fun request ↦ request.ip = ip).map fun request ↦ inSeconds request.now

/-! ## The bucket of an address -/

/-- A bucket with its time in seconds. -/
def Bucket.inSeconds (bucket : Bucket) : TokenBucket.Bucket ℚ :=
  ⟨bucket.tokens, (bucket.lastRefill : ℚ) / nanosPerSecond⟩

/-- The bucket of a client address. -/
def RateLimiter.bucketOf (limiter : RateLimiter) (ip : String) : Option (TokenBucket.Bucket ℚ) :=
  (limiter.buckets ip).map Bucket.inSeconds

section Buckets

variable {limiter limiter' : RateLimiter} {ip : String} {now earlier : Instant}
  {request : Check} {requests : List Check} {calls : List LimiterCall}

theorem nanosPerSecond_pos : (0 : ℚ) < nanosPerSecond := by norm_num [nanosPerSecond]

theorem inSeconds_le_inSeconds (h : earlier ≤ now) : inSeconds earlier ≤ inSeconds now :=
  div_le_div_of_nonneg_right (Nat.cast_le.mpr h) nanosPerSecond_pos.le

theorem durationSince_eq (now earlier : Instant) :
    durationSince now earlier =
      max 0 ((now : ℚ) / nanosPerSecond - (earlier : ℚ) / nanosPerSecond) := by
  unfold durationSince
  rcases le_total earlier now with hle | hle
  · rw [Nat.cast_sub hle, sub_div, max_eq_right]
    rw [← sub_div]
    exact div_nonneg (sub_nonneg.mpr (Nat.cast_le.mpr hle)) nanosPerSecond_pos.le
  · rw [Nat.sub_eq_zero_of_le hle, Nat.cast_zero, zero_div, max_eq_left]
    rw [← sub_div]
    exact div_nonpos_of_nonpos_of_nonneg (sub_nonpos.mpr (Nat.cast_le.mpr hle))
      nanosPerSecond_pos.le

theorem tokens_check (limiter : RateLimiter) (ip : String) (now : Instant) :
    let bucket := (limiter.buckets ip).getD ⟨limiter.maxTokens, now⟩
    min (bucket.tokens + durationSince now bucket.lastRefill * limiter.refillRate)
        limiter.maxTokens =
      TokenBucket.available limiter.maxTokens limiter.refillRate (limiter.bucketOf ip)
        ((now : ℚ) / nanosPerSecond) := by
  unfold RateLimiter.bucketOf
  cases limiter.buckets ip with
  | none => simp [TokenBucket.available, durationSince]
  | some bucket => simp [TokenBucket.available, Bucket.inSeconds, durationSince_eq]

/-- A check is a call on the bucket of its key; the other buckets stay as they are. -/
theorem check_spec (limiter : RateLimiter) (ip : String) (now : Instant) :
    (limiter.check ip now).2 = (TokenBucket.ask limiter.maxTokens limiter.refillRate
        (limiter.bucketOf ip) ((now : ℚ) / nanosPerSecond)).2 ∧
      (limiter.check ip now).1.maxTokens = limiter.maxTokens ∧
      (limiter.check ip now).1.refillRate = limiter.refillRate ∧
      ∀ ip', (limiter.check ip now).1.bucketOf ip' =
        if ip' = ip then some (TokenBucket.ask limiter.maxTokens limiter.refillRate
          (limiter.bucketOf ip) ((now : ℚ) / nanosPerSecond)).1
        else limiter.bucketOf ip' := by
  have htokens := tokens_check limiter ip now
  unfold RateLimiter.check TokenBucket.ask
  dsimp only at htokens ⊢
  rw [htokens]
  split
  all_goals
    refine ⟨rfl, rfl, rfl, fun ip' ↦ ?_⟩
    simp only [RateLimiter.bucketOf, Function.update_apply]
    split <;> rfl

/-- A call keeps the limiter's parameters. -/
@[simp] theorem parameters_call (limiter : RateLimiter) (call : LimiterCall) :
    (limiter.call call).maxTokens = limiter.maxTokens ∧
      (limiter.call call).refillRate = limiter.refillRate := by
  cases call with
  | check request =>
      obtain ⟨-, hmax, hrate, -⟩ := check_spec limiter request.ip request.now
      exact ⟨hmax, hrate⟩
  | cleanup now => exact ⟨rfl, rfl⟩

@[simp] theorem parameters_afterCalls (limiter : RateLimiter) (calls : List LimiterCall) :
    (limiter.afterCalls calls).maxTokens = limiter.maxTokens ∧
      (limiter.afterCalls calls).refillRate = limiter.refillRate := by
  induction calls generalizing limiter with
  | nil => exact ⟨rfl, rfl⟩
  | cons call calls ih =>
      have hrest := ih (limiter.call call)
      rw [(parameters_call limiter call).1, (parameters_call limiter call).2] at hrest
      exact hrest

theorem bucketOf_check (limiter : RateLimiter) (request : Check) (ip : String) :
    (limiter.call (.check request)).bucketOf ip =
      if ip = request.ip then some (TokenBucket.ask limiter.maxTokens limiter.refillRate
        (limiter.bucketOf request.ip) (inSeconds request.now)).1
      else limiter.bucketOf ip :=
  (check_spec limiter request.ip request.now).2.2.2 ip

theorem checkTimes_cons (ip : String) (request : Check) (requests : List Check) :
    checkTimes ip (request :: requests) =
      if ip = request.ip then inSeconds request.now :: checkTimes ip requests
      else checkTimes ip requests := by
  unfold checkTimes
  rw [List.filter_cons]
  by_cases hip : ip = request.ip
  · simp [hip]
  · simp [hip, Ne.symm hip]

/-- **One bucket for each address.** The bucket of an address is what its checks leave. -/
theorem bucketOf_afterChecks (limiter : RateLimiter) (ip : String) (requests : List Check) :
    (limiter.afterCalls (requests.map .check)).bucketOf ip =
      TokenBucket.after limiter.maxTokens limiter.refillRate (limiter.bucketOf ip)
        (checkTimes ip requests) := by
  induction requests generalizing limiter with
  | nil => rfl
  | cons request requests ih =>
      have hparameters := parameters_call limiter (.check request)
      calc
        _ = ((limiter.call (.check request)).afterCalls (requests.map .check)).bucketOf ip := rfl
        _ = TokenBucket.after limiter.maxTokens limiter.refillRate
              ((limiter.call (.check request)).bucketOf ip) (checkTimes ip requests) := by
          rw [ih, hparameters.1, hparameters.2]
        _ = _ := by
          rw [bucketOf_check, checkTimes_cons]
          by_cases hip : ip = request.ip
          · rw [if_pos hip, if_pos hip, ← hip]
            rfl
          · rw [if_neg hip, if_neg hip]

theorem checkTimes_sorted (horder : requests.Pairwise fun a b ↦ a.now ≤ b.now) (ip : String) :
    (checkTimes ip requests).Pairwise (· ≤ ·) := by
  unfold checkTimes
  rw [List.pairwise_map]
  exact (horder.filter _).imp inSeconds_le_inSeconds

end Buckets

end VyuhHmi
