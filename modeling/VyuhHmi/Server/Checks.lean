import VyuhHmi.Server.Limiter

/-!
# What the rate limiter allows

The answers of a limiter over whole runs: how many checks of an address it allows in a window of
time, which it always allows, and on what its answers depend.  Cleaning up is invisible: a bucket
that is dropped had filled up, as one created at the next check is.
-/

namespace VyuhHmi

variable {limiter limiter' : RateLimiter} {ip : String} {requests : List Check}
  {calls : List LimiterCall}

/-! ## Answers -/

theorem answers_append (limiter : RateLimiter) (first second : List LimiterCall) :
    limiter.answers (first ++ second) =
      limiter.answers first ++ (limiter.afterCalls first).answers second := by
  induction first generalizing limiter with
  | nil => rfl
  | cons call first ih =>
      cases call with
      | check request =>
          rw [List.cons_append, RateLimiter.answers, ih]
          rfl
      | cleanup now =>
          rw [List.cons_append, RateLimiter.answers, ih]
          rfl

theorem answersTo_cons (limiter : RateLimiter) (request : Check) (requests : List Check) :
    limiter.answersTo (request :: requests) =
      ⟨request, (limiter.check request.ip request.now).2⟩ ::
        (limiter.call (.check request)).answersTo requests := rfl

@[simp] theorem length_answersTo (limiter : RateLimiter) (requests : List Check) :
    (limiter.answersTo requests).length = requests.length := by
  induction requests generalizing limiter with
  | nil => rfl
  | cons request requests ih => exact congrArg (· + 1) (ih _)

/-- A check is answered by the bucket of its address. -/
theorem allowed_eq (limiter : RateLimiter) (request : Check) :
    (limiter.check request.ip request.now).2 =
      (TokenBucket.ask limiter.maxTokens limiter.refillRate (limiter.bucketOf request.ip)
        (inSeconds request.now)).2 :=
  (check_spec limiter request.ip request.now).1

/-- The checks of an address that are allowed are the calls that its bucket admits. -/
theorem allowedTimes_eq (limiter : RateLimiter) (ip : String) (requests : List Check) :
    (((limiter.answersTo requests).filter fun answer ↦ answer.ip = ip ∧ answer.allowed).map
        fun answer ↦ inSeconds answer.now) =
      TokenBucket.admitted limiter.maxTokens limiter.refillRate (limiter.bucketOf ip)
        (checkTimes ip requests) := by
  induction requests generalizing limiter with
  | nil => rfl
  | cons request requests ih =>
      have hparameters := parameters_call limiter (.check request)
      have hrest := ih (limiter.call (.check request))
      rw [hparameters.1, hparameters.2, bucketOf_check] at hrest
      rw [answersTo_cons, List.filter_cons, checkTimes_cons, allowed_eq]
      by_cases hip : ip = request.ip
      · rw [if_pos hip] at hrest ⊢
        subst hip
        rw [TokenBucket.admitted, ← hrest]
        cases (TokenBucket.ask limiter.maxTokens limiter.refillRate
          (limiter.bucketOf request.ip) (inSeconds request.now)).2 with
        | true => simp
        | false => simp
      · rw [if_neg hip] at hrest ⊢
        rw [← hrest]
        simp [Ne.symm hip]

/-- **Per address.** The answers for an address are decided by its own checks. -/
theorem answers_filter_eq (hbucket : limiter.bucketOf ip = limiter'.bucketOf ip)
    (hmax : limiter.maxTokens = limiter'.maxTokens)
    (hrate : limiter.refillRate = limiter'.refillRate) (requests : List Check) :
    ((limiter.answersTo requests).filter fun answer ↦ answer.ip = ip) =
      limiter'.answersTo (requests.filter fun request ↦ request.ip = ip) := by
  induction requests generalizing limiter limiter' with
  | nil => rfl
  | cons request requests ih =>
      have hparameters := parameters_call limiter (.check request)
      rw [answersTo_cons, List.filter_cons, List.filter_cons]
      by_cases hip : request.ip = ip
      · subst hip
        have hparameters' := parameters_call limiter' (.check request)
        have hrest := @ih (limiter.call (.check request)) (limiter'.call (.check request))
          (by rw [bucketOf_check, bucketOf_check, hbucket, hmax, hrate])
          (by rw [hparameters.1, hparameters'.1, hmax])
          (by rw [hparameters.2, hparameters'.2, hrate])
        have hanswer : (limiter.check request.ip request.now).2 =
            (limiter'.check request.ip request.now).2 := by
          rw [allowed_eq, allowed_eq, hbucket, hmax, hrate]
        simp only [decide_true, if_true]
        rw [answersTo_cons, ← hrest, hanswer]
      · have hrest := @ih (limiter.call (.check request)) limiter'
          (by rw [bucketOf_check, if_neg (Ne.symm hip), hbucket])
          (by rw [hparameters.1, hmax]) (by rw [hparameters.2, hrate])
        simp only [hip, decide_false, Bool.false_eq_true, if_false]
        exact hrest

/-! ## What is allowed -/

/-- In a window of time an address gets its burst and what flows in. -/
theorem countP_allowed_le {B r : ℚ} (hB : 1 ≤ B) (hr : 0 < r)
    (horder : requests.Pairwise fun a b ↦ a.now ≤ b.now) (ip : String) (start : ℚ) {d : ℚ}
    (hd : 0 ≤ d) :
    (((RateLimiter.new B r).answersTo requests).countP fun answer ↦ answer.ip = ip ∧
      answer.allowed ∧ start ≤ inSeconds answer.now ∧ inSeconds answer.now ≤ start + d : ℚ) ≤
        B + r * d := by
  have hcount : ((RateLimiter.new B r).answersTo requests).countP (fun answer ↦ answer.ip = ip ∧
      answer.allowed ∧ start ≤ inSeconds answer.now ∧ inSeconds answer.now ≤ start + d) =
      (TokenBucket.admitted B r none (checkTimes ip requests)).countP fun time ↦
        start ≤ time ∧ time ≤ start + d := by
    have htimes : _ = TokenBucket.admitted B r none (checkTimes ip requests) :=
      allowedTimes_eq (RateLimiter.new B r) ip requests
    rw [← htimes, List.countP_map, List.countP_filter]
    apply List.countP_congr
    intro answer _
    simp only [Function.comp_apply, Bool.and_eq_true, decide_eq_true_eq]
    tauto
  rw [hcount]
  have hbound := @TokenBucket.countP_window_le ℚ _ _ B r start (start + d) none
    (checkTimes ip requests) _ (zero_le_one.trans hB) hr.le (checkTimes_sorted horder ip)
    (fun b hb ↦ by cases hb) (by linarith)
  calc
    _ ≤ B + r * (start + d - start) := hbound
    _ = B + r * d := by rw [add_sub_cancel_left]

/-- A check that comes a token's time after the address's other checks is allowed. -/
theorem allowed_of_spaced {B r : ℚ} (hB : 1 ≤ B) (hr : 0 < r) {before after : List Check}
    {request : Check} (hgap : ∀ earlier ∈ before, earlier.ip = request.ip →
      inSeconds earlier.now + 1 / r ≤ inSeconds request.now) :
    ((RateLimiter.new B r).answersTo (before ++ request :: after))[before.length]? =
      some ⟨request, true⟩ := by
  have hbucket := bucketOf_afterChecks (RateLimiter.new B r) request.ip before
  have hparameters := parameters_afterCalls (RateLimiter.new B r) (before.map .check)
  have htokens : 1 ≤ TokenBucket.available B r
      (TokenBucket.after B r none (checkTimes request.ip before)) (inSeconds request.now) := by
    apply TokenBucket.one_le_available_of_spaced hB hr
    intro time htime
    obtain ⟨earlier, hmem, rfl⟩ := List.mem_map.mp htime
    obtain ⟨hearlier, hip⟩ := List.mem_filter.mp hmem
    exact hgap earlier hearlier (of_decide_eq_true hip)
  have hlength := length_answersTo (RateLimiter.new B r) before
  rw [RateLimiter.answersTo, List.map_append, answers_append, List.map_cons, RateLimiter.answers,
    List.getElem?_append_right hlength.le, hlength, Nat.sub_self, List.getElem?_cons_zero,
    allowed_eq, hbucket, hparameters.1, hparameters.2, TokenBucket.ask_snd]
  exact congrArg (fun allowed ↦ some (CheckAnswer.mk request allowed)) (decide_eq_true htokens)

/-- **Rate.** What the limiter allows an address, for any run of checks. -/
theorem answersTo_limited {B r : ℚ} (hB : 1 ≤ B) (hr : 0 < r)
    (horder : requests.Pairwise fun a b ↦ a.now ≤ b.now) (ip : String) :
    (∀ start d : ℚ, 0 ≤ d →
      (((RateLimiter.new B r).answersTo requests).countP fun answer ↦ answer.ip = ip ∧
        answer.allowed ∧ start ≤ inSeconds answer.now ∧ inSeconds answer.now ≤ start + d : ℚ) ≤
          B + r * d) ∧
    (∀ before request after, requests = before ++ request :: after → request.ip = ip →
      (∀ earlier ∈ before, earlier.ip = ip →
        inSeconds earlier.now + 1 / r ≤ inSeconds request.now) →
      ((RateLimiter.new B r).answersTo requests)[before.length]? = some ⟨request, true⟩) ∧
    ((RateLimiter.new B r).answersTo requests).filter (fun answer ↦ answer.ip = ip) =
      (RateLimiter.new B r).answersTo (requests.filter fun request ↦ request.ip = ip) := by
  refine ⟨fun start d hd ↦ countP_allowed_le hB hr horder ip start hd, ?_,
    answers_filter_eq rfl rfl rfl requests⟩
  rintro before request after rfl rfl hgap
  exact allowed_of_spaced hB hr hgap

/-- Two requests at once and one a second later, from two addresses. -/
def twoAddresses : List Check :=
  [⟨"192.0.2.1", 0⟩, ⟨"192.0.2.1", 0⟩, ⟨"192.0.2.2", 0⟩, ⟨"192.0.2.1", 1000000000⟩]

theorem answersTo_limited_twoAddresses :
    (((RateLimiter.new 1 1).answersTo twoAddresses).countP fun answer ↦
        answer.ip = "192.0.2.1" ∧ answer.allowed ∧ 0 ≤ inSeconds answer.now ∧
          inSeconds answer.now ≤ 0 + 0 : ℚ) ≤ 1 + 1 * 0 ∧
      ((RateLimiter.new 1 1).answersTo twoAddresses)[3]? =
        some ⟨⟨"192.0.2.1", 1000000000⟩, true⟩ := by
  have hlimited := @answersTo_limited twoAddresses 1 1 le_rfl one_pos (by decide) "192.0.2.1"
  refine ⟨hlimited.1 0 0 le_rfl, hlimited.2.1 (twoAddresses.take 3) _ [] rfl rfl ?_⟩
  intro earlier hmem _
  have hnow : earlier.now = 0 := by
    revert earlier
    decide
  norm_num [hnow, inSeconds, nanosPerSecond]

/-! ## Cleaning up -/

/-- The first limiter has bucket for bucket the tokens of the second from this time on. -/
structure RateLimiter.Tracks (now : ℚ) (limiter limiter' : RateLimiter) : Prop where
  maxTokens : limiter.maxTokens = limiter'.maxTokens
  refillRate : limiter.refillRate = limiter'.refillRate
  alike : ∀ ip, TokenBucket.Alike limiter.maxTokens limiter.refillRate now (limiter.bucketOf ip)
    (limiter'.bucketOf ip)
  tokens : ∀ ip, ∀ b ∈ limiter.bucketOf ip, 0 ≤ b.tokens

namespace RateLimiter.Tracks

variable {now : ℚ} {request : Check}

theorem allowed (h : limiter.Tracks now limiter') (hnow : now ≤ inSeconds request.now) :
    (limiter.check request.ip request.now).2 = (limiter'.check request.ip request.now).2 := by
  rw [allowed_eq, allowed_eq, (h.alike request.ip).ask_eq hnow, h.maxTokens, h.refillRate]

/-- After a check the two buckets of its address are the same. -/
theorem check (h : limiter.Tracks now limiter') (hmax : 0 ≤ limiter.maxTokens)
    (hrate : 0 ≤ limiter.refillRate) (hnow : now ≤ inSeconds request.now) :
    (limiter.call (.check request)).Tracks (inSeconds request.now)
      (limiter'.call (.check request)) := by
  have hparameters := parameters_call limiter (.check request)
  have hparameters' := parameters_call limiter' (.check request)
  refine ⟨by rw [hparameters.1, hparameters'.1, h.maxTokens],
    by rw [hparameters.2, hparameters'.2, h.refillRate], fun ip ↦ ?_, fun ip b hb ↦ ?_⟩
  · rw [hparameters.1, hparameters.2, bucketOf_check, bucketOf_check]
    split
    case isTrue =>
        rw [(h.alike request.ip).ask_eq hnow, h.maxTokens, h.refillRate]
        exact fun _ _ ↦ rfl
    case isFalse => exact (h.alike ip).mono hnow
  · rw [bucketOf_check] at hb
    split at hb
    case isTrue =>
        obtain rfl := Option.some.inj hb
        exact TokenBucket.tokens_ask_nonneg hmax hrate (h.tokens request.ip)
    case isFalse => exact h.tokens ip b hb

/-- A bucket that a cleanup drops has had time to fill up. -/
theorem cleanup (h : limiter.Tracks now limiter') (hrate : 0 ≤ limiter.refillRate)
    (hfull : limiter.maxTokens ≤ 300 * limiter.refillRate) {time : Instant}
    (hnow : now ≤ inSeconds time) :
    (limiter.cleanup time).Tracks (inSeconds time) limiter' := by
  have hbucket (ip : String) : (limiter.cleanup time).bucketOf ip = limiter.bucketOf ip ∨
      (limiter.cleanup time).bucketOf ip = none ∧ ∃ b, limiter.bucketOf ip = some b ∧
        300 ≤ inSeconds time - b.filledAt := by
    unfold RateLimiter.bucketOf RateLimiter.cleanup
    cases hentry : limiter.buckets ip with
    | none => exact .inl (by simp [hentry])
    | some bucket =>
        by_cases hkept : (time - bucket.lastRefill) / nanosPerSecond < 300
        · exact .inl (by simp [hentry, hkept])
        · refine .inr ⟨by simp [hentry, not_lt.mp hkept], bucket.inSeconds, rfl, ?_⟩
          have hnanos : 300 * nanosPerSecond + bucket.lastRefill ≤ time := by
            have hpos : 0 < nanosPerSecond := by decide
            have hwhole := (Nat.le_div_iff_mul_le hpos).mp (not_lt.mp hkept)
            omega
          have hcast : (300 * nanosPerSecond + bucket.lastRefill : ℚ) ≤ time := by
            exact_mod_cast hnanos
          have hseconds : inSeconds time - bucket.inSeconds.filledAt =
              (time - bucket.lastRefill) / nanosPerSecond := (sub_div _ _ _).symm
          rw [hseconds, le_div_iff₀ nanosPerSecond_pos]
          linarith
  refine ⟨h.maxTokens, h.refillRate, fun ip ↦ ?_, fun ip b hb ↦ ?_⟩
  · rcases hbucket ip with hsame | ⟨hnone, b, hb, helapsed⟩
    · rw [hsame]
      exact (h.alike ip).mono hnow
    · have hrefilled : TokenBucket.Alike limiter.maxTokens limiter.refillRate (inSeconds time)
          (some b) none := by
        refine TokenBucket.alike_none_of_refilled hrate (h.tokens ip b hb) ?_
        calc
          limiter.maxTokens ≤ 300 * limiter.refillRate := hfull
          _ = limiter.refillRate * 300 := mul_comm _ _
          _ ≤ limiter.refillRate * (inSeconds time - b.filledAt) :=
            mul_le_mul_of_nonneg_left helapsed hrate
      intro later hlater
      have hsame := h.alike ip later (hnow.trans hlater)
      rw [hb] at hsame
      rw [hnone]
      exact (hrefilled later hlater).symm.trans hsame
  · rcases hbucket ip with hsame | ⟨hnone, -⟩
    · exact h.tokens ip b (hsame ▸ hb)
    · rw [hnone] at hb
      cases hb

/-- **A run.** The limiter that cleans up answers as the one that does not. -/
theorem answers (h : limiter.Tracks now limiter') (hmax : 0 ≤ limiter.maxTokens)
    (hrate : 0 ≤ limiter.refillRate) (hfull : limiter.maxTokens ≤ 300 * limiter.refillRate)
    (horder : calls.Pairwise fun a b ↦ a.now ≤ b.now)
    (hnow : ∀ call ∈ calls, now ≤ inSeconds call.now) :
    limiter.answers calls = limiter'.answers (calls.filter LimiterCall.isCheck) := by
  induction calls generalizing limiter limiter' now with
  | nil => rfl
  | cons call calls ih =>
      obtain ⟨hlater, hrest⟩ := List.pairwise_cons.mp horder
      have hparameters := parameters_call limiter call
      have hnext (other : LimiterCall) (hmem : other ∈ calls) :
          inSeconds call.now ≤ inSeconds other.now := inSeconds_le_inSeconds (hlater other hmem)
      rw [← hparameters.1] at hmax hfull
      rw [← hparameters.2] at hrate hfull
      have hcall := hnow call List.mem_cons_self
      cases call with
      | check request =>
          rw [hparameters.1] at hmax
          rw [hparameters.2] at hrate
          have hchecked := ih (h.check hmax hrate hcall) (by rwa [hparameters.1])
            (by rwa [hparameters.2]) hfull hrest hnext
          rw [RateLimiter.answers, hchecked, h.allowed hcall, List.filter_cons]
          rfl
      | cleanup time =>
          rw [hparameters.1, hparameters.2] at hfull
          exact ih (h.cleanup (hparameters.2 ▸ hrate) hfull hcall) hmax hrate hfull hrest hnext

end RateLimiter.Tracks

/-- A limiter whose buckets never hold a whole token allows nothing. -/
theorem answers_of_lt_one (hmax : limiter.maxTokens < 1) (hsame : limiter'.maxTokens < 1)
    (calls : List LimiterCall) :
    limiter.answers calls = limiter'.answers (calls.filter LimiterCall.isCheck) := by
  have hrefused (limiter : RateLimiter) (hmax : limiter.maxTokens < 1) (request : Check) :
      (limiter.check request.ip request.now).2 = false := by
    rw [allowed_eq, TokenBucket.ask_snd]
    exact decide_eq_false (not_le.mpr (TokenBucket.available_le.trans_lt hmax))
  induction calls generalizing limiter limiter' with
  | nil => rfl
  | cons call calls ih =>
      have hcall : (limiter.call call).maxTokens < 1 := by rwa [(parameters_call limiter call).1]
      cases call with
      | check request =>
          have hcall' : (limiter'.call (.check request)).maxTokens < 1 := by
            rwa [(parameters_call limiter' (.check request)).1]
          rw [RateLimiter.answers, ih hcall hcall', List.filter_cons, hrefused limiter hmax,
            ← hrefused limiter' hsame request]
          rfl
      | cleanup time => exact ih hcall hsame

/-- **Cleaning up is invisible.** Where a bucket fills up in 300 seconds, removing all cleanups
from a run changes no answer. -/
theorem answers_eq_without_cleanups {B r : ℚ} (hfull : B ≤ 300 * r)
    (horder : calls.Pairwise fun a b ↦ a.now ≤ b.now) :
    (RateLimiter.new B r).answers calls =
      (RateLimiter.new B r).answers (calls.filter LimiterCall.isCheck) := by
  by_cases hB : 1 ≤ B
  · have hrate : 0 ≤ r := by linarith
    have hstart : (RateLimiter.new B r).Tracks 0 (RateLimiter.new B r) :=
      ⟨rfl, rfl, fun ip _ _ ↦ rfl, fun ip b hb ↦ by cases hb⟩
    refine hstart.answers (zero_le_one.trans hB) hrate hfull horder fun call _ ↦ ?_
    exact div_nonneg (Nat.cast_nonneg _) nanosPerSecond_pos.le
  · exact answers_of_lt_one (not_le.mp hB) (not_le.mp hB) calls

/-- The middleware's limiter, with a cleanup after five idle minutes. -/
theorem answers_eq_without_cleanups_idle :
    (RateLimiter.new 100 20).answers
        [.check ⟨"192.0.2.1", 0⟩, .cleanup 300000000000, .check ⟨"192.0.2.1", 300000000000⟩] =
      (RateLimiter.new 100 20).answers
        [.check ⟨"192.0.2.1", 0⟩, .check ⟨"192.0.2.1", 300000000000⟩] :=
  answers_eq_without_cleanups (by norm_num) (by decide)

end VyuhHmi
