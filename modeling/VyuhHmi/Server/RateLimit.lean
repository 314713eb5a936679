import VyuhHmi.Auth.Tokens
import VyuhHmi.Server.Limiter

/-!
# Rate limiting

The middleware keeps one token bucket for each client address that it derives from a request: the
first entry of `X-Forwarded-For`, else the address of the connection, else one bucket for everybody.
The server attaches no connection address.  Tokens are exact rationals.
-/

namespace VyuhHmi

/-! ## Requests -/

/-- Header names, in lower case, with the bytes of their values. -/
abbrev HeaderMap := List (String × List UInt8)

/-- `HeaderMap::get`: the first value of a name. -/
def HeaderMap.get (headers : HeaderMap) (name : String) : Option (List UInt8) :=
  (headers.find? fun header ↦ header.1 = name).map Prod.snd

/-- The text of an IP address. -/
abbrev IpAddr := String

/-- What the middleware reads of a request. -/
structure Request where
  headers : HeaderMap
  connectInfo : Option IpAddr
deriving DecidableEq

/-- `split(',').next()`. -/
def firstEntry (text : String) : String := String.ofList (text.toList.takeWhile (· != ','))

/-- Extract client IP from headers or connection. -/
def clientIp (req : Request) : String :=
  ((((req.headers.get "x-forwarded-for").bind toStr).map fun s ↦ trim (firstEntry s)).or
    req.connectInfo).getD "unknown"

/-- How the middleware disposes of a request. -/
inductive Limited
  | next
  | refused (status : StatusCode) (retryAfter body : String)
deriving DecidableEq

def Limited.isNext : Limited → Bool
  | .next => true
  | .refused _ _ _ => false

/-- The static limiter at its first use: 100 burst, 20/sec. -/
def limiter : RateLimiter := .new 100 20

/-- Axum middleware that rate-limits by client IP. -/
def rateLimitMiddleware (limiter : RateLimiter) (req : Request) (now : Instant) :
    RateLimiter × Limited :=
  let (limiter, allowed) := limiter.check (clientIp req) now
  if allowed then (limiter, .next)
  else
    (limiter, .refused .tooManyRequests "5" "Rate limit exceeded. Try again in a few seconds.")

/-- `into_make_service()`: the peer's address does not reach the request. -/
def makeService (_ : IpAddr) (headers : HeaderMap) : Request where
  headers := headers
  connectInfo := none

/-- A request that arrives at the server. -/
structure Arrival where
  peer : IpAddr
  headers : HeaderMap
  now : Instant
deriving DecidableEq

namespace Arrival

/-- The bucket that an arrival is charged to. -/
def key (arrival : Arrival) : String := clientIp (makeService arrival.peer arrival.headers)

/-- One arrival. -/
def serve (limiter : RateLimiter) (arrival : Arrival) : RateLimiter × Limited :=
  rateLimitMiddleware limiter (makeService arrival.peer arrival.headers) arrival.now

/-- The check that the middleware makes of it. -/
def check (arrival : Arrival) : Check := ⟨arrival.key, arrival.now⟩

/-- The instant of an arrival in seconds. -/
def seconds (arrival : Arrival) : ℚ := (arrival.now : ℚ) / nanosPerSecond

end Arrival

namespace RateLimiter

/-- The limiter after some arrivals. -/
def afterArrivals (limiter : RateLimiter) (arrivals : List Arrival) : RateLimiter :=
  arrivals.foldl (fun limiter arrival ↦ (arrival.serve limiter).1) limiter

/-- The arrivals that are let through. -/
def letThrough (limiter : RateLimiter) : List Arrival → List Arrival
  | [] => []
  | arrival :: arrivals =>
      (if (arrival.serve limiter).2.isNext then [arrival] else []) ++
        letThrough (arrival.serve limiter).1 arrivals

end RateLimiter

/-- Arrivals at non-decreasing times. -/
def InOrder (arrivals : List Arrival) : Prop := arrivals.Pairwise fun a b ↦ a.now ≤ b.now

/-- The peers and headers that requests may come with. -/
abbrev Traffic := Set (IpAddr × HeaderMap)

/-- All arrivals are of this traffic. -/
def Traffic.Carries (traffic : Traffic) (arrivals : List Arrival) : Prop :=
  ∀ arrival ∈ arrivals, (arrival.peer, arrival.headers) ∈ traffic

/-- The limit holds for each peer address, and each peer is limited by its own requests only. -/
structure LimitsPeers (traffic : Traffic) : Prop where
  bounded : ∀ arrivals, traffic.Carries arrivals → InOrder arrivals →
    ∀ (peer : IpAddr) (start d : ℚ), 0 ≤ d →
      ((limiter.letThrough arrivals).countP fun arrival ↦
        arrival.peer = peer ∧ start ≤ arrival.seconds ∧ arrival.seconds ≤ start + d : ℚ) ≤
          100 + 20 * d
  isolated : ∀ before before' arrival, traffic.Carries (before ++ [arrival]) →
    traffic.Carries (before' ++ [arrival]) → InOrder (before ++ [arrival]) →
    InOrder (before' ++ [arrival]) →
    (before.filter fun a ↦ a.peer = arrival.peer) = before'.filter (fun a ↦ a.peer = arrival.peer) →
      (arrival.serve (limiter.afterArrivals before)).2 =
        (arrival.serve (limiter.afterArrivals before')).2

/-- Within this traffic, requests share a bucket exactly when they are of one peer. -/
def KeysArePeers (traffic : Traffic) : Prop :=
  ∀ x ∈ traffic, ∀ y ∈ traffic,
    clientIp (makeService x.1 x.2) = clientIp (makeService y.1 y.2) ↔ x.1 = y.1

/-! ## The bucket of a key -/

/-- The arrivals of one key, in seconds. -/
def secondsOf (ip : String) (arrivals : List Arrival) : List ℚ :=
  (arrivals.filter fun arrival ↦ arrival.key = ip).map Arrival.seconds

section Buckets

variable {limiter : RateLimiter} {ip : String} {now earlier : Instant} {arrival : Arrival}
  {arrivals : List Arrival}

/-- An arrival is answered and charged by the bucket of its key. -/
theorem serve_snd (limiter : RateLimiter) (arrival : Arrival) :
    (arrival.serve limiter).2 =
      if (TokenBucket.ask limiter.maxTokens limiter.refillRate (limiter.bucketOf arrival.key)
        arrival.seconds).2 then .next
      else .refused .tooManyRequests "5" "Rate limit exceeded. Try again in a few seconds." := by
  unfold Arrival.serve rateLimitMiddleware Arrival.seconds
  rw [← Arrival.key]
  dsimp only
  rw [(check_spec limiter arrival.key arrival.now).1]
  cases (TokenBucket.ask limiter.maxTokens limiter.refillRate (limiter.bucketOf arrival.key)
    ((arrival.now : ℚ) / nanosPerSecond)).2 <;> rfl

theorem isNext_serve (limiter : RateLimiter) (arrival : Arrival) :
    (arrival.serve limiter).2.isNext = (TokenBucket.ask limiter.maxTokens limiter.refillRate
      (limiter.bucketOf arrival.key) arrival.seconds).2 := by
  rw [serve_snd]
  cases (TokenBucket.ask limiter.maxTokens limiter.refillRate (limiter.bucketOf arrival.key)
    arrival.seconds).2 <;> rfl

theorem serve_fst (limiter : RateLimiter) (arrival : Arrival) :
    (arrival.serve limiter).1 = (limiter.check arrival.key arrival.now).1 := by
  unfold Arrival.serve rateLimitMiddleware
  rw [← Arrival.key]
  dsimp only
  split <;> rfl

@[simp] theorem maxTokens_serve : (arrival.serve limiter).1.maxTokens = limiter.maxTokens := by
  rw [serve_fst, (check_spec limiter arrival.key arrival.now).2.1]

@[simp] theorem refillRate_serve : (arrival.serve limiter).1.refillRate = limiter.refillRate := by
  rw [serve_fst, (check_spec limiter arrival.key arrival.now).2.2.1]

theorem bucketOf_serve (limiter : RateLimiter) (arrival : Arrival) (ip : String) :
    (arrival.serve limiter).1.bucketOf ip =
      if ip = arrival.key then some (TokenBucket.ask limiter.maxTokens limiter.refillRate
        (limiter.bucketOf arrival.key) arrival.seconds).1
      else limiter.bucketOf ip := by
  rw [serve_fst, (check_spec limiter arrival.key arrival.now).2.2.2]
  rfl

theorem secondsOf_eq (ip : String) (arrivals : List Arrival) :
    secondsOf ip arrivals = checkTimes ip (arrivals.map Arrival.check) := by
  unfold secondsOf checkTimes
  rw [List.filter_map, List.map_map]
  rfl

theorem secondsOf_cons (ip : String) (arrival : Arrival) (arrivals : List Arrival) :
    secondsOf ip (arrival :: arrivals) =
      if ip = arrival.key then arrival.seconds :: secondsOf ip arrivals
      else secondsOf ip arrivals := by
  rw [secondsOf_eq, secondsOf_eq]
  exact checkTimes_cons ip arrival.check (arrivals.map Arrival.check)

/-- Arrivals change the limiter by their checks. -/
theorem afterArrivals_eq (limiter : RateLimiter) (arrivals : List Arrival) :
    limiter.afterArrivals arrivals =
      limiter.afterCalls ((arrivals.map Arrival.check).map .check) := by
  unfold RateLimiter.afterArrivals RateLimiter.afterCalls
  rw [List.foldl_map, List.foldl_map]
  congr 1
  funext limiter arrival
  exact serve_fst limiter arrival

/-- **One bucket for each key.** The bucket of a key is what the arrivals of that key leave. -/
theorem bucketOf_afterArrivals (limiter : RateLimiter) (ip : String) (arrivals : List Arrival) :
    (limiter.afterArrivals arrivals).bucketOf ip =
      TokenBucket.after limiter.maxTokens limiter.refillRate (limiter.bucketOf ip)
        (secondsOf ip arrivals) := by
  rw [afterArrivals_eq, secondsOf_eq]
  exact bucketOf_afterChecks limiter ip (arrivals.map Arrival.check)

@[simp] theorem parameters_afterArrivals (limiter : RateLimiter) (arrivals : List Arrival) :
    (limiter.afterArrivals arrivals).maxTokens = limiter.maxTokens ∧
      (limiter.afterArrivals arrivals).refillRate = limiter.refillRate := by
  rw [afterArrivals_eq]
  exact parameters_afterCalls limiter _

/-- The arrivals of a key that are let through are the calls that its bucket admits. -/
theorem secondsOf_letThrough (limiter : RateLimiter) (ip : String) (arrivals : List Arrival) :
    secondsOf ip (limiter.letThrough arrivals) =
      TokenBucket.admitted limiter.maxTokens limiter.refillRate (limiter.bucketOf ip)
        (secondsOf ip arrivals) := by
  induction arrivals generalizing limiter with
  | nil => rfl
  | cons arrival arrivals ih =>
      have hrest := ih (arrival.serve limiter).1
      rw [maxTokens_serve, refillRate_serve, bucketOf_serve] at hrest
      rw [RateLimiter.letThrough, secondsOf_cons, isNext_serve]
      by_cases hip : ip = arrival.key
      · rw [if_pos hip] at hrest ⊢
        subst hip
        rw [TokenBucket.admitted, ← hrest]
        split
        · rw [List.singleton_append, List.singleton_append, secondsOf_cons, if_pos rfl]
        · rfl
      · rw [if_neg hip] at hrest ⊢
        rw [← hrest]
        split
        · rw [List.singleton_append, secondsOf_cons, if_neg hip]
        · rfl

end Buckets

/-! ## Traffic -/

theorem limiter_parameters : limiter.maxTokens = 100 ∧ limiter.refillRate = 20 := ⟨rfl, rfl⟩

theorem bucketOf_limiter (ip : String) : limiter.bucketOf ip = none := rfl

theorem secondsOf_sorted {arrivals : List Arrival} (horder : InOrder arrivals) (ip : String) :
    (secondsOf ip arrivals).Pairwise (· ≤ ·) := by
  have hchecks : (arrivals.map Arrival.check).Pairwise fun a b ↦ a.now ≤ b.now :=
    List.pairwise_map.mpr horder
  rw [secondsOf_eq]
  exact checkTimes_sorted hchecks ip

/-- **Per key.** -/
theorem countP_key_le {arrivals : List Arrival} (horder : InOrder arrivals) (ip : String)
    (start : ℚ) {d : ℚ} (hd : 0 ≤ d) :
    ((limiter.letThrough arrivals).countP fun arrival ↦
      arrival.key = ip ∧ start ≤ arrival.seconds ∧ arrival.seconds ≤ start + d : ℚ) ≤
        100 + 20 * d := by
  have hcount : (limiter.letThrough arrivals).countP (fun arrival ↦
      arrival.key = ip ∧ start ≤ arrival.seconds ∧ arrival.seconds ≤ start + d) =
      (secondsOf ip (limiter.letThrough arrivals)).countP fun time ↦
        start ≤ time ∧ time ≤ start + d := by
    unfold secondsOf
    rw [List.countP_map, List.countP_filter]
    apply List.countP_congr
    intro arrival _
    simp [and_comm]
  rw [hcount, secondsOf_letThrough]
  have hbound := @TokenBucket.countP_window_le ℚ _ _ 100 20 start (start + d)
    (limiter.bucketOf ip) (secondsOf ip arrivals) _ (by norm_num) (by norm_num)
    (secondsOf_sorted horder ip) (fun b hb ↦ by cases hb) (by linarith)
  calc
    _ ≤ 100 + 20 * (start + d - start) := hbound
    _ = 100 + 20 * d := by rw [add_sub_cancel_left]

theorem letThrough_sublist (limiter : RateLimiter) (arrivals : List Arrival) :
    (limiter.letThrough arrivals).Sublist arrivals := by
  induction arrivals generalizing limiter with
  | nil => exact .slnil
  | cons arrival arrivals ih =>
      unfold RateLimiter.letThrough
      split
      · exact (ih _).cons_cons arrival
      · exact (ih _).cons arrival

/-- Where keys are peers, an arrival's answer is that of a bucket of its peer. -/
theorem limitsPeers_of_keysArePeers {traffic : Traffic} (h : KeysArePeers traffic) :
    LimitsPeers traffic := by
  refine ⟨fun arrivals htraffic horder peer start d hd ↦ ?_,
    fun before before' arrival htraffic htraffic' _ _ hsame ↦ ?_⟩
  · by_cases hsome : ∃ arrival ∈ limiter.letThrough arrivals, arrival.peer = peer
    · obtain ⟨first, hfirst, rfl⟩ := hsome
      have hmem {arrival : Arrival} (hthrough : arrival ∈ limiter.letThrough arrivals) :
          (arrival.peer, arrival.headers) ∈ traffic :=
        htraffic arrival ((letThrough_sublist limiter arrivals).subset hthrough)
      have hcount : (limiter.letThrough arrivals).countP (fun arrival ↦
          arrival.peer = first.peer ∧ start ≤ arrival.seconds ∧ arrival.seconds ≤ start + d) =
          (limiter.letThrough arrivals).countP fun arrival ↦
            arrival.key = first.key ∧ start ≤ arrival.seconds ∧ arrival.seconds ≤ start + d := by
        apply List.countP_congr
        intro arrival hthrough
        have hkey : arrival.key = first.key ↔ arrival.peer = first.peer :=
          h _ (hmem hthrough) _ (hmem hfirst)
        simp [hkey]
      rw [hcount]
      exact countP_key_le horder first.key start hd
    · have hnone : (limiter.letThrough arrivals).countP (fun arrival ↦
          arrival.peer = peer ∧ start ≤ arrival.seconds ∧ arrival.seconds ≤ start + d) = 0 := by
        rw [List.countP_eq_zero]
        intro arrival hthrough hcounted
        exact hsome ⟨arrival, hthrough, (decide_eq_true_iff.mp hcounted).1⟩
      rw [hnone, Nat.cast_zero]
      linarith
  · have hseconds {arrivals : List Arrival} (hall : traffic.Carries (arrivals ++ [arrival])) :
        secondsOf arrival.key arrivals =
          (arrivals.filter fun a ↦ a.peer = arrival.peer).map Arrival.seconds := by
      unfold secondsOf
      congr 1
      apply List.filter_congr
      intro other hother
      have hkey : other.key = arrival.key ↔ other.peer = arrival.peer :=
        h _ (hall other (List.mem_append_left _ hother)) _ (hall arrival (by simp))
      simp [hkey]
    rw [serve_snd, serve_snd, bucketOf_afterArrivals, bucketOf_afterArrivals, hseconds htraffic,
      hseconds htraffic', hsame, (parameters_afterArrivals limiter before).1,
      (parameters_afterArrivals limiter before).2, (parameters_afterArrivals limiter before').1,
      (parameters_afterArrivals limiter before').2]

/-- Many requests at once. -/
def burst (n : ℕ) (x : IpAddr × HeaderMap) : List Arrival := List.replicate n ⟨x.1, x.2, 0⟩

theorem carries_burst {traffic : Traffic} {x : IpAddr × HeaderMap} (hx : x ∈ traffic) (n : ℕ) :
    traffic.Carries (burst n x) := by
  intro arrival hmem
  rw [List.eq_of_mem_replicate hmem]
  exact hx

theorem now_burst {x : IpAddr × HeaderMap} {n : ℕ} {arrival : Arrival}
    (hmem : arrival ∈ burst n x) : arrival.now = 0 := by
  rw [List.eq_of_mem_replicate hmem]

theorem inOrder_of_now_eq {arrivals : List Arrival} (h : ∀ arrival ∈ arrivals, arrival.now = 0) :
    InOrder arrivals := by
  apply List.Pairwise.imp_of_mem (R := fun _ _ ↦ True)
  · intro a b ha hb _
    rw [h a ha, h b hb]
  · exact List.pairwise_of_forall fun _ _ ↦ trivial

theorem secondsOf_append (ip : String) (arrivals later : List Arrival) :
    secondsOf ip (arrivals ++ later) = secondsOf ip arrivals ++ secondsOf ip later := by
  rw [secondsOf, List.filter_append, List.map_append]
  rfl

theorem secondsOf_burst (n : ℕ) (x : IpAddr × HeaderMap) :
    secondsOf (clientIp (makeService x.1 x.2)) (burst n x) = List.replicate n 0 := by
  simp [secondsOf, burst, Arrival.key, Arrival.seconds]

theorem secondsOf_burst_of_ne {n : ℕ} {x : IpAddr × HeaderMap} {ip : String}
    (hip : clientIp (makeService x.1 x.2) ≠ ip) : secondsOf ip (burst n x) = [] := by
  simp [secondsOf, burst, Arrival.key, hip]

/-- A peer whose bucket another one has emptied is refused. -/
theorem keys_ne_of_isolated {traffic : Traffic} (h : LimitsPeers traffic) {x y : IpAddr × HeaderMap}
    (hx : x ∈ traffic) (hy : y ∈ traffic) (hpeers : y.1 ≠ x.1) :
    clientIp (makeService x.1 x.2) ≠ clientIp (makeService y.1 y.2) := by
  intro hkeys
  let arrival : Arrival := ⟨x.1, x.2, 0⟩
  have hcarries : traffic.Carries [arrival] := by
    intro other hmem
    rw [List.mem_singleton.mp hmem]
    exact hx
  have hflooded : InOrder (burst 100 y ++ [arrival]) := by
    apply inOrder_of_now_eq
    intro other hmem
    rcases List.mem_append.mp hmem with hburst | hlast
    · exact now_burst hburst
    · rw [List.mem_singleton.mp hlast]
  have hsame := h.isolated (burst 100 y) [] arrival
    (fun other hmem ↦ (List.mem_append.mp hmem).elim (carries_burst hy 100 other) (hcarries other))
    hcarries hflooded (List.pairwise_singleton _ _) (by simp [burst, arrival, hpeers])
  have hfirst : (arrival.serve limiter).2.isNext = true := by
    rw [isNext_serve, TokenBucket.ask_snd, bucketOf_limiter, limiter_parameters.1]
    exact decide_eq_true (by norm_num [TokenBucket.available])
  have hrefused : (arrival.serve (limiter.afterArrivals (burst 100 y))).2.isNext = false := by
    have hbucket := bucketOf_afterArrivals limiter arrival.key (burst 100 y)
    have hkey : arrival.key = clientIp (makeService y.1 y.2) := hkeys
    have havailable := @TokenBucket.available_after_replicate ℚ _ _ 100 20 0 _ 100 (by norm_num)
    have hseconds : arrival.seconds = 0 := by simp [arrival, Arrival.seconds]
    rw [bucketOf_limiter, hkey, secondsOf_burst, ← hkey] at hbucket
    rw [isNext_serve, TokenBucket.ask_snd, hbucket, (parameters_afterArrivals _ _).1,
      (parameters_afterArrivals _ _).2, limiter_parameters.1, limiter_parameters.2, hseconds,
      havailable]
    norm_num
  have hanswers : (arrival.serve (limiter.afterArrivals (burst 100 y))).2.isNext =
      (arrival.serve limiter).2.isNext := congrArg Limited.isNext hsame
  rw [hfirst, hrefused] at hanswers
  cases hanswers

/-- A hundred requests at once under one key are all let through. -/
theorem countP_letThrough {key : String} {arrivals : List Arrival}
    (hseconds : secondsOf key arrivals = List.replicate 100 0) :
    (limiter.letThrough arrivals).countP (fun arrival ↦ arrival.key = key) = 100 := by
  have hthrough := secondsOf_letThrough limiter key arrivals
  rw [hseconds, bucketOf_limiter, limiter_parameters.1, limiter_parameters.2,
    TokenBucket.admitted_replicate (by norm_num)] at hthrough
  have hlength := congrArg List.length hthrough
  rwa [secondsOf, List.length_map, ← List.countP_eq_length_filter, List.length_replicate] at hlength

theorem countP_key_add_countP_key_le {key key' : String} (hne : key ≠ key')
    (arrivals : List Arrival) :
    arrivals.countP (fun arrival ↦ arrival.key = key) +
      arrivals.countP (fun arrival ↦ arrival.key = key') ≤ arrivals.length := by
  have hdisjoint : arrivals.countP (fun arrival ↦ arrival.key = key') ≤
      arrivals.countP fun arrival ↦ ¬decide (arrival.key = key) = true := by
    apply List.countP_mono_left
    intro arrival _ hkey'
    have hsame := of_decide_eq_true hkey'
    simp [hsame, Ne.symm hne]
  rw [List.length_eq_countP_add_countP (l := arrivals)
    (fun arrival : Arrival ↦ decide (arrival.key = key))]
  exact Nat.add_le_add_left hdisjoint _

/-- A peer with two buckets gets twice the burst. -/
theorem keys_eq_of_bounded {traffic : Traffic} (h : LimitsPeers traffic) {x y : IpAddr × HeaderMap}
    (hx : x ∈ traffic) (hy : y ∈ traffic) (hpeers : x.1 = y.1) :
    clientIp (makeService x.1 x.2) = clientIp (makeService y.1 y.2) := by
  by_contra hkeys
  let arrivals := burst 100 x ++ burst 100 y
  have hnow (arrival : Arrival) (hmem : arrival ∈ arrivals) :
      arrival.now = 0 ∧ arrival.peer = x.1 := by
    rcases List.mem_append.mp hmem with hburst | hburst
    · exact ⟨now_burst hburst, by rw [List.eq_of_mem_replicate hburst]⟩
    · exact ⟨now_burst hburst, by rw [List.eq_of_mem_replicate hburst, hpeers]⟩
  have hbound := h.bounded arrivals
    (fun other hmem ↦ (List.mem_append.mp hmem).elim (carries_burst hx 100 other)
      (carries_burst hy 100 other))
    (inOrder_of_now_eq fun arrival hmem ↦ (hnow arrival hmem).1) x.1 0 0 le_rfl
  have hall : (limiter.letThrough arrivals).countP (fun arrival ↦ arrival.peer = x.1 ∧
      0 ≤ arrival.seconds ∧ arrival.seconds ≤ 0 + 0) = (limiter.letThrough arrivals).length := by
    rw [List.countP_eq_length]
    intro arrival hthrough
    obtain ⟨hzero, hpeer⟩ := hnow arrival ((letThrough_sublist limiter arrivals).subset hthrough)
    simp [hpeer, Arrival.seconds, hzero]
  have hfirst := @countP_letThrough (clientIp (makeService x.1 x.2)) arrivals (by
    rw [secondsOf_append, secondsOf_burst, secondsOf_burst_of_ne (Ne.symm hkeys), List.append_nil])
  have hsecond := @countP_letThrough (clientIp (makeService y.1 y.2)) arrivals (by
    rw [secondsOf_append, secondsOf_burst, secondsOf_burst_of_ne hkeys, List.nil_append])
  have htwice := countP_key_add_countP_key_le hkeys (limiter.letThrough arrivals)
  rw [hfirst, hsecond] at htwice
  rw [hall] at hbound
  have hcast : (200 : ℚ) ≤ ((limiter.letThrough arrivals).length : ℚ) := by exact_mod_cast htwice
  linarith

/-- **Whose limit it is.** The rate limit holds for each peer address, and for each by itself,
exactly when the traffic's headers make one bucket of each peer. -/
theorem limitsPeers_iff (traffic : Traffic) : LimitsPeers traffic ↔ KeysArePeers traffic := by
  constructor
  · intro h x hx y hy
    constructor
    · intro hkeys
      by_contra hpeers
      exact keys_ne_of_isolated h hx hy (Ne.symm hpeers) hkeys
    · exact keys_eq_of_bounded h hx hy
  · exact limitsPeers_of_keysArePeers

/-- Two peers without the header share the bucket of nobody in particular. -/
theorem not_limitsPeers_univ : ¬ LimitsPeers Set.univ := by
  intro h
  have hpeers : ("192.0.2.2" : IpAddr) ≠ "192.0.2.1" := by decide
  exact @keys_ne_of_isolated _ h ("192.0.2.1", []) ("192.0.2.2", []) trivial trivial hpeers rfl

end VyuhHmi
