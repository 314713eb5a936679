import Mathlib.Algebra.Order.Field.Basic
import Mathlib.Data.List.Induction
import Mathlib.Tactic.Linarith
import Mathlib.Tactic.Ring

/-!
# Token buckets

A bucket of capacity `B` refills at rate `r` up to its capacity, and every call that finds a whole
token in it takes one.  Times and tokens are elements of one ordered field.  In every window of
length `d` a bucket admits at most `B + r * d` calls.
-/

namespace TokenBucket

variable {K : Type*} [Field K] [LinearOrder K]

structure Bucket (K : Type*) where
  tokens : K
  filledAt : K

section Calls

variable (B r : K)

/-- The tokens at a call; a bucket that does not exist yet is created full. -/
def available (bucket : Option (Bucket K)) (now : K) : K :=
  match bucket with
  | some b => min (b.tokens + max 0 (now - b.filledAt) * r) B
  | none => B

/-- One call. -/
def ask (bucket : Option (Bucket K)) (now : K) : Bucket K × Bool :=
  if 1 ≤ available B r bucket now then (⟨available B r bucket now - 1, now⟩, true)
  else (⟨available B r bucket now, now⟩, false)

/-- The bucket after calls at these times. -/
def after (bucket : Option (Bucket K)) (times : List K) : Option (Bucket K) :=
  times.foldl (fun bucket now ↦ some (ask B r bucket now).1) bucket

/-- The times of the calls that are admitted. -/
def admitted (bucket : Option (Bucket K)) : List K → List K
  | [] => []
  | now :: times =>
      (if (ask B r bucket now).2 then [now] else []) ++ admitted (some (ask B r bucket now).1) times

end Calls

/-- The bucket is not in debt and not filled later than these times. -/
def Before (bucket : Option (Bucket K)) (times : List K) : Prop :=
  ∀ b ∈ bucket, 0 ≤ b.tokens ∧ ∀ now ∈ times, b.filledAt ≤ now

variable {B r now later start finish : K} {bucket : Option (Bucket K)} {b : Bucket K} {times : List K}

/-! ## One call -/

@[simp] theorem filledAt_ask : (ask B r bucket now).1.filledAt = now := by
  unfold ask
  split <;> rfl

theorem ask_snd : (ask B r bucket now).2 = decide (1 ≤ available B r bucket now) := by
  unfold ask
  split
  case isTrue hone => exact (decide_eq_true hone).symm
  case isFalse hone => exact (decide_eq_false hone).symm

/-- A call takes one token when it is admitted and none otherwise. -/
theorem tokens_ask :
    (ask B r bucket now).1.tokens + (if (ask B r bucket now).2 then 1 else 0) =
      available B r bucket now := by
  unfold ask
  split
  case isTrue => exact sub_add_cancel _ _
  case isFalse => exact add_zero _

theorem available_le : available B r bucket now ≤ B := by
  cases bucket with
  | none => exact le_refl B
  | some b => exact min_le_right _ _

theorem admitted_sublist : (admitted B r bucket times).Sublist times := by
  induction times generalizing bucket with
  | nil => exact .slnil
  | cons now times ih =>
      unfold admitted
      split
      · exact ih.cons_cons now
      · exact ih.cons now

theorem after_append (first second : List K) :
    after B r bucket (first ++ second) = after B r (after B r bucket first) second :=
  List.foldl_append

theorem admitted_append (first second : List K) :
    admitted B r bucket (first ++ second) =
      admitted B r bucket first ++ admitted B r (after B r bucket first) second := by
  induction first generalizing bucket with
  | nil => rfl
  | cons now first ih =>
      rw [List.cons_append, admitted, admitted, ih, List.append_assoc]
      rfl

/-- A call within the window costs a token if it is admitted. -/
theorem countP_admitted_cons {p : K → Bool} (hnow : p now = true) :
    (admitted B r bucket (now :: times)).countP p =
      (if (ask B r bucket now).2 then 1 else 0) +
        (admitted B r (some (ask B r bucket now).1) times).countP p := by
  rw [admitted, List.countP_append]
  congr 1
  split <;> simp [hnow]

theorem countP_admitted_eq_zero {p : K → Bool} (hnone : ∀ now ∈ times, p now = false) :
    (admitted B r bucket times).countP p = 0 := by
  rw [List.countP_eq_zero]
  intro now hmem
  rw [hnone now (admitted_sublist.subset hmem)]
  exact Bool.false_ne_true

variable [IsStrictOrderedRing K]

theorem available_some_le (hle : b.filledAt ≤ now) :
    available B r (some b) now ≤ b.tokens + r * (now - b.filledAt) := by
  have helapsed : max 0 (now - b.filledAt) = now - b.filledAt :=
    max_eq_right (sub_nonneg.mpr hle)
  calc
    available B r (some b) now ≤ b.tokens + max 0 (now - b.filledAt) * r := min_le_left _ _
    _ = b.tokens + r * (now - b.filledAt) := by rw [helapsed, mul_comm]

theorem available_nonneg (hB : 0 ≤ B) (hr : 0 ≤ r) (hbucket : ∀ b ∈ bucket, 0 ≤ b.tokens) :
    0 ≤ available B r bucket now := by
  cases bucket with
  | none => exact hB
  | some b => exact le_min (add_nonneg (hbucket b rfl) (mul_nonneg (le_max_left _ _) hr)) hB

theorem tokens_ask_nonneg (hB : 0 ≤ B) (hr : 0 ≤ r) (hbucket : ∀ b ∈ bucket, 0 ≤ b.tokens) :
    0 ≤ (ask B r bucket now).1.tokens := by
  unfold ask
  split
  case isTrue hone => exact sub_nonneg.mpr hone
  case isFalse => exact available_nonneg hB hr hbucket

/-- A call leaves a bucket for the later calls. -/
theorem before_ask (hB : 0 ≤ B) (hr : 0 ≤ r) (hsorted : (now :: times).Pairwise (· ≤ ·))
    (h : Before bucket (now :: times)) : Before (some (ask B r bucket now).1) times := by
  intro b hb
  obtain rfl := Option.some.inj hb
  refine ⟨tokens_ask_nonneg hB hr fun b hb ↦ (h b hb).1, ?_⟩
  rw [filledAt_ask]
  exact (List.pairwise_cons.mp hsorted).1

/-- Calls leave no bucket in debt. -/
theorem tokens_after_nonneg (hB : 0 ≤ B) (hr : 0 ≤ r) (hbucket : ∀ b ∈ bucket, 0 ≤ b.tokens) :
    ∀ b ∈ after B r bucket times, 0 ≤ b.tokens := by
  induction times generalizing bucket with
  | nil => exact hbucket
  | cons now times ih =>
      apply ih
      intro b hb
      obtain rfl := Option.some.inj hb
      exact tokens_ask_nonneg hB hr hbucket

/-- A call that comes long enough after the ones before it is admitted. -/
theorem one_le_available_of_spaced (hB : 1 ≤ B) (hr : 0 < r)
    (hgap : ∀ earlier ∈ times, earlier + 1 / r ≤ now) :
    1 ≤ available B r (after B r none times) now := by
  cases times using List.reverseRecOn with
  | nil => exact hB
  | append_singleton times last =>
      have htokens := @tokens_ask_nonneg _ _ _ B r last (after B r none times) _
        (zero_le_one.trans hB) hr.le
        (tokens_after_nonneg (zero_le_one.trans hB) hr.le fun b hb ↦ by cases hb)
      have hlast : 1 / r ≤ now - last := le_sub_iff_add_le'.mpr (hgap last (by simp))
      have hflow : 1 ≤ max 0 (now - last) * r := by
        calc
          1 = 1 / r * r := (div_mul_cancel₀ 1 hr.ne').symm
          _ ≤ (now - last) * r := mul_le_mul_of_nonneg_right hlast hr.le
          _ ≤ max 0 (now - last) * r := mul_le_mul_of_nonneg_right (le_max_right _ _) hr.le
      rw [after_append]
      refine le_min ?_ hB
      rw [filledAt_ask]
      linarith

/-! ## Buckets that answer alike -/

/-- From this time on the two buckets have the same tokens at every call. -/
def Alike (B r : K) (now : K) (bucket bucket' : Option (Bucket K)) : Prop :=
  ∀ later, now ≤ later → available B r bucket later = available B r bucket' later

omit [IsStrictOrderedRing K] in
theorem Alike.mono {bucket' : Option (Bucket K)} (h : Alike B r now bucket bucket')
    (hlater : now ≤ later) : Alike B r later bucket bucket' :=
  fun last hlast ↦ h last (hlater.trans hlast)

omit [IsStrictOrderedRing K] in
theorem Alike.ask_eq {bucket' : Option (Bucket K)} (h : Alike B r now bucket bucket')
    (hlater : now ≤ later) : ask B r bucket later = ask B r bucket' later := by
  unfold ask
  rw [h later hlater]

/-- **A bucket that has had time to fill up answers as a new one.** -/
theorem alike_none_of_refilled (hr : 0 ≤ r) (htokens : 0 ≤ b.tokens)
    (hfull : B ≤ r * (now - b.filledAt)) : Alike B r now (some b) none := by
  intro later hlater
  have hflow : B ≤ b.tokens + max 0 (later - b.filledAt) * r := by
    calc
      B ≤ r * (now - b.filledAt) := hfull
      _ ≤ r * (later - b.filledAt) := mul_le_mul_of_nonneg_left (sub_le_sub_right hlater _) hr
      _ ≤ r * max 0 (later - b.filledAt) := mul_le_mul_of_nonneg_left (le_max_right _ _) hr
      _ = max 0 (later - b.filledAt) * r := mul_comm _ _
      _ ≤ b.tokens + max 0 (later - b.filledAt) * r := le_add_of_nonneg_left htokens
  exact min_eq_right hflow

/-! ## Many calls -/

/-- From one call on, the calls that are admitted until `finish` use the tokens there are and what
flows in until then. -/
theorem countP_admitted_le (hB : 0 ≤ B) (hr : 0 ≤ r)
    (hsorted : (now :: times).Pairwise (· ≤ ·)) (hbefore : Before bucket (now :: times))
    (hfinish : now ≤ finish) :
    ((admitted B r bucket (now :: times)).countP fun time ↦ time ≤ finish : K) ≤
      available B r bucket now + r * (finish - now) := by
  induction times generalizing bucket now with
  | nil =>
      rw [countP_admitted_cons (by simpa using hfinish), ← tokens_ask]
      push_cast
      have hflow : 0 ≤ r * (finish - now) := mul_nonneg hr (sub_nonneg.mpr hfinish)
      have htokens := @tokens_ask_nonneg _ _ _ B r now bucket _ hB hr fun b hb ↦ (hbefore b hb).1
      simp only [admitted, List.countP_nil, Nat.cast_zero, add_zero]
      linarith
  | cons next times ih =>
      rw [countP_admitted_cons (by simpa using hfinish), ← tokens_ask]
      push_cast
      have hnext := before_ask hB hr hsorted hbefore
      have htokens := (hnext _ rfl).1
      have hle := (hnext _ rfl).2 next List.mem_cons_self
      by_cases hlate : next ≤ finish
      · have hrest := ih (List.pairwise_cons.mp hsorted).2 hnext hlate
        have havailable := @available_some_le _ _ _ B r next _ _ hle
        rw [filledAt_ask] at havailable
        have hflow : r * (next - now) + r * (finish - next) = r * (finish - now) := by ring
        linarith
      · -- every later call comes after the window
        have hnone : (admitted B r (some (ask B r bucket now).1) (next :: times)).countP
            (fun time ↦ time ≤ finish) = 0 := by
          apply countP_admitted_eq_zero
          intro late hmem
          rw [decide_eq_false_iff_not, not_le]
          rcases List.mem_cons.mp hmem with rfl | hmem
          · exact not_le.mp hlate
          · have hsorted' := (List.pairwise_cons.mp hsorted).2
            exact (not_le.mp hlate).trans_le ((List.pairwise_cons.mp hsorted').1 late hmem)
        have hflow : 0 ≤ r * (finish - now) := mul_nonneg hr (sub_nonneg.mpr hfinish)
        rw [hnone, Nat.cast_zero]
        linarith

/-- **The window bound.** -/
theorem countP_window_le (hB : 0 ≤ B) (hr : 0 ≤ r) (hsorted : times.Pairwise (· ≤ ·))
    (hbefore : Before bucket times) (hwindow : start ≤ finish) :
    ((admitted B r bucket times).countP fun time ↦ start ≤ time ∧ time ≤ finish : K) ≤
      B + r * (finish - start) := by
  have hflow : 0 ≤ r * (finish - start) := mul_nonneg hr (sub_nonneg.mpr hwindow)
  induction times generalizing bucket with
  | nil => simpa [admitted] using add_nonneg hB hflow
  | cons now times ih =>
      have hlater := (List.pairwise_cons.mp hsorted).1
      by_cases hstart : start ≤ now
      · by_cases hfinish : now ≤ finish
        · have hcount : (admitted B r bucket (now :: times)).countP
              (fun time ↦ start ≤ time ∧ time ≤ finish) =
              (admitted B r bucket (now :: times)).countP fun time ↦ time ≤ finish := by
            apply List.countP_congr
            intro time hmem
            have hle : start ≤ time := by
              rcases List.mem_cons.mp (admitted_sublist.subset hmem) with rfl | hmem
              · exact hstart
              · exact hstart.trans (hlater time hmem)
            simp [hle]
          calc
            _ ≤ available B r bucket now + r * (finish - now) := by
              rw [hcount]
              exact countP_admitted_le hB hr hsorted hbefore hfinish
            _ ≤ B + r * (finish - start) :=
              add_le_add available_le (mul_le_mul_of_nonneg_left (sub_le_sub_left hstart finish) hr)
        · have hnone : (admitted B r bucket (now :: times)).countP
              (fun time ↦ start ≤ time ∧ time ≤ finish) = 0 := by
            apply countP_admitted_eq_zero
            intro time hmem
            have hlt : finish < time := by
              rcases List.mem_cons.mp hmem with rfl | hmem
              · exact not_le.mp hfinish
              · exact (not_le.mp hfinish).trans_le (hlater time hmem)
            simp [not_le.mpr hlt]
          rw [hnone, Nat.cast_zero]
          exact add_nonneg hB hflow
      · have hskip : (admitted B r bucket (now :: times)).countP
            (fun time ↦ start ≤ time ∧ time ≤ finish) =
            (admitted B r (some (ask B r bucket now).1) times).countP
              fun time ↦ start ≤ time ∧ time ≤ finish := by
          rw [admitted, List.countP_append]
          split <;> simp [hstart]
        rw [hskip]
        exact ih (List.pairwise_cons.mp hsorted).2 (before_ask hB hr hsorted hbefore)

/-! ## Bursts -/

/-- Calls at one time use up the bucket one token at a time. -/
theorem available_after_replicate (n : ℕ) (hn : (n : K) ≤ B) :
    available B r (after B r none (List.replicate n now)) now = B - n := by
  induction n with
  | zero => simp [after, available]
  | succ n ih =>
      push_cast at hn
      have hsome := ih (by linarith)
      have hone : 1 ≤ available B r (after B r none (List.replicate n now)) now := by
        rw [hsome]
        linarith
      have hB : B - n - 1 ≤ B := by
        have hpos : (0 : K) ≤ n := Nat.cast_nonneg n
        linarith
      calc
        _ = available B r (some (ask B r (after B r none (List.replicate n now)) now).1) now := by
          rw [List.replicate_succ', after_append]
          rfl
        _ = min (B - n - 1) B := by
          rw [ask, if_pos hone, hsome]
          simp only [available, sub_self, max_self, zero_mul, add_zero]
        _ = B - (n + 1 : ℕ) := by
          rw [min_eq_left hB]
          push_cast
          ring

/-- A full bucket admits as many calls at once as it has tokens. -/
theorem admitted_replicate {n : ℕ} (hn : (n : K) ≤ B) :
    admitted B r none (List.replicate n now) = List.replicate n now := by
  induction n with
  | zero => rfl
  | succ n ih =>
      push_cast at hn
      have hbefore : (n : K) ≤ B := by linarith
      have hone : 1 ≤ available B r (after B r none (List.replicate n now)) now := by
        rw [available_after_replicate n hbefore]
        linarith
      rw [List.replicate_succ', admitted_append, ih hbefore]
      simp [admitted, ask, hone]

end TokenBucket
