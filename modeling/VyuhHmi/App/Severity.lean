import VyuhHmi.App.CachedAlarms

/-!
# Severities

A threshold has up to four limits.  The severity of a value should grow with its distance from the
safe band; the low limits are only looked at for values above zero, so that a value of zero or below
has none of them.
-/

namespace VyuhHmi.App

/-- Severities in their order; above zero there is something to show. -/
def AlarmSeverity.level : AlarmSeverity → ℕ
  | .info => 0
  | .warning => 1
  | .critical => 2

/-- What doubles obey: `le x x` says that `x` is a number. -/
class LawfulDouble (D : Type) [DartDouble D] : Prop where
  le_zero : DartDouble.le (DartDouble.zero : D) DartDouble.zero = true
  le_self {x y : D} : DartDouble.le x y = true → DartDouble.le x x = true ∧ DartDouble.le y y = true
  le_trans {x y z : D} :
    DartDouble.le x y = true → DartDouble.le y z = true → DartDouble.le x z = true
  lt_iff {x y : D} : DartDouble.le x x = true → DartDouble.le y y = true →
    (DartDouble.lt x y = true ↔ DartDouble.le y x = false)
  /-- Division by a positive divisor, where it gives numbers. -/
  div_le_div {x y divisor : D} : DartDouble.lt DartDouble.zero divisor = true →
    DartDouble.le x y = true →
    DartDouble.le (DartDouble.div x divisor) (DartDouble.div x divisor) = true →
    DartDouble.le (DartDouble.div y divisor) (DartDouble.div y divisor) = true →
    DartDouble.le (DartDouble.div x divisor) (DartDouble.div y divisor) = true

variable {D : Type} [DartDouble D]

open DartDouble (le lt zero)

/-- `val > 0`. -/
def isPositive (val : D) : Bool := lt zero val

section Order

variable [LawfulDouble D] {x y limit : D}

theorem isPositive_mono (hxy : le x y = true) (hx : isPositive x = true) : isPositive y = true := by
  obtain ⟨hself, hself'⟩ := LawfulDouble.le_self hxy
  unfold isPositive at hx ⊢
  rw [LawfulDouble.lt_iff LawfulDouble.le_zero hself] at hx
  rw [LawfulDouble.lt_iff LawfulDouble.le_zero hself', Bool.eq_false_iff]
  intro hy
  rw [LawfulDouble.le_trans hxy hy] at hx
  cases hx

theorem any_le_mono (hxy : le x y = true) {limit : Option D} (h : limit.any (le · x) = true) :
    limit.any (le · y) = true := by
  cases limit with
  | none => exact h
  | some limit => exact LawfulDouble.le_trans h hxy

theorem any_ge_anti (hxy : le x y = true) {limit : Option D} (h : limit.any (le y ·) = true) :
    limit.any (le x ·) = true := by
  cases limit with
  | none => exact h
  | some limit => exact LawfulDouble.le_trans hxy h

/-- A value at or below one limit is not at or above a higher one. -/
theorem not_le_of_lt {low high : D} (hlt : lt low high = true) (hself : le low low = true)
    (hself' : le high high = true) (hx : le x low = true) : le high x = false := by
  rw [LawfulDouble.lt_iff hself hself'] at hlt
  rw [Bool.eq_false_iff]
  intro hhigh
  rw [LawfulDouble.le_trans hhigh hx] at hlt
  cases hlt

end Order

/-! ## The alarms of one threshold -/

/-- The value that a threshold is compared with. -/
def DashboardConfig.scaled (config : DashboardConfig D) (register : ℤ) (raw : D) : D :=
  match config.registerByAddress register with
  | some regConfig => regConfig.applyDivisor raw
  | none => raw

namespace AlarmThreshold

variable (config : DashboardConfig D) (threshold : AlarmThreshold D)

/-- The alarms of a threshold for a value of its register. -/
def alarmsFor (raw : D) (now : Instant) : List Alarm :=
  let val := config.scaled threshold.register raw
  threshold.highAlarms val now ++ threshold.lowAlarms val now

/-- What `checkAlarms` computes for the thresholds. -/
theorem thresholdAlarms_eq (s : DashboardStore D) (now : Instant) :
    s.thresholdAlarms config now = config.alarms.flatMap fun threshold ↦
      match s.liveValues threshold.register with
      | none => []
      | some raw => threshold.alarmsFor config raw now := rfl

/-- The highest severity among them. -/
def severity (raw : D) (now : Instant) : ℕ :=
  ((threshold.alarmsFor config raw now).map fun alarm ↦ alarm.severity.level).foldr max 0

/-- The identity and the severity of the high alarm. -/
def highKey (val : D) : Option (String × AlarmSeverity) :=
  if threshold.critHigh.any (le · val) then some (threshold.label ++ "-crit-high", .critical)
  else if threshold.warnHigh.any (le · val) then some (threshold.label ++ "-warn-high", .warning)
  else none

def lowKey (val : D) : Option (String × AlarmSeverity) :=
  if isPositive val && threshold.critLow.any (le val ·) then
    some (threshold.label ++ "-crit-low", .critical)
  else if isPositive val && threshold.warnLow.any (le val ·) then
    some (threshold.label ++ "-warn-low", .warning)
  else none

variable {threshold}

theorem map_key_highAlarms (val : D) (now : Instant) :
    (threshold.highAlarms val now).map Alarm.key = (threshold.highKey val).toList := by
  unfold highAlarms highKey
  cases hcrit : threshold.critHigh with
  | none =>
      simp only [Option.filter_none, Option.any_none, Bool.false_eq_true, if_false]
      split <;> rfl
  | some critHigh =>
      by_cases hle : le critHigh val = true
      · simp [Option.filter_some, hle, Alarm.key]
      · simp only [Option.filter_some, hle, Option.any_some, Bool.false_eq_true, if_false]
        split <;> rfl

theorem map_key_lowAlarms (val : D) (now : Instant) :
    (threshold.lowAlarms val now).map Alarm.key = (threshold.lowKey val).toList := by
  have hwarn (alarm : Alarm) : (if threshold.warnLow.any
        (fun limit ↦ lt zero val && le val limit) = true then [alarm] else []).map Alarm.key =
      (if (isPositive val && threshold.warnLow.any (le val ·)) = true then some alarm.key
        else none).toList := by
    unfold isPositive
    cases threshold.warnLow with
    | none => simp
    | some warnLow =>
        simp only [Option.any_some]
        split <;> rfl
  unfold lowAlarms lowKey
  dsimp only
  cases hcrit : threshold.critLow with
  | none =>
      simp only [Option.filter_none, Option.any_none, Bool.and_false, Bool.false_eq_true, if_false]
      exact hwarn _
  | some critLow =>
      by_cases hle : (lt zero val && le val critLow) = true
      · simp [Option.filter_some, hle, Alarm.key, isPositive]
      · simp only [Option.filter_some, hle, Option.any_some, isPositive, Bool.false_eq_true,
          if_false]
        exact hwarn _

/-- The level of an alarm that there may be. -/
def keyLevel (key : Option (String × AlarmSeverity)) : ℕ := key.elim 0 fun key ↦ key.2.level

theorem map_key_alarmsFor (config : DashboardConfig D) (raw : D) (now : Instant) :
    (threshold.alarmsFor config raw now).map Alarm.key =
      (threshold.highKey (config.scaled threshold.register raw)).toList ++
        (threshold.lowKey (config.scaled threshold.register raw)).toList := by
  rw [alarmsFor, List.map_append, map_key_highAlarms, map_key_lowAlarms]

theorem severity_eq (config : DashboardConfig D) (raw : D) (now : Instant) :
    threshold.severity config raw now =
      max (keyLevel (threshold.highKey (config.scaled threshold.register raw)))
        (keyLevel (threshold.lowKey (config.scaled threshold.register raw))) := by
  have hlevels (alarms : List Alarm) : alarms.map (fun alarm ↦ alarm.severity.level) =
      (alarms.map Alarm.key).map fun key ↦ key.2.level := by
    rw [List.map_map]
    rfl
  rw [severity, hlevels, map_key_alarmsFor]
  cases threshold.highKey _ <;> cases threshold.lowKey _ <;> simp [keyLevel]

/-! ## Limits in order -/

/-- The limits that there are come in their order. -/
structure Ordered (threshold : AlarmThreshold D) : Prop where
  low : ∀ critLow warnLow, threshold.critLow = some critLow → threshold.warnLow = some warnLow →
    le critLow warnLow = true
  high : ∀ warnHigh critHigh, threshold.warnHigh = some warnHigh →
    threshold.critHigh = some critHigh → le warnHigh critHigh = true
  apart : ∀ warnLow warnHigh, threshold.warnLow = some warnLow →
    threshold.warnHigh = some warnHigh → lt warnLow warnHigh = true

/-- The level at or below the low warning. -/
def lowSideLevel (threshold : AlarmThreshold D) (val : D) : ℕ :=
  max (if threshold.critHigh.any (le · val) then 2 else 0)
    (if isPositive val then if threshold.critLow.any (le val ·) then 2 else 1 else 0)

/-- The level at or above the high warning. -/
def highSideLevel (threshold : AlarmThreshold D) (val : D) : ℕ :=
  max (if threshold.critHigh.any (le · val) then 2 else 1)
    (if isPositive val && threshold.critLow.any (le val ·) then 2 else 0)

section Sides

variable [LawfulDouble D] {val : D}

/-- The warnings of the two sides exclude each other. -/
theorem Ordered.not_both (h : threshold.Ordered) (hlow : threshold.warnLow.any (le val ·) = true)
    (hhigh : threshold.warnHigh.any (le · val) = true) : False := by
  obtain ⟨warnLow, hwarnLow, hbelow⟩ := (Option.any_eq_true _ _).mp hlow
  obtain ⟨warnHigh, hwarnHigh, habove⟩ := (Option.any_eq_true _ _).mp hhigh
  have hapart := h.apart warnLow warnHigh hwarnLow hwarnHigh
  have hnot := not_le_of_lt hapart (LawfulDouble.le_self hbelow).2 (LawfulDouble.le_self habove).1
    hbelow
  rw [habove] at hnot
  cases hnot

theorem level_of_le_warnLow (h : threshold.Ordered) {warnLow : D}
    (hwarn : threshold.warnLow = some warnLow) (hval : le val warnLow = true) :
    max (keyLevel (threshold.highKey val)) (keyLevel (threshold.lowKey val)) =
      threshold.lowSideLevel val := by
  have hlow : threshold.warnLow.any (le val ·) = true := by rw [hwarn, Option.any_some, hval]
  have hhigh : threshold.warnHigh.any (le · val) = false :=
    Bool.eq_false_iff.mpr (h.not_both hlow)
  unfold lowSideLevel highKey lowKey
  rw [hlow, hhigh]
  cases threshold.critHigh.any (le · val) <;> cases isPositive val <;>
    cases threshold.critLow.any (le val ·) <;> rfl

theorem level_of_warnHigh_le (h : threshold.Ordered) {warnHigh : D}
    (hwarn : threshold.warnHigh = some warnHigh) (hval : le warnHigh val = true) :
    max (keyLevel (threshold.highKey val)) (keyLevel (threshold.lowKey val)) =
      threshold.highSideLevel val := by
  have hhigh : threshold.warnHigh.any (le · val) = true := by rw [hwarn, Option.any_some, hval]
  have hlow : threshold.warnLow.any (le val ·) = false :=
    Bool.eq_false_iff.mpr fun hlow ↦ h.not_both hlow hhigh
  unfold highSideLevel highKey lowKey
  rw [hlow, hhigh]
  cases threshold.critHigh.any (le · val) <;> cases isPositive val <;>
    cases threshold.critLow.any (le val ·) <;> rfl

end Sides

/-! ## Growing with the distance -/

/-- Of two values at or below the low warning, the lower one first: it is above zero if the other
is; or, where a critical high limit is within reach of the other, it is critical too. -/
def GrowsDown (threshold : AlarmThreshold D) (val val' : D) : Prop :=
  if threshold.critHigh.any (le · val') = true then
    threshold.critHigh.any (le · val) = true ∨
      isPositive val = true ∧ threshold.critLow.any (le val ·) = true
  else isPositive val = true ∨ isPositive val' = false

/-- Of two values at or above the high warning, the lower one first: if that one is within reach of
a critical low limit, the other is critical too. -/
def GrowsUp (threshold : AlarmThreshold D) (val val' : D) : Prop :=
  isPositive val = true → threshold.critLow.any (le val ·) = true →
    threshold.critHigh.any (le · val') = true ∨ threshold.critLow.any (le val' ·) = true

section Monotone

variable [LawfulDouble D] {val val' : D}

/-- The higher value is positive and has the critical high limit in reach if the lower one does, the
other way round for the critical low limit. -/
theorem reach_of_le (threshold : AlarmThreshold D) (hle : le val val' = true) :
    (isPositive val = true → isPositive val' = true) ∧
      (threshold.critHigh.any (le · val) = true → threshold.critHigh.any (le · val') = true) ∧
      (threshold.critLow.any (le val' ·) = true → threshold.critLow.any (le val ·) = true) :=
  ⟨isPositive_mono hle, any_le_mono hle, any_ge_anti hle⟩

theorem lowSideLevel_le_iff (hle : le val val' = true) :
    threshold.lowSideLevel val' ≤ threshold.lowSideLevel val ↔ threshold.GrowsDown val val' := by
  have hreach := threshold.reach_of_le hle
  unfold lowSideLevel GrowsDown
  revert hreach
  cases threshold.critHigh.any (le · val) <;> cases threshold.critHigh.any (le · val') <;>
    cases threshold.critLow.any (le val ·) <;> cases threshold.critLow.any (le val' ·) <;>
    cases isPositive val <;> cases isPositive val' <;> decide

theorem highSideLevel_le_iff (hle : le val val' = true) :
    threshold.highSideLevel val ≤ threshold.highSideLevel val' ↔ threshold.GrowsUp val val' := by
  have hreach := threshold.reach_of_le hle
  unfold highSideLevel GrowsUp
  revert hreach
  cases threshold.critHigh.any (le · val) <;> cases threshold.critHigh.any (le · val') <;>
    cases threshold.critLow.any (le val ·) <;> cases threshold.critLow.any (le val' ·) <;>
    cases isPositive val <;> cases isPositive val' <;> decide

/-- A positive divisor keeps the order of raw values. -/
theorem scaled_mono {config : DashboardConfig D} {register : ℤ} {raw raw' : D}
    (hdivisor : ∀ regConfig, config.registerByAddress register = some regConfig →
      lt zero regConfig.divisor = true)
    (hraw : le raw raw' = true)
    (hself : le (config.scaled register raw) (config.scaled register raw) = true)
    (hself' : le (config.scaled register raw') (config.scaled register raw') = true) :
    le (config.scaled register raw) (config.scaled register raw') = true := by
  unfold DashboardConfig.scaled at *
  cases hconfig : config.registerByAddress register with
  | none => exact hraw
  | some regConfig =>
      simp only [hconfig] at hself hself'
      exact LawfulDouble.div_le_div (hdivisor regConfig hconfig) hraw hself hself'

/-- **The severity grows with the distance** from the safe band on the high side, and on the low
side unless the lower value is at or below zero and the other above; up to critical limits of the
other side. -/
theorem severity_grows_iff (config : DashboardConfig D) (hordered : threshold.Ordered)
    (hdivisor : ∀ regConfig, config.registerByAddress threshold.register = some regConfig →
      lt zero regConfig.divisor = true)
    {raw raw' : D} (hraw : le raw raw' = true) (now now' : Instant) :
    let val := config.scaled threshold.register raw
    let val' := config.scaled threshold.register raw'
    (∀ warnLow, threshold.warnLow = some warnLow → le val warnLow = true → le val' warnLow = true →
        (threshold.severity config raw' now' ≤ threshold.severity config raw now ↔
          threshold.GrowsDown val val')) ∧
      ∀ warnHigh, threshold.warnHigh = some warnHigh → le warnHigh val = true →
        le warnHigh val' = true →
          (threshold.severity config raw now ≤ threshold.severity config raw' now' ↔
            threshold.GrowsUp val val') := by
  intro val val'
  constructor
  · intro warnLow hwarn hval hval'
    have hle := scaled_mono hdivisor hraw (LawfulDouble.le_self hval).1
      (LawfulDouble.le_self hval').1
    rw [severity_eq, severity_eq, level_of_le_warnLow hordered hwarn hval,
      level_of_le_warnLow hordered hwarn hval', lowSideLevel_le_iff hle]
  · intro warnHigh hwarn hval hval'
    have hle := scaled_mono hdivisor hraw (LawfulDouble.le_self hval).2
      (LawfulDouble.le_self hval').2
    rw [severity_eq, severity_eq, level_of_warnHigh_le hordered hwarn hval,
      level_of_warnHigh_le hordered hwarn hval', highSideLevel_le_iff hle]

end Monotone

end AlarmThreshold

/-! ## Exact doubles -/

namespace ExactDouble

theorem le_finite (a b : ℚ) : le (finite a) (finite b) = decide (a ≤ b) := by
  simp only [DartDouble.le, lt, eq, finite.injEq, reduceCtorEq, ne_eq, not_false_eq_true,
    decide_true, Bool.and_true, ← Bool.decide_or, ← le_iff_lt_or_eq]

theorem div_finite (a : ℚ) {b : ℚ} (hb : 0 < b) :
    DartDouble.div (finite a) (finite b) = finite (a / b) :=
  if_pos hb.ne'

theorem div_infinity (negative : Bool) {b : ℚ} (hb : 0 < b) :
    DartDouble.div (infinity negative) (finite b) = infinity negative := by
  change infinity (negative != decide (b < 0)) = infinity negative
  rw [decide_eq_false hb.not_gt, Bool.bne_false]

theorem not_le_nan (x : ExactDouble) : le x nan = false ∧ le nan x = false := by
  cases x with
  | infinity negative => cases negative <;> decide
  | _ => exact ⟨rfl, rfl⟩

@[simp] theorem le_infinity_true (x : ExactDouble) :
    le (infinity true) x = decide (x ≠ nan) := by
  cases x with
  | infinity negative => cases negative <;> decide
  | _ => rfl

@[simp] theorem le_infinity_false (x : ExactDouble) :
    le x (infinity false) = decide (x ≠ nan) := by
  cases x with
  | infinity negative => cases negative <;> decide
  | _ => rfl

@[simp] theorem not_le_infinity_true (a : ℚ) : le (finite a) (infinity true) = false := rfl

@[simp] theorem not_infinity_false_le (a : ℚ) : le (infinity false) (finite a) = false := rfl

instance : LawfulDouble ExactDouble where
  le_zero := by decide
  le_self {x y} h := by
    rcases x with a | (_ | _) | _ <;> rcases y with b | (_ | _) | _ <;>
      first | exact absurd h (by decide) | simp_all [le_finite, not_le_nan]
  le_trans {x y z} h h' := by
    rcases x with a | (_ | _) | _ <;> rcases y with b | (_ | _) | _ <;>
      rcases z with c | (_ | _) | _ <;>
      first
      | exact absurd h (by decide)
      | exact absurd h' (by decide)
      | simp_all [le_finite, not_le_nan]
    exact h.trans h'
  lt_iff {x y} h h' := by
    rcases x with a | (_ | _) | _ <;> rcases y with b | (_ | _) | _ <;>
      first
      | decide
      | exact absurd h (by decide)
      | exact absurd h' (by decide)
      | simp_all [le_finite, DartDouble.lt, lt]
  div_le_div {x y divisor} hpos h hself hself' := by
    rcases divisor with b | (_ | _) | _
    · have hb : 0 < b := of_decide_eq_true hpos
      rcases x with a | (_ | _) | _ <;> rcases y with a' | (_ | _) | _ <;>
        simp_all [le_finite, div_finite, div_infinity, not_le_nan]
      exact div_le_div_of_nonneg_right h hb.le
    · -- a number divided by infinity is zero
      rcases x with a | (_ | _) | _ <;> rcases y with a' | (_ | _) | _ <;>
        first
        | rfl
        | exact absurd hself (by decide)
        | exact absurd hself' (by decide)
    · exact absurd hpos (by decide)
    · exact absurd hpos (by decide)

end ExactDouble

/-- Warnings below 10 and above 90, critical below 5 and above 95. -/
def levelThreshold : AlarmThreshold ExactDouble :=
  ⟨1028, "Level", some (.finite 90), some (.finite 95), some (.finite 10), some (.finite 5)⟩

/-- The register has tenths. -/
def levelDashboard : DashboardConfig ExactDouble where
  deviceId := "plc-01"
  registers := [⟨1028, "level", .finite 10⟩]
  alarms := [levelThreshold]

theorem levelThreshold_ordered : levelThreshold.Ordered where
  low := by rintro _ _ ⟨⟩ ⟨⟩; decide
  high := by rintro _ _ ⟨⟩ ⟨⟩; decide
  apart := by rintro _ _ ⟨⟩ ⟨⟩; decide

theorem severity_grows_levelThreshold :
    levelThreshold.severity levelDashboard (.finite 80) 1 ≤
      levelThreshold.severity levelDashboard (.finite 40) 0 := by
  have hraw : le (ExactDouble.finite 40) (.finite 80) = true := by decide +kernel
  have hgrows := AlarmThreshold.severity_grows_iff levelDashboard levelThreshold_ordered
    (by rintro _ ⟨⟩; decide +kernel) hraw 0 1
  refine (hgrows.1 (.finite 10) rfl (by decide +kernel) (by decide +kernel)).mpr ?_
  unfold AlarmThreshold.GrowsDown
  decide +kernel

/-- A level of zero is no alarm, one of 4 is a critical one. -/
theorem zero_less_severe :
    let val (raw : ExactDouble) := levelDashboard.scaled levelThreshold.register raw
    le (ExactDouble.finite 0) (.finite 40) = true ∧ le (val (.finite 0)) (.finite 10) = true ∧
      le (val (.finite 40)) (.finite 10) = true ∧
      ¬levelThreshold.severity levelDashboard (.finite 40) 0 ≤
        levelThreshold.severity levelDashboard (.finite 0) 0 := by
  decide +kernel

end VyuhHmi.App
