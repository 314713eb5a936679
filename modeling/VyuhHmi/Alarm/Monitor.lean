import VyuhHmi.Alarm.Store

/-!
# The alarm block of a poll

`start_device_polling` checks each register of `ALARM_THRESHOLDS` that a poll has read: it raises
an alarm when the reading reaches the limit and the device register has no unresolved alarm, and
it closes the latest unresolved alarm when the reading is back in the safe range.  All limits are
whole numbers, so a comparison with `limit * 0.95` is taken as one of hundredths.
-/

namespace VyuhHmi

open Alarm

/-- Alarm threshold definition. -/
structure AlarmThreshold where
  register : UInt16
  label : String
  warnHigh : Option ℕ
  critHigh : Option ℕ
  warnLow : Option ℕ
  critLow : Option ℕ
deriving DecidableEq

/-- Known alarm thresholds for the pharma/chemical plant. -/
def alarmThresholds : List AlarmThreshold :=
  [⟨1028, "Temperature", some 85, some 100, none, none⟩,
    ⟨1029, "Pressure", some 1200, some 1400, none, none⟩]

/-- The readings of one poll by register address. -/
abbrev RegMap := UInt16 → Option UInt16

/-- The alarm a reading asks for, given whether the device register has an unresolved one.  The
warning branch belongs to thresholds without a critical limit. -/
def alarmToRaise (deviceId : String) (th : AlarmThreshold) (val : ℕ) (hasAlarm : Bool) :
    Option RaiseAlarmRequest :=
  match th.critHigh with
  | some crit =>
      if crit ≤ val && !hasAlarm then
        some {
          deviceId := deviceId
          register := th.register
          label := th.label
          priority := .critical
          value := val
          threshold := crit
          message := "CRITICAL: " ++ th.label ++ " " ++ toString val ++ ".0 exceeds " ++
            toString crit }
      else none
  | none =>
      match th.warnHigh with
      | some warn =>
          if warn ≤ val && !hasAlarm then
            some {
              deviceId := deviceId
              register := th.register
              label := th.label
              priority := .high
              value := val
              threshold := warn
              message := "WARNING: " ++ th.label ++ " " ++ toString val ++
                ".0 approaching limit (" ++ toString warn ++ ")" }
          else none
      | none => none

/-- The reading is back in the safe range. -/
def backToSafe (th : AlarmThreshold) (val : ℕ) : Bool :=
  th.warnHigh.all (fun w ↦ 100 * val < 95 * w) && th.warnLow.all (fun w ↦ 105 * w < 100 * val)

/-- `raise_alarm`, if the reading asks for an alarm. -/
def raiseIfNeeded (alarms : AlarmTable) (req : Option RaiseAlarmRequest) (now : Instant) :
    AlarmTable :=
  match req with
  | some req => (raiseAlarm alarms req now).1
  | none => alarms

/-- Auto-clear the latest unresolved alarm of a device register. -/
def autoClear (alarms : AlarmTable) (deviceId : String) (register : UInt16) (now : Instant) :
    AlarmTable :=
  match getActiveAlarmId alarms deviceId register with
  | some alarmId => clearAlarm alarms alarmId now
  | none => alarms

/-- One threshold of the alarm block. -/
def checkThreshold (deviceId : String) (th : AlarmThreshold) (val : ℕ) (now : Instant)
    (alarms : AlarmTable) : AlarmTable :=
  let hasAlarm := hasActiveAlarm alarms deviceId th.register
  let raised := raiseIfNeeded alarms (alarmToRaise deviceId th val hasAlarm) now
  if hasAlarm && backToSafe th val then autoClear raised deviceId th.register now else raised

/-- A threshold whose register the poll has not read is skipped. -/
def checkReading (deviceId : String) (regMap : RegMap) (now : Instant) (alarms : AlarmTable)
    (th : AlarmThreshold) : AlarmTable :=
  match regMap th.register with
  | some val => checkThreshold deviceId th val.toNat now alarms
  | none => alarms

/-- The thresholds of a list in turn. -/
def checkThresholds (deviceId : String) (regMap : RegMap) (now : Instant)
    (ths : List AlarmThreshold) (alarms : AlarmTable) : AlarmTable :=
  ths.foldl (checkReading deviceId regMap now) alarms

/-- The alarm block of one poll. -/
def alarmMonitoring (deviceId : String) (regMap : RegMap) (now : Instant) (alarms : AlarmTable) :
    AlarmTable :=
  checkThresholds deviceId regMap now alarmThresholds alarms

/-! ## One threshold -/

theorem alarmToRaise_of_hasAlarm (deviceId : String) (th : AlarmThreshold) (val : ℕ) :
    alarmToRaise deviceId th val true = none := by
  unfold alarmToRaise
  rcases th.critHigh with _ | crit <;> rcases th.warnHigh with _ | warn <;> simp

/-- An alarm is only ever raised for the device register whose threshold was checked. -/
theorem alarmToRaise_fields {deviceId : String} {th : AlarmThreshold} {val : ℕ} {hasAlarm : Bool}
    {req : RaiseAlarmRequest} (h : alarmToRaise deviceId th val hasAlarm = some req) :
    req.deviceId = deviceId ∧ req.register = th.register := by
  unfold alarmToRaise at h
  split at h
  case h_1 =>
      split at h
      case isTrue => cases h; exact ⟨rfl, rfl⟩
      case isFalse => cases h
  case h_2 =>
      split at h
      case h_1 =>
          split at h
          case isTrue => cases h; exact ⟨rfl, rfl⟩
          case isFalse => cases h
      case h_2 => cases h

/-- A threshold step does one of three things: it leaves the table alone, it raises one alarm for
a device register without an unresolved one, or it clears the latest unresolved alarm. -/
theorem checkThreshold_cases (deviceId : String) (th : AlarmThreshold) (val : ℕ) (now : Instant)
    (alarms : AlarmTable) :
    (hasActiveAlarm alarms deviceId th.register = false ∧
      alarmToRaise deviceId th val false = none ∧
      checkThreshold deviceId th val now alarms = alarms) ∨
    (∃ req, hasActiveAlarm alarms deviceId th.register = false ∧
      alarmToRaise deviceId th val false = some req ∧
      checkThreshold deviceId th val now alarms = (raiseAlarm alarms req now).1) ∨
    (hasActiveAlarm alarms deviceId th.register = true ∧ backToSafe th val = false ∧
      checkThreshold deviceId th val now alarms = alarms) ∨
    (hasActiveAlarm alarms deviceId th.register = true ∧ backToSafe th val = true ∧
      checkThreshold deviceId th val now alarms = autoClear alarms deviceId th.register now) := by
  cases hactive : hasActiveAlarm alarms deviceId th.register with
  | false =>
      cases hraise : alarmToRaise deviceId th val false with
      | none => exact .inl ⟨rfl, rfl, by simp [checkThreshold, hactive, hraise, raiseIfNeeded]⟩
      | some req =>
          exact .inr (.inl ⟨req, rfl, rfl, by simp [checkThreshold, hactive, hraise, raiseIfNeeded]⟩)
  | true =>
      cases hsafe : backToSafe th val with
      | false =>
          refine .inr (.inr (.inl ⟨rfl, rfl, ?_⟩))
          simp [checkThreshold, hactive, hsafe, alarmToRaise_of_hasAlarm, raiseIfNeeded]
      | true =>
          refine .inr (.inr (.inr ⟨rfl, rfl, ?_⟩))
          simp [checkThreshold, hactive, hsafe, alarmToRaise_of_hasAlarm, raiseIfNeeded]

/-- **Rule for polls.** What every threshold step keeps, the whole alarm block keeps. -/
theorem alarmMonitoring_induct {Inv : AlarmTable → Prop} {deviceId : String} {now : Instant}
    (hstep : ∀ th val alarms, Inv alarms → Inv (checkThreshold deviceId th val now alarms))
    (regMap : RegMap) {alarms : AlarmTable} (h : Inv alarms) :
    Inv (alarmMonitoring deviceId regMap now alarms) := by
  unfold alarmMonitoring checkThresholds
  induction alarmThresholds generalizing alarms with
  | nil => exact h
  | cons th ths ih =>
      apply ih
      unfold checkReading
      cases regMap th.register with
      | none => exact h
      | some val => exact hstep th val.toNat alarms h

end VyuhHmi
