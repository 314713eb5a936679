import VyuhHmi.Foundation.KeyedView
import VyuhHmi.Foundation.Window
import VyuhHmi.Models

/-!
# The dashboard store

The operator's dashboard: a cache for every device that has been heard of, and the observables on
display, which follow the active device.  A message updates the cache of its device and, by a second
copy of the same statements, the display if the device is active.  The conversion of a batch state
to an integer throws on a value that is not finite; what has been assigned by then stays assigned.
-/

namespace VyuhHmi.App

/-- What the store does with Dart's `double`. -/
class DartDouble (D : Type) where
  zero : D
  div : D → D → D
  /-- Throws on NaN and on the infinities. -/
  toInt : D → Option ℤ
  lt : D → D → Bool
  le : D → D → Bool
  eq : D → D → Bool
  roundToDouble : D → D
  toStringAsFixed : D → ℕ → String

/-! ## Data -/

/-- Single register reading from a PLC device. -/
structure PlcData (D : Type) where
  deviceId : String
  register : ℤ
  value : D
  timestamp : String
deriving DecidableEq

inductive BatchState
  | idle | heating | holding | cooling | complete
deriving DecidableEq

/-- Any other code reads as idle. -/
def BatchState.fromCode : ℤ → BatchState
  | 1 => heating
  | 2 => holding
  | 3 => cooling
  | 4 => complete
  | _ => idle

structure RegisterConfig (D : Type) where
  address : ℤ
  key : String
  divisor : D

structure AlarmThreshold (D : Type) where
  register : ℤ
  label : String
  warnHigh : Option D
  critHigh : Option D
  warnLow : Option D
  critLow : Option D

/-- The parts of the configuration that messages and device switches use. -/
structure DashboardConfig (D : Type) where
  deviceId : String
  registers : List (RegisterConfig D)
  alarms : List (AlarmThreshold D)

/-- Severity levels for HMI alarms. -/
inductive AlarmSeverity
  | warning | critical | info
deriving DecidableEq

/-- A single alarm event. -/
structure Alarm where
  id : String
  message : String
  severity : AlarmSeverity
  timestamp : Instant
  register : Option ℤ
deriving DecidableEq

variable {D : Type} [DartDouble D]

/-- Apply divisor to a raw register value. -/
def RegisterConfig.applyDivisor (regConfig : RegisterConfig D) (raw : D) : D :=
  DartDouble.div raw regConfig.divisor

/-- Lookup a register config by address. -/
def DashboardConfig.registerByAddress (config : DashboardConfig D) (address : ℤ) :
    Option (RegisterConfig D) :=
  config.registers.find? fun regConfig ↦ regConfig.address == address

/-- The fields that a device cache and the display have in common. -/
structure Readings (D : Type) where
  liveValues : ℤ → Option D
  registerHistory : ℤ → Option (List (PlcData D))
  temperature : D
  pressure : D
  humidity : D
  flowRate : D
  agitatorSpeed : D
  pH : D
  batchState : BatchState
  batchProgress : D

/-- Holds all sensor data, history, and alarm state for a single device. -/
structure DeviceDataCache (D : Type) extends Readings D where
  alarms : List Alarm

/-- The caches, and the observables on display. -/
structure DashboardStore (D : Type) extends Readings D where
  deviceCache : String → Option (DeviceDataCache D)
  isServerConnected : Bool
  isWsConnected : Bool
  activeDeviceId : String
  activeAlarms : List Alarm

/-! ## Readings -/

namespace Readings

def empty : Readings D where
  liveValues := fun _ ↦ none
  registerHistory := fun _ ↦ none
  temperature := DartDouble.zero
  pressure := DartDouble.zero
  humidity := DartDouble.zero
  flowRate := DartDouble.zero
  agitatorSpeed := DartDouble.zero
  pH := DartDouble.zero
  batchState := .idle
  batchProgress := DartDouble.zero

def maxHistoryPoints : ℕ := 60

variable (readings : Readings D)

def setLive (register : ℤ) (value : D) : Readings D :=
  { readings with liveValues := Function.update readings.liveValues register (some value) }

/-- Update the named value of a register; `none` where `toInt` throws. -/
def setNamed (regConfig : RegisterConfig D) (value : D) : Option (Readings D) :=
  let applied := regConfig.applyDivisor value
  match regConfig.key with
  | "temperature" => some { readings with temperature := applied }
  | "pressure" => some { readings with pressure := applied }
  | "humidity" => some { readings with humidity := applied }
  | "flowRate" => some { readings with flowRate := applied }
  | "batchState" =>
      (DartDouble.toInt value).map fun code ↦ { readings with batchState := .fromCode code }
  | "batchProgress" => some { readings with batchProgress := applied }
  | "agitatorSpeed" => some { readings with agitatorSpeed := applied }
  | "pH" => some { readings with pH := applied }
  | _ => some readings

/-- Append to the register's history. -/
def addHistory (data : PlcData D) : Readings D :=
  { readings with
    registerHistory := Function.update readings.registerHistory data.register
      (some (Window.push maxHistoryPoints
        ((readings.registerHistory data.register).getD []) data)) }

/-- What a message does to a cache or to the display, and whether it gets to the end. -/
def receive (config : DashboardConfig D) (data : PlcData D) : Readings D × Bool :=
  let live := readings.setLive data.register data.value
  match config.registerByAddress data.register with
  | none => (live.addHistory data, true)
  | some regConfig =>
      match live.setNamed regConfig data.value with
      | none => (live, false)
      | some named => (named.addHistory data, true)

end Readings

def DeviceDataCache.empty : DeviceDataCache D where
  toReadings := .empty
  alarms := []

/-! ## Alarms -/

/-- Format a threshold value: show decimal only when it is fractional. -/
def fmtThreshold (v : D) : String :=
  DartDouble.toStringAsFixed v (if DartDouble.eq v (DartDouble.roundToDouble v) then 0 else 1)

namespace AlarmThreshold

variable (threshold : AlarmThreshold D) (val : D) (now : Instant)

def highAlarms : List Alarm :=
  let text := DartDouble.toStringAsFixed val 1
  match threshold.critHigh.filter (DartDouble.le · val) with
  | some critHigh =>
      [⟨threshold.label ++ "-crit-high", "CRITICAL: " ++ threshold.label ++ " " ++ text ++
        " exceeds " ++ fmtThreshold critHigh, .critical, now, some threshold.register⟩]
  | none =>
      if threshold.warnHigh.any (DartDouble.le · val) then
        [⟨threshold.label ++ "-warn-high", "WARNING: " ++ threshold.label ++ " " ++ text ++
          " approaching limit", .warning, now, some threshold.register⟩]
      else []

def lowAlarms : List Alarm :=
  let text := DartDouble.toStringAsFixed val 1
  let isBelow (limit : D) : Bool := DartDouble.lt DartDouble.zero val && DartDouble.le val limit
  match threshold.critLow.filter isBelow with
  | some critLow =>
      [⟨threshold.label ++ "-crit-low", "CRITICAL: " ++ threshold.label ++ " " ++ text ++
        " below " ++ fmtThreshold critLow, .critical, now, some threshold.register⟩]
  | none =>
      if threshold.warnLow.any isBelow then
        [⟨threshold.label ++ "-warn-low", "WARNING: " ++ threshold.label ++ " " ++ text ++
          " below safe range", .warning, now, some threshold.register⟩]
      else []

end AlarmThreshold

namespace DashboardStore

variable (config : DashboardConfig D) (s : DashboardStore D)

/-- The store when it is created, for this device. -/
def fresh (activeDeviceId : String) : DashboardStore D where
  toReadings := .empty
  deviceCache := fun _ ↦ none
  isServerConnected := false
  isWsConnected := false
  activeDeviceId := activeDeviceId
  activeAlarms := []

def init : DashboardStore D := fresh config.deviceId

/-- Get the cache for a device. -/
def cacheFor (deviceId : String) : DeviceDataCache D := (s.deviceCache deviceId).getD .empty

def putCache (deviceId : String) (cache : DeviceDataCache D) : DashboardStore D :=
  { s with deviceCache := Function.update s.deviceCache deviceId (some cache) }

/-- The alarms of the values on display. -/
def thresholdAlarms (now : Instant) : List Alarm :=
  config.alarms.flatMap fun threshold ↦
    match s.liveValues threshold.register with
    | none => []
    | some raw =>
        let val := match config.registerByAddress threshold.register with
          | some regConfig => regConfig.applyDivisor raw
          | none => raw
        threshold.highAlarms val now ++ threshold.lowAlarms val now

def connectionAlarms (now : Instant) : List Alarm :=
  if !s.isWsConnected && s.isServerConnected then
    [⟨"ws-disconnected", "WebSocket disconnected — live data paused", .info, now, none⟩]
  else []

/-- Recompute the alarms, and keep them in the cache of the active device. -/
def checkAlarms (now : Instant) : DashboardStore D :=
  let newAlarms := s.thresholdAlarms config now ++ s.connectionAlarms now
  { s with activeAlarms := newAlarms }.putCache s.activeDeviceId
    { s.cacheFor s.activeDeviceId with alarms := newAlarms }

/-- Populate all observable fields from a device cache. -/
def restoreFromCache (cache : DeviceDataCache D) : DashboardStore D :=
  { s with toReadings := cache.toReadings, activeAlarms := cache.alarms }

/-- Switch the dashboard to show data from a different device. -/
def switchDevice (deviceId : String) : DashboardStore D :=
  if deviceId = s.activeDeviceId then s
  else
    let cache := s.cacheFor deviceId
    ({ s with activeDeviceId := deviceId }.putCache deviceId cache).restoreFromCache cache

/-- A message: always update the device's cache, and the display if the device is active. -/
def onData (data : PlcData D) (now : Instant) : DashboardStore D :=
  let cache := s.cacheFor data.deviceId
  let (cached, completed) := cache.receive config data
  let s := s.putCache data.deviceId { cache with toReadings := cached }
  if !completed || data.deviceId ≠ s.activeDeviceId then s
  else
    let (shown, completed) := s.receive config data
    let s := { s with toReadings := shown }
    if completed then s.checkAlarms config now else s

/-! ## Runs -/

end DashboardStore

/-- A message with the time of its arrival, or a choice of the operator. -/
inductive StoreOp (D : Type)
  | onData (data : PlcData D) (now : Instant)
  | switchDevice (deviceId : String)

def DashboardStore.apply (config : DashboardConfig D) (s : DashboardStore D) :
    StoreOp D → DashboardStore D
  | .onData data now => s.onData config data now
  | .switchDevice deviceId => s.switchDevice deviceId

def DashboardStore.run (config : DashboardConfig D) (s : DashboardStore D)
    (ops : List (StoreOp D)) : DashboardStore D :=
  ops.foldl (DashboardStore.apply config) s

/-! ## Exact doubles -/

/-- A `double` without rounding: the number, or one of the special values. -/
inductive ExactDouble
  | finite (value : ℚ)
  | infinity (negative : Bool)
  | nan
deriving DecidableEq

namespace ExactDouble

def div : ExactDouble → ExactDouble → ExactDouble
  | finite a, finite b =>
      if b ≠ 0 then finite (a / b) else if a = 0 then nan else infinity (decide (a < 0))
  | finite _, infinity _ => finite 0
  | infinity negative, finite b => infinity (negative != decide (b < 0))
  | _, _ => nan

def toInt : ExactDouble → Option ℤ
  | finite a => some (if 0 ≤ a then a.floor else a.ceil)
  | _ => none

def lt : ExactDouble → ExactDouble → Bool
  | finite a, finite b => decide (a < b)
  | infinity true, finite _ | finite _, infinity false | infinity true, infinity false => true
  | _, _ => false

/-- NaN is equal to nothing. -/
def eq (x y : ExactDouble) : Bool := decide (x = y) && decide (x ≠ nan)

/-- Halves are rounded away from zero. -/
def round (a : ℚ) : ℤ := if 0 ≤ a then (a + 1 / 2).floor else (a - 1 / 2).ceil

def roundToDouble : ExactDouble → ExactDouble
  | finite a => finite (round a)
  | x => x

def toStringAsFixed : ExactDouble → ℕ → String
  | finite a, digits =>
      let scaled := (round (a * 10 ^ digits)).natAbs
      let decimals := toString (scaled % 10 ^ digits)
      (if a < 0 then "-" else "") ++ toString (scaled / 10 ^ digits) ++
        if digits = 0 then ""
        else "." ++ String.ofList (List.replicate (digits - decimals.length) '0') ++ decimals
  | infinity negative, _ => if negative then "-Infinity" else "Infinity"
  | nan, _ => "NaN"

instance : DartDouble ExactDouble where
  zero := finite 0
  div := div
  toInt := toInt
  lt := lt
  le := fun x y ↦ lt x y || eq x y
  eq := eq
  roundToDouble := roundToDouble
  toStringAsFixed := toStringAsFixed

end ExactDouble

end VyuhHmi.App
