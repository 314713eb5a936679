import Mathlib.Data.Rat.Init
import VyuhHmi.Foundation.Rfc3339
import VyuhHmi.Foundation.RowTable

/-!
# Shared data types

The records of `models.rs` and `config.rs` that the alarm, batch and device operations exchange.
Instants are nanoseconds since the Unix epoch: the store writes them as RFC 3339 text in UTC, whose
byte order is chronological.  PLC readings are `u16` values; a reading stored in a `REAL` column is
exact.
-/

namespace VyuhHmi

/-- A UTC instant in nanoseconds since the Unix epoch. -/
abbrev Instant := ℕ

def nanosPerSecond : ℕ := 1000000000

def nanosPerMinute : ℕ := 60 * nanosPerSecond

/-- Standard API response wrapper. -/
structure ApiResponse (T : Type) where
  success : Bool
  data : Option T
  error : Option String
deriving DecidableEq

def ApiResponse.ok {T : Type} (data : T) : ApiResponse T := ⟨true, some data, none⟩

def ApiResponse.fail {T : Type} (error : String) : ApiResponse T := ⟨false, none, some error⟩

@[simp] theorem ApiResponse.success_ok {T : Type} (data : T) :
    (ApiResponse.ok data).success = true := rfl

@[simp] theorem ApiResponse.success_fail {T : Type} (error : String) :
    (ApiResponse.fail (T := T) error).success = false := rfl

/-- The HTTP status of a response. -/
inductive StatusCode
  | ok | created | badRequest | unauthorized | forbidden | conflict | tooManyRequests
  | internalServerError
deriving DecidableEq

/-! ## Devices -/

/-- A single PLC device to connect to. -/
structure DeviceConfig where
  id : String
  name : String
  address : String
  protocol : String
  pollRateMs : UInt64
  registerStart : UInt16
  registerCount : UInt16
  writable : List UInt16
deriving DecidableEq

/-- A PLC device on the network. -/
structure PlcDevice where
  id : String
  name : String
  address : String
  protocol : String
  isConnected : Bool
deriving DecidableEq

/-- Request to add a new device at runtime. -/
structure AddDeviceRequest where
  id : String
  name : String
  address : String
  protocol : String
  pollRateMs : Option UInt64
  registerStart : UInt16
  registerCount : UInt16
  writable : List UInt16
deriving DecidableEq

/-- Data coming from a PLC (one reading). -/
structure PlcData where
  deviceId : String
  register : UInt16
  value : ℚ
  timestamp : Rfc3339.Instant
deriving DecidableEq

/-- Request to write one register of a device. -/
structure WriteRequest where
  deviceId : String
  register : UInt16
  value : UInt16
deriving DecidableEq

/-! ## ISA-18.2 alarm management -/

/-- Alarm priority levels per ISA-18.2. -/
inductive AlarmPriority
  | critical | high | medium | low | info
deriving DecidableEq

namespace AlarmPriority

def fromI32 : ℤ → AlarmPriority
  | 1 => critical
  | 2 => high
  | 3 => medium
  | 4 => low
  | _ => info

def asI32 : AlarmPriority → ℤ
  | critical => 1
  | high => 2
  | medium => 3
  | low => 4
  | info => 5

@[simp] theorem fromI32_asI32 (priority : AlarmPriority) : fromI32 priority.asI32 = priority := by
  cases priority <;> rfl

end AlarmPriority

/-- Alarm state per the ISA-18.2 state machine. -/
inductive AlarmState
  | active | acknowledged | cleared | shelved
deriving DecidableEq

namespace AlarmState

def asStr : AlarmState → String
  | active => "active"
  | acknowledged => "acknowledged"
  | cleared => "cleared"
  | shelved => "shelved"

/-- Any other text reads back as `active`. -/
def fromStr (s : String) : AlarmState :=
  if s = "acknowledged" then acknowledged
  else if s = "cleared" then cleared
  else if s = "shelved" then shelved
  else active

@[simp] theorem fromStr_asStr (state : AlarmState) : fromStr state.asStr = state := by
  cases state <;> decide

end AlarmState

/-- A single alarm record.  The `state` column only ever holds the four texts of `AlarmState`. -/
structure Alarm where
  id : ℤ
  deviceId : String
  register : UInt16
  label : String
  priority : AlarmPriority
  state : AlarmState
  value : ℚ
  threshold : ℚ
  message : String
  timestamp : Instant
  ackedBy : Option String
  ackedAt : Option Instant
  shelvedUntil : Option Instant
  shelvedBy : Option String
  clearedAt : Option Instant
deriving DecidableEq

/-- The `alarms` table. -/
abbrev AlarmTable := RowTable Alarm Alarm.id

/-- Request to acknowledge an alarm. -/
structure AckAlarmRequest where
  comment : Option String
deriving DecidableEq

/-- Request to shelve an alarm. -/
structure ShelveAlarmRequest where
  durationMinutes : UInt32
  reason : String
deriving DecidableEq

/-- Request to raise an alarm from the polling engine. -/
structure RaiseAlarmRequest where
  deviceId : String
  register : UInt16
  label : String
  priority : AlarmPriority
  value : ℚ
  threshold : ℚ
  message : String

/-! ## ISA-88 batch records -/

inductive BatchStatus
  | running | completed | aborted | held
deriving DecidableEq

def BatchStatus.asStr : BatchStatus → String
  | running => "running"
  | completed => "completed"
  | aborted => "aborted"
  | held => "held"

/-- A batch record (ISA-88 batch header). -/
structure BatchRecord where
  id : ℤ
  batchId : String
  recipeName : String
  deviceId : String
  operator : String
  status : BatchStatus
  startTime : Instant
  endTime : Option Instant
  notes : Option String
deriving DecidableEq

end VyuhHmi
