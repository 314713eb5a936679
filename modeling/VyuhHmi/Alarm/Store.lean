import VyuhHmi.Models

/-!
# Alarm operations of the database layer

The alarm functions of `db.rs`.  `ackAlarm` and `shelveAlarm` read the state in one SQL statement
and update the row by id in another; the statements are definitions of their own, so that the
same text serves the atomic operations here and the interleaved ones in `Alarm.Interleaving`.
-/

namespace VyuhHmi

namespace Alarm

/-- The row belongs to this device register. -/
def isFor (deviceId : String) (register : UInt16) (alarm : Alarm) : Bool :=
  alarm.deviceId == deviceId && alarm.register == register

/-- `state IN ('active', 'acknowledged')`. -/
def unresolved (alarm : Alarm) : Bool :=
  alarm.state == .active || alarm.state == .acknowledged

/-- `state = 'shelved' AND shelved_until IS NOT NULL AND shelved_until < now`. -/
def expired (now : Instant) (alarm : Alarm) : Bool :=
  alarm.state == .shelved && alarm.shelvedUntil.any (· < now)

/-- The row a query for an unresolved alarm of this device register looks for. -/
def unresolvedFor (deviceId : String) (register : UInt16) (alarm : Alarm) : Bool :=
  alarm.isFor deviceId register && alarm.unresolved

/-! ### What the `UPDATE` statements do to a row -/

def acknowledge (username messageUpdate : String) (now : Instant) (alarm : Alarm) : Alarm :=
  { alarm with
    state := .acknowledged
    ackedBy := some username
    ackedAt := some now
    message := alarm.message ++ messageUpdate }

def shelve (username : String) (until_ : Instant) (alarm : Alarm) : Alarm :=
  { alarm with state := .shelved, shelvedUntil := some until_, shelvedBy := some username }

def clear (now : Instant) (alarm : Alarm) : Alarm :=
  { alarm with state := .cleared, clearedAt := some now }

def unshelve (alarm : Alarm) : Alarm :=
  { alarm with state := .active, shelvedUntil := none, shelvedBy := none }

section rows

variable (username messageUpdate : String) (until_ now : Instant) (alarm : Alarm)

@[simp] theorem acknowledge_id : (alarm.acknowledge username messageUpdate now).id = alarm.id := rfl

@[simp] theorem shelve_id : (alarm.shelve username until_).id = alarm.id := rfl

@[simp] theorem clear_id : (alarm.clear now).id = alarm.id := rfl

@[simp] theorem unshelve_id : alarm.unshelve.id = alarm.id := rfl

@[simp] theorem acknowledge_state :
    (alarm.acknowledge username messageUpdate now).state = .acknowledged := rfl

@[simp] theorem shelve_state : (alarm.shelve username until_).state = .shelved := rfl

@[simp] theorem clear_state : (alarm.clear now).state = .cleared := rfl

@[simp] theorem unshelve_state : alarm.unshelve.state = .active := rfl

@[simp] theorem isFor_acknowledge (deviceId : String) (register : UInt16) :
    (alarm.acknowledge username messageUpdate now).isFor deviceId register =
      alarm.isFor deviceId register := rfl

@[simp] theorem isFor_shelve (deviceId : String) (register : UInt16) :
    (alarm.shelve username until_).isFor deviceId register = alarm.isFor deviceId register := rfl

@[simp] theorem isFor_clear (deviceId : String) (register : UInt16) :
    (alarm.clear now).isFor deviceId register = alarm.isFor deviceId register := rfl

@[simp] theorem isFor_unshelve (deviceId : String) (register : UInt16) :
    alarm.unshelve.isFor deviceId register = alarm.isFor deviceId register := rfl

end rows

end Alarm

open Alarm

/-- The row `raise_alarm` inserts, given its key. -/
def raisedAlarm (req : RaiseAlarmRequest) (now : Instant) (id : ℤ) : Alarm where
  id := id
  deviceId := req.deviceId
  register := req.register
  label := req.label
  priority := req.priority
  state := .active
  value := req.value
  threshold := req.threshold
  message := req.message
  timestamp := now
  ackedBy := none
  ackedAt := none
  shelvedUntil := none
  shelvedBy := none
  clearedAt := none

@[simp] theorem raisedAlarm_id (req : RaiseAlarmRequest) (now : Instant) (id : ℤ) :
    (raisedAlarm req now id).id = id := rfl

/-- Raise a new alarm: the table after the insert and the new alarm's id. -/
def raiseAlarm (alarms : AlarmTable) (req : RaiseAlarmRequest) (now : Instant) : AlarmTable × ℤ :=
  (alarms.insert (raisedAlarm req now) (raisedAlarm_id req now), alarms.seq + 1)

/-- Is there already an unresolved alarm for this device register? -/
def hasActiveAlarm (alarms : AlarmTable) (deviceId : String) (register : UInt16) : Bool :=
  decide (0 < alarms.count (unresolvedFor deviceId register))

/-- The latest unresolved alarm of this device register, for auto-clearing. -/
def getActiveAlarmId (alarms : AlarmTable) (deviceId : String) (register : UInt16) : Option ℤ :=
  (alarms.latest (unresolvedFor deviceId register)).map Alarm.id

/-- `SELECT state FROM alarms WHERE id = ?`. -/
def selectState (alarms : AlarmTable) (alarmId : ℤ) : Option AlarmState :=
  (alarms.byId alarmId).map Alarm.state

/-! ## Acknowledgement -/

/-- What `ack_alarm` decides from the selected state; `ok` goes on to the update. -/
def ackCheck : Option AlarmState → Except String Unit
  | none => .error "Alarm not found"
  | some .active => .ok ()
  | some state => .error ("Cannot acknowledge alarm in '" ++ state.asStr ++ "' state")

/-- The text appended to the alarm message. -/
def ackMessage : Option String → String
  | none => ""
  | some comment => " — Ack comment: " ++ comment

/-- The `UPDATE` statement of `ack_alarm`. -/
def ackUpdate (alarms : AlarmTable) (alarmId : ℤ) (username messageUpdate : String)
    (now : Instant) : AlarmTable :=
  alarms.updateWhere (fun alarm ↦ alarm.id == alarmId)
    (Alarm.acknowledge username messageUpdate now) (acknowledge_id username messageUpdate now)

/-- Acknowledge an alarm — operator confirmation. -/
def ackAlarm (alarms : AlarmTable) (alarmId : ℤ) (username : String) (comment : Option String)
    (now : Instant) : AlarmTable × Except String Unit :=
  match ackCheck (selectState alarms alarmId) with
  | .error e => (alarms, .error e)
  | .ok () => (ackUpdate alarms alarmId username (ackMessage comment) now, .ok ())

/-! ## Shelving -/

/-- Shelving lasts at most eight hours. -/
def shelveMinutes (durationMinutes : UInt32) : ℕ := min durationMinutes.toNat 480

def shelveUntil (durationMinutes : UInt32) (now : Instant) : Instant :=
  now + shelveMinutes durationMinutes * nanosPerMinute

/-- What `shelve_alarm` decides from the selected state; `ok` goes on to the update. -/
def shelveCheck : Option AlarmState → Except String Unit
  | none => .error "Alarm not found"
  | some .cleared => .error "Cannot shelve a cleared alarm"
  | some _ => .ok ()

/-- The `UPDATE` statement of `shelve_alarm`. -/
def shelveUpdate (alarms : AlarmTable) (alarmId : ℤ) (username : String) (until_ : Instant) :
    AlarmTable :=
  alarms.updateWhere (fun alarm ↦ alarm.id == alarmId) (Alarm.shelve username until_)
    (shelve_id username until_)

/-- Shelve an alarm — temporarily suppress for the given duration. -/
def shelveAlarm (alarms : AlarmTable) (alarmId : ℤ) (username : String) (durationMinutes : UInt32)
    (now : Instant) : AlarmTable × Except String Unit :=
  match shelveCheck (selectState alarms alarmId) with
  | .error e => (alarms, .error e)
  | .ok () => (shelveUpdate alarms alarmId username (shelveUntil durationMinutes now), .ok ())

/-! ## Clearing and un-shelving -/

/-- Clear an alarm — condition has returned to normal. -/
def clearAlarm (alarms : AlarmTable) (alarmId : ℤ) (now : Instant) : AlarmTable :=
  alarms.updateWhere (fun alarm ↦ alarm.id == alarmId && alarm.state != .cleared)
    (Alarm.clear now) (clear_id now)

/-- Un-shelve expired alarms. -/
def unshelveExpired (alarms : AlarmTable) (now : Instant) : AlarmTable :=
  alarms.updateWhere (Alarm.expired now) Alarm.unshelve unshelve_id

/-! ## Failing statements -/

/-- The statement of a database function that fails. -/
inductive DbFailure
  | select (error : String)
  | update (error : String)
deriving DecidableEq

/-- A database function one of whose statements may fail. -/
def attempt (alarms : AlarmTable) (result : AlarmTable × Except String Unit) (failed : String) :
    Option DbFailure → AlarmTable × Except String Unit
  | none => result
  | some (.select e) => (alarms, .error ("DB error: " ++ e))
  | some (.update e) =>
      match result with
      | (_, .ok ()) => (alarms, .error (failed ++ ": " ++ e))
      | (_, .error e) => (alarms, .error e)

/-! ## What the operations decide -/

theorem hasActiveAlarm_iff {alarms : AlarmTable} {deviceId : String} {register : UInt16} :
    hasActiveAlarm alarms deviceId register = true ↔
      ∃ alarm ∈ alarms.rows, unresolvedFor deviceId register alarm := by
  simp [hasActiveAlarm, RowTable.count_pos_iff]

theorem hasActiveAlarm_eq_false_iff {alarms : AlarmTable} {deviceId : String} {register : UInt16} :
    hasActiveAlarm alarms deviceId register = false ↔
      alarms.count (unresolvedFor deviceId register) = 0 := by
  simp [hasActiveAlarm]

theorem selectState_eq_some_iff {alarms : AlarmTable} {alarmId : ℤ} {state : AlarmState} :
    selectState alarms alarmId = some state ↔
      ∃ alarm ∈ alarms.rows, alarm.id = alarmId ∧ alarm.state = state := by
  simp [selectState, RowTable.byId_eq_some_iff, and_assoc]

theorem ackCheck_eq_ok_iff {selected : Option AlarmState} :
    ackCheck selected = .ok () ↔ selected = some .active := by
  rcases selected with _ | (_ | _ | _ | _) <;> simp [ackCheck]

theorem shelveCheck_eq_ok_iff {selected : Option AlarmState} :
    shelveCheck selected = .ok () ↔ ∃ state, selected = some state ∧ state ≠ .cleared := by
  rcases selected with _ | (_ | _ | _ | _) <;> simp [shelveCheck]

/-- Spec of `ack_alarm`: either the row was active and is updated, or nothing changes. -/
theorem ackAlarm_cases (alarms : AlarmTable) (alarmId : ℤ) (username : String)
    (comment : Option String) (now : Instant) :
    (selectState alarms alarmId = some .active ∧
      ackAlarm alarms alarmId username comment now =
        (ackUpdate alarms alarmId username (ackMessage comment) now, .ok ())) ∨
    ∃ e, ackAlarm alarms alarmId username comment now = (alarms, .error e) := by
  unfold ackAlarm
  cases hcheck : ackCheck (selectState alarms alarmId) with
  | error e => exact .inr ⟨e, rfl⟩
  | ok => exact .inl ⟨ackCheck_eq_ok_iff.mp hcheck, rfl⟩

/-- Spec of `shelve_alarm`: either the row was not cleared and is updated, or nothing changes. -/
theorem shelveAlarm_cases (alarms : AlarmTable) (alarmId : ℤ) (username : String)
    (durationMinutes : UInt32) (now : Instant) :
    (∃ state, selectState alarms alarmId = some state ∧ state ≠ .cleared ∧
      shelveAlarm alarms alarmId username durationMinutes now =
        (shelveUpdate alarms alarmId username (shelveUntil durationMinutes now), .ok ())) ∨
    ∃ e, shelveAlarm alarms alarmId username durationMinutes now = (alarms, .error e) := by
  unfold shelveAlarm
  cases hcheck : shelveCheck (selectState alarms alarmId) with
  | error e => exact .inr ⟨e, rfl⟩
  | ok =>
      obtain ⟨state, hselect, hne⟩ := shelveCheck_eq_ok_iff.mp hcheck
      exact .inl ⟨state, hselect, hne, rfl⟩

theorem attempt_some (alarms : AlarmTable) (result : AlarmTable × Except String Unit)
    (failed : String) (failure : DbFailure) :
    ∃ e, attempt alarms result failed (some failure) = (alarms, .error e) := by
  cases failure with
  | select e => exact ⟨_, rfl⟩
  | update e =>
      obtain ⟨alarms', result⟩ := result
      cases result with
      | error e' => exact ⟨e', rfl⟩
      | ok => exact ⟨_, rfl⟩

end VyuhHmi
