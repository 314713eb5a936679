import VyuhHmi.Alarm.History

/-!
# The columns of an alarm agree

The five functions of `db.rs` that write the alarms table, called in any order with any arguments
and at any times.  Each of them writes some of the nullable columns; together they keep the state
column and those columns consistent.
-/

namespace VyuhHmi

open Alarm Evolution

variable {alarm alarm' : Alarm} {now : Instant}

/-! ## Calls -/

/-- A call of a function that writes the alarms table, with the statement that fails, if any. -/
inductive AlarmTableCall
  | raiseAlarm (req : RaiseAlarmRequest) (failed : Bool)
  | ackAlarm (alarmId : ℤ) (username : String) (comment : Option String)
      (failure : Option DbFailure)
  | shelveAlarm (alarmId : ℤ) (username : String) (durationMinutes : UInt32)
      (failure : Option DbFailure)
  | clearAlarm (alarmId : ℤ) (failure : Option String)
  | unshelveExpired (failed : Bool)

/-- What a call returns: an id, a `Result`, or nothing. -/
inductive AlarmReturn
  | raised (alarmId : Option ℤ)
  | result (result : Except String Unit)
  | unit

namespace AlarmTableCall

/-- The call, made at `now`. -/
def apply (alarms : AlarmTable) (now : Instant) : AlarmTableCall → AlarmTable × AlarmReturn
  | raiseAlarm _ true => (alarms, .raised none)
  | raiseAlarm req false =>
      let (alarms, alarmId) := VyuhHmi.raiseAlarm alarms req now
      (alarms, .raised (some alarmId))
  | ackAlarm alarmId username comment failure =>
      let (alarms, result) := attempt alarms
        (VyuhHmi.ackAlarm alarms alarmId username comment now) "Failed to ack alarm" failure
      (alarms, .result result)
  | shelveAlarm alarmId username durationMinutes failure =>
      let (alarms, result) := attempt alarms
        (VyuhHmi.shelveAlarm alarms alarmId username durationMinutes now) "Failed to shelve alarm"
        failure
      (alarms, .result result)
  | clearAlarm _ (some e) => (alarms, .result (.error ("Failed to clear alarm: " ++ e)))
  | clearAlarm alarmId none => (VyuhHmi.clearAlarm alarms alarmId now, .result (.ok ()))
  | unshelveExpired true => (alarms, .unit)
  | unshelveExpired false => (VyuhHmi.unshelveExpired alarms now, .unit)

/-- The table after the calls, each with its time, on an empty table. -/
def run (calls : List (AlarmTableCall × Instant)) : AlarmTable :=
  calls.foldl (fun alarms call ↦ (call.1.apply alarms call.2).1) .empty

theorem run_append_singleton (calls : List (AlarmTableCall × Instant)) (call : AlarmTableCall)
    (now : Instant) : run (calls ++ [(call, now)]) = (call.apply (run calls) now).1 := by
  simp [run]

/-- The row that a call names. -/
def named : AlarmTableCall → Option ℤ
  | ackAlarm alarmId .. | shelveAlarm alarmId .. | clearAlarm alarmId _ => some alarmId
  | _ => none

/-- The changes that a call may make to a row. -/
def Changes (now : Instant) : AlarmTableCall → Alarm → Alarm → Prop
  | raiseAlarm .. => fun alarm alarm' ↦ alarm' = alarm
  | ackAlarm alarmId username comment _ => (AlarmOp.ack alarmId username comment).Changes now
  | shelveAlarm alarmId username durationMinutes _ =>
      (AlarmOp.shelve alarmId username durationMinutes).Changes now
  | clearAlarm alarmId _ => fun alarm alarm' ↦ alarm' = alarm ∨
      (alarm' = alarm.clear now ∧ alarm.id = alarmId ∧ alarm.state ≠ .cleared)
  | unshelveExpired _ => AlarmOp.unshelveExpired.Changes now

/-- The rows that a call may add. -/
def Adds (now : Instant) : AlarmTableCall → Alarm → Prop
  | raiseAlarm req _ => fun alarm ↦ ∃ id, alarm = raisedAlarm req now id
  | _ => fun _ ↦ False

theorem changes_self (call : AlarmTableCall) (now : Instant) (alarm : Alarm) :
    call.Changes now alarm alarm := by
  cases call with
  | raiseAlarm => exact rfl
  | ackAlarm | shelveAlarm | clearAlarm | unshelveExpired => exact .inl rfl

end AlarmTableCall

theorem evolves_clearAlarm (alarms : AlarmTable) (alarmId : ℤ) (now : Instant)
    {Added : Alarm → Prop} :
    Evolves (fun alarm alarm' ↦ alarm' = alarm ∨
        (alarm' = alarm.clear now ∧ alarm.id = alarmId ∧ alarm.state ≠ .cleared)) Added
      alarms.rows (clearAlarm alarms alarmId now).rows := by
  apply Evolves.map
  intro alarm _
  split
  case isTrue hp =>
      obtain ⟨hid, hstate⟩ := Bool.and_eq_true_iff.mp hp
      exact .inr ⟨rfl, beq_iff_eq.mp hid, bne_iff_ne.mp hstate⟩
  case isFalse => exact .inl rfl

/-- A failing statement leaves the table as it is. -/
theorem attempt_fst (alarms : AlarmTable) (result : AlarmTable × Except String Unit)
    (failed : String) (failure : Option DbFailure) :
    (attempt alarms result failed failure).1 = alarms ∨
      (attempt alarms result failed failure).1 = result.1 := by
  cases failure with
  | none => exact .inr rfl
  | some failure =>
      obtain ⟨e, heq⟩ := attempt_some alarms result failed failure
      exact .inl (by rw [heq])

/-- **What a call does to the rows.** -/
theorem evolves_call (alarms : AlarmTable) (call : AlarmTableCall) (now : Instant) :
    Evolves (call.Changes now) (call.Adds now) alarms.rows (call.apply alarms now).1.rows := by
  have hself : Evolves (call.Changes now) (call.Adds now) alarms.rows alarms.rows :=
    .refl (call.changes_self now) _
  cases call with
  | raiseAlarm req failed =>
      cases failed with
      | true => exact hself
      | false =>
          refine Evolves.append (AlarmTableCall.changes_self (.raiseAlarm req false) now) ?_
          intro added hadded
          exact ⟨_, List.mem_singleton.mp hadded⟩
  | ackAlarm alarmId username comment failure =>
      change Evolves _ _ _ (attempt alarms (ackAlarm alarms alarmId username comment now)
        "Failed to ack alarm" failure).1.rows
      rcases attempt_fst alarms (ackAlarm alarms alarmId username comment now)
        "Failed to ack alarm" failure with heq | heq
      · rw [heq]
        exact hself
      · rw [heq]
        exact evolves_ackAlarm alarms alarmId username comment now
  | shelveAlarm alarmId username durationMinutes failure =>
      change Evolves _ _ _ (attempt alarms (shelveAlarm alarms alarmId username durationMinutes now)
        "Failed to shelve alarm" failure).1.rows
      rcases attempt_fst alarms (shelveAlarm alarms alarmId username durationMinutes now)
        "Failed to shelve alarm" failure with heq | heq
      · rw [heq]
        exact hself
      · rw [heq]
        exact evolves_shelveAlarm alarms alarmId username durationMinutes now
  | clearAlarm alarmId failure =>
      cases failure with
      | some e => exact hself
      | none => exact evolves_clearAlarm alarms alarmId now
  | unshelveExpired failed =>
      cases failed with
      | true => exact hself
      | false => exact evolves_unshelveExpired alarms now

/-! ## The columns -/

/-- The nullable columns agree with the state. -/
structure Alarm.Consistent (alarm : Alarm) : Prop where
  cleared : alarm.state = .cleared ↔ alarm.clearedAt.isSome
  unresolved : alarm.state = .active ∨ alarm.state = .acknowledged →
    alarm.shelvedUntil = none ∧ alarm.shelvedBy = none
  shelved : alarm.state = .shelved → alarm.shelvedUntil.isSome ∧ alarm.shelvedBy.isSome
  acknowledged : alarm.state = .acknowledged → alarm.ackedBy.isSome ∧ alarm.ackedAt.isSome

theorem consistent_raisedAlarm (req : RaiseAlarmRequest) (now : Instant) (id : ℤ) :
    (raisedAlarm req now id).Consistent := by
  constructor <;> simp [raisedAlarm]

theorem Alarm.Consistent.acknowledge (h : alarm.Consistent) (hactive : alarm.state = .active)
    (username messageUpdate : String) (now : Instant) :
    (alarm.acknowledge username messageUpdate now).Consistent where
  cleared := by simpa [Alarm.acknowledge, hactive] using h.cleared
  unresolved := fun _ ↦ h.unresolved (.inl hactive)
  shelved := fun hstate ↦ by cases hstate
  acknowledged := fun _ ↦ ⟨rfl, rfl⟩

theorem Alarm.Consistent.shelve (h : alarm.Consistent) (hopen : alarm.state ≠ .cleared)
    (username : String) (until_ : Instant) : (alarm.shelve username until_).Consistent where
  cleared := by simpa [Alarm.shelve, hopen] using h.cleared
  unresolved := by simp
  shelved := fun _ ↦ ⟨rfl, rfl⟩
  acknowledged := fun hstate ↦ by cases hstate

theorem consistent_clear (now : Instant) (alarm : Alarm) : (alarm.clear now).Consistent := by
  constructor <;> simp [Alarm.clear]

theorem Alarm.Consistent.unshelve (h : alarm.Consistent) (hshelved : alarm.state = .shelved) :
    alarm.unshelve.Consistent where
  cleared := by simpa [Alarm.unshelve, hshelved] using h.cleared
  unresolved := fun _ ↦ ⟨rfl, rfl⟩
  shelved := fun hstate ↦ by cases hstate
  acknowledged := fun hstate ↦ by cases hstate

theorem Alarm.Consistent.changes {call : AlarmTableCall} (hchange : call.Changes now alarm alarm')
    (h : alarm.Consistent) : alarm'.Consistent := by
  cases call with
  | raiseAlarm =>
      obtain rfl : alarm' = alarm := hchange
      exact h
  | ackAlarm =>
      rcases hchange with rfl | ⟨rfl, -, hactive⟩
      · exact h
      · exact h.acknowledge hactive _ _ now
  | shelveAlarm =>
      rcases hchange with rfl | ⟨rfl, -, hopen⟩
      · exact h
      · exact h.shelve hopen _ _
  | clearAlarm =>
      rcases hchange with rfl | ⟨rfl, -⟩
      · exact h
      · exact consistent_clear now alarm
  | unshelveExpired =>
      rcases hchange with rfl | ⟨rfl, hexpired⟩
      · exact h
      · exact h.unshelve (beq_iff_eq.mp (Bool.and_eq_true_iff.mp hexpired).1)

/-- **Column invariant.** -/
theorem consistent_run (calls : List (AlarmTableCall × Instant)) :
    ∀ alarm ∈ (AlarmTableCall.run calls).rows, alarm.Consistent := by
  induction calls using List.reverseRecOn with
  | nil => exact fun alarm hmem ↦ by cases hmem
  | append_singleton calls call ih =>
      obtain ⟨call, now⟩ := call
      rw [AlarmTableCall.run_append_singleton]
      refine (evolves_call _ call now).forall_mem ih (fun _ _ hchange h ↦ h.changes hchange) ?_
      intro alarm hadded
      cases call with
      | raiseAlarm req =>
          obtain ⟨id, rfl⟩ := hadded
          exact consistent_raisedAlarm req now id
      | ackAlarm | shelveAlarm | clearAlarm | unshelveExpired => cases hadded

/-- The columns that are written once, when the alarm is raised. -/
structure SameRaised (alarm alarm' : Alarm) : Prop where
  id : alarm'.id = alarm.id
  deviceId : alarm'.deviceId = alarm.deviceId
  register : alarm'.register = alarm.register
  label : alarm'.label = alarm.label
  priority : alarm'.priority = alarm.priority
  value : alarm'.value = alarm.value
  threshold : alarm'.threshold = alarm.threshold
  timestamp : alarm'.timestamp = alarm.timestamp

theorem SameRaised.refl (alarm : Alarm) : SameRaised alarm alarm :=
  ⟨rfl, rfl, rfl, rfl, rfl, rfl, rfl, rfl⟩

theorem SameRaised.trans {alarm'' : Alarm} (h : SameRaised alarm alarm')
    (h' : SameRaised alarm' alarm'') : SameRaised alarm alarm'' where
  id := h'.id.trans h.id
  deviceId := h'.deviceId.trans h.deviceId
  register := h'.register.trans h.register
  label := h'.label.trans h.label
  priority := h'.priority.trans h.priority
  value := h'.value.trans h.value
  threshold := h'.threshold.trans h.threshold
  timestamp := h'.timestamp.trans h.timestamp

theorem sameRaised_of_changes {call : AlarmTableCall} (h : call.Changes now alarm alarm') :
    SameRaised alarm alarm' := by
  cases call with
  | raiseAlarm =>
      obtain rfl : alarm' = alarm := h
      exact .refl _
  | ackAlarm | shelveAlarm | clearAlarm | unshelveExpired =>
      rcases h with rfl | ⟨rfl, -⟩ <;> exact ⟨rfl, rfl, rfl, rfl, rfl, rfl, rfl, rfl⟩

/-- Later calls keep every row, with the columns it was raised with. -/
theorem exists_sameRaised (calls later : List (AlarmTableCall × Instant)) :
    ∀ alarm ∈ (AlarmTableCall.run calls).rows,
      ∃ alarm' ∈ (AlarmTableCall.run (calls ++ later)).rows, SameRaised alarm alarm' := by
  induction later using List.reverseRecOn with
  | nil =>
      rw [List.append_nil]
      exact fun alarm hmem ↦ ⟨alarm, hmem, .refl alarm⟩
  | append_singleton later call ih =>
      obtain ⟨call, now⟩ := call
      intro alarm hmem
      obtain ⟨alarm', hmem', hsame⟩ := ih alarm hmem
      rw [← List.append_assoc, AlarmTableCall.run_append_singleton]
      obtain ⟨alarm'', hmem'', hchange⟩ := (evolves_call _ call now).exists_successor hmem'
      exact ⟨alarm'', hmem'', hsame.trans (sameRaised_of_changes hchange)⟩

/-! ## Errors and frames -/

theorem attempt_of_error {alarms : AlarmTable} {result : AlarmTable × Except String Unit}
    {failed : String} {failure : Option DbFailure}
    (hresult : ∀ e, result.2 = .error e → result.1 = alarms) {e : String}
    (h : (attempt alarms result failed failure).2 = .error e) :
    (attempt alarms result failed failure).1 = alarms := by
  cases failure with
  | none => exact hresult e h
  | some failure =>
      obtain ⟨e', heq⟩ := attempt_some alarms result failed failure
      rw [heq]

/-- **Errors.** A call that returns an error leaves the table as it is. -/
theorem table_of_error {alarms : AlarmTable} {call : AlarmTableCall} {e : String}
    (h : (call.apply alarms now).2 = .result (.error e)) : (call.apply alarms now).1 = alarms := by
  cases call with
  | raiseAlarm req failed =>
      cases failed with
      | true => rfl
      | false => cases h
  | ackAlarm alarmId username comment failure =>
      refine attempt_of_error (fun e' he' ↦ ?_) (AlarmReturn.result.inj h)
      rcases ackAlarm_cases alarms alarmId username comment now with ⟨-, heq⟩ | ⟨_, heq⟩
      · rw [heq] at he'
        cases he'
      · rw [heq]
  | shelveAlarm alarmId username durationMinutes failure =>
      refine attempt_of_error (fun e' he' ↦ ?_) (AlarmReturn.result.inj h)
      rcases shelveAlarm_cases alarms alarmId username durationMinutes now with
        ⟨_, -, -, heq⟩ | ⟨_, heq⟩
      · rw [heq] at he'
        cases he'
      · rw [heq]
  | clearAlarm alarmId failure =>
      cases failure with
      | some _ => rfl
      | none => cases h
  | unshelveExpired failed => cases failed <;> cases h

/-- The rows correspond one to one, and only the one of this id may differ. -/
def ChangesOnly (alarmId : ℤ) (alarms alarms' : AlarmTable) : Prop :=
  List.Forall₂ (fun alarm alarm' ↦ alarm'.id = alarm.id ∧ (alarm.id ≠ alarmId → alarm' = alarm))
    alarms.rows alarms'.rows

/-- **Frame.** A call that names a row changes no other and adds none. -/
theorem changesOnly_apply {call : AlarmTableCall} {alarmId : ℤ} (hnamed : call.named = some alarmId)
    (alarms : AlarmTable) (now : Instant) :
    ChangesOnly alarmId alarms (call.apply alarms now).1 := by
  have hevolves := evolves_call alarms call now
  cases call with
  | raiseAlarm | unshelveExpired => cases hnamed
  | ackAlarm | shelveAlarm | clearAlarm =>
      obtain rfl := Option.some.inj hnamed
      refine hevolves.forall₂.imp fun alarm alarm' hchange ↦ ?_
      rcases hchange with rfl | ⟨rfl, hid, -⟩
      · exact ⟨rfl, fun _ ↦ rfl⟩
      · exact ⟨rfl, fun hne ↦ absurd hid hne⟩

/-- **Consistency of the alarms table.** After any calls from an empty table every row is
consistent; a further call that returns an error changes nothing, one that names a row changes no
other, and whatever is called later, every row keeps the columns it was raised with. -/
theorem alarms_consistent (calls : List (AlarmTableCall × Instant)) :
    (∀ alarm ∈ (AlarmTableCall.run calls).rows, alarm.Consistent) ∧
      (∀ (call : AlarmTableCall) (now : Instant),
        (∀ e, (call.apply (AlarmTableCall.run calls) now).2 = .result (.error e) →
          (call.apply (AlarmTableCall.run calls) now).1 = AlarmTableCall.run calls) ∧
        ∀ alarmId, call.named = some alarmId →
          ChangesOnly alarmId (AlarmTableCall.run calls)
            (call.apply (AlarmTableCall.run calls) now).1) ∧
      ∀ later, ∀ alarm ∈ (AlarmTableCall.run calls).rows,
        ∃ alarm' ∈ (AlarmTableCall.run (calls ++ later)).rows, SameRaised alarm alarm' :=
  ⟨consistent_run calls,
    fun _ now ↦ ⟨fun _ ↦ table_of_error, fun _ hnamed ↦ changesOnly_apply hnamed _ now⟩,
    exists_sameRaised calls⟩

end VyuhHmi
