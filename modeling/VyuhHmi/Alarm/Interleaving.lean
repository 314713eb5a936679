import VyuhHmi.Alarm.Lifecycle
import VyuhHmi.Foundation.ThreadPool

/-!
# Concurrent alarm calls

Each SQL statement of an alarm call, and of the alarm block of a poll, is one atomic step; the
steps of any number of calls interleave.  `ack_alarm` and `shelve_alarm` check the state they have
selected and then update the row by id alone, so a row that is cleared between the two statements
is taken out of the cleared state again.  `clear_alarm` repeats its condition in the `UPDATE`.
A statement may also fail in the database, with the outcome its caller gives it.
-/

namespace VyuhHmi

open Alarm

/-- What the environment supplies to a statement: the clock, and an error if it fails. -/
structure StatementInput where
  now : Instant
  failure : Option String

/-- A call in progress, by the statement it runs next.  The instants of `ack_alarm`,
`shelve_alarm`, `clear_alarm` and `unshelve_expired` are read before their first statement. -/
inductive AlarmCall
  | ackSelect (alarmId : ℤ) (username : String) (comment : Option String) (now : Instant)
  | ackUpdate (alarmId : ℤ) (username messageUpdate : String) (now : Instant)
  | shelveSelect (alarmId : ℤ) (username : String) (until_ : Instant)
  | shelveUpdate (alarmId : ℤ) (username : String) (until_ : Instant)
  | clearUpdate (alarmId : ℤ) (now : Instant)
  | unshelveUpdate (now : Instant)
  | pollSelect (deviceId : String) (regMap : RegMap) (th : AlarmThreshold) (val : ℕ)
      (ths : List AlarmThreshold)
  | pollInsert (deviceId : String) (regMap : RegMap) (req : RaiseAlarmRequest) (now : Instant)
      (ths : List AlarmThreshold)
  | pollSelectId (deviceId : String) (regMap : RegMap) (register : UInt16)
      (ths : List AlarmThreshold)
  | pollClear (deviceId : String) (regMap : RegMap) (alarmId : ℤ) (now : Instant)
      (ths : List AlarmThreshold)
  | done (result : Except String Unit)

namespace AlarmCall

/-- `ack_alarm`, about to run its first statement. -/
def ackAlarm (alarmId : ℤ) (username : String) (comment : Option String) (now : Instant) :
    AlarmCall := ackSelect alarmId username comment now

/-- `shelve_alarm`, about to run its first statement. -/
def shelveAlarm (alarmId : ℤ) (username : String) (durationMinutes : UInt32) (now : Instant) :
    AlarmCall := shelveSelect alarmId username (shelveUntil durationMinutes now)

/-- The alarm block goes on to the next threshold whose register has been read. -/
def pollNext (deviceId : String) (regMap : RegMap) : List AlarmThreshold → AlarmCall
  | [] => done (.ok ())
  | th :: ths =>
      match regMap th.register with
      | some val => pollSelect deviceId regMap th val.toNat ths
      | none => pollNext deviceId regMap ths

/-- The alarm block of a poll, about to run its first statement. -/
def poll (deviceId : String) (regMap : RegMap) : AlarmCall :=
  pollNext deviceId regMap alarmThresholds

/-- The statement after `has_active_alarm` has answered. -/
def pollDecide (deviceId : String) (regMap : RegMap) (th : AlarmThreshold) (val : ℕ)
    (ths : List AlarmThreshold) (hasAlarm : Bool) (now : Instant) : AlarmCall :=
  match alarmToRaise deviceId th val hasAlarm with
  | some req => pollInsert deviceId regMap req now ths
  | none =>
      if hasAlarm && backToSafe th val then pollSelectId deviceId regMap th.register ths
      else pollNext deviceId regMap ths

/-- The statement has been executed: the table after it, and the rest of the call. -/
def succeed (now : Instant) (alarms : AlarmTable) : AlarmCall → AlarmTable × AlarmCall
  | ackSelect alarmId username comment now =>
      match ackCheck (selectState alarms alarmId) with
      | .error e => (alarms, done (.error e))
      | .ok () => (alarms, ackUpdate alarmId username (ackMessage comment) now)
  | ackUpdate alarmId username messageUpdate now =>
      (VyuhHmi.ackUpdate alarms alarmId username messageUpdate now, done (.ok ()))
  | shelveSelect alarmId username until_ =>
      match shelveCheck (selectState alarms alarmId) with
      | .error e => (alarms, done (.error e))
      | .ok () => (alarms, shelveUpdate alarmId username until_)
  | shelveUpdate alarmId username until_ =>
      (VyuhHmi.shelveUpdate alarms alarmId username until_, done (.ok ()))
  | clearUpdate alarmId now => (clearAlarm alarms alarmId now, done (.ok ()))
  | unshelveUpdate now => (unshelveExpired alarms now, done (.ok ()))
  | pollSelect deviceId regMap th val ths =>
      (alarms, pollDecide deviceId regMap th val ths
        (hasActiveAlarm alarms deviceId th.register) now)
  | pollInsert deviceId regMap req now ths =>
      ((raiseAlarm alarms req now).1, pollNext deviceId regMap ths)
  | pollSelectId deviceId regMap register ths =>
      match getActiveAlarmId alarms deviceId register with
      | some alarmId => (alarms, pollClear deviceId regMap alarmId now ths)
      | none => (alarms, pollNext deviceId regMap ths)
  | pollClear deviceId regMap alarmId now ths =>
      (clearAlarm alarms alarmId now, pollNext deviceId regMap ths)
  | done result => (alarms, done result)

/-- The statement has failed with a database error: the rest of the call.  The alarm block of a
poll takes a failed count for zero and goes on after every other failure. -/
def fail (now : Instant) (e : String) : AlarmCall → AlarmCall
  | ackSelect .. => done (.error ("DB error: " ++ e))
  | ackUpdate .. => done (.error ("Failed to ack alarm: " ++ e))
  | shelveSelect .. => done (.error ("DB error: " ++ e))
  | shelveUpdate .. => done (.error ("Failed to shelve alarm: " ++ e))
  | clearUpdate .. => done (.error ("Failed to clear alarm: " ++ e))
  | unshelveUpdate .. => done (.ok ())
  | pollSelect deviceId regMap th val ths => pollDecide deviceId regMap th val ths false now
  | pollInsert deviceId regMap _ _ ths => pollNext deviceId regMap ths
  | pollSelectId deviceId regMap _ ths => pollNext deviceId regMap ths
  | pollClear deviceId regMap _ _ ths => pollNext deviceId regMap ths
  | done result => done result

def isDone : AlarmCall → Bool
  | done _ => true
  | _ => false

/-- Run the next statement of a call. -/
def statement (input : StatementInput) (alarms : AlarmTable) (call : AlarmCall) :
    Option (AlarmTable × AlarmCall) :=
  if call.isDone then none
  else
    match input.failure with
    | some e => some (alarms, call.fail input.now e)
    | none => some (call.succeed input.now alarms)

/-- The row an `UPDATE ... WHERE id = ?` of `ack_alarm` or `shelve_alarm` is about to rewrite. -/
def updateTarget : AlarmCall → Option ℤ
  | ackUpdate alarmId _ _ _ => some alarmId
  | shelveUpdate alarmId _ _ => some alarmId
  | _ => none

end AlarmCall

/-- The alarms table with the calls in progress. -/
abbrev AlarmPool := ThreadPool AlarmTable AlarmCall

/-- One scheduled statement, or the start of a call. -/
abbrev AlarmPool.step (pool : AlarmPool) (action : ThreadPool.Action StatementInput AlarmCall) :
    Option AlarmPool :=
  ThreadPool.step AlarmCall.statement pool action

/-! ## An uninterrupted call is the atomic operation -/

section alone

variable (alarms : AlarmTable) (now : Instant)

theorem runAlone_ackAlarm (alarmId : ℤ) (username : String) (comment : Option String) :
    ∃ inputs, ThreadPool.runAlone AlarmCall.statement alarms
        (.ackAlarm alarmId username comment now) inputs =
      some ((ackAlarm alarms alarmId username comment now).1,
        .done (ackAlarm alarms alarmId username comment now).2) := by
  unfold AlarmCall.ackAlarm ackAlarm
  cases hcheck : ackCheck (selectState alarms alarmId) with
  | error e =>
      refine ⟨[⟨now, none⟩], ?_⟩
      simp [AlarmCall.statement, AlarmCall.isDone, AlarmCall.succeed, hcheck]
  | ok =>
      refine ⟨[⟨now, none⟩, ⟨now, none⟩], ?_⟩
      simp [AlarmCall.statement, AlarmCall.isDone, AlarmCall.succeed, hcheck]

theorem runAlone_shelveAlarm (alarmId : ℤ) (username : String) (durationMinutes : UInt32) :
    ∃ inputs, ThreadPool.runAlone AlarmCall.statement alarms
        (.shelveAlarm alarmId username durationMinutes now) inputs =
      some ((shelveAlarm alarms alarmId username durationMinutes now).1,
        .done (shelveAlarm alarms alarmId username durationMinutes now).2) := by
  unfold AlarmCall.shelveAlarm shelveAlarm
  cases hcheck : shelveCheck (selectState alarms alarmId) with
  | error e =>
      refine ⟨[⟨now, none⟩], ?_⟩
      simp [AlarmCall.statement, AlarmCall.isDone, AlarmCall.succeed, hcheck]
  | ok =>
      refine ⟨[⟨now, none⟩, ⟨now, none⟩], ?_⟩
      simp [AlarmCall.statement, AlarmCall.isDone, AlarmCall.succeed, hcheck]

/-- The statements of one threshold, run without interruption. -/
theorem runAlone_threshold (deviceId : String) (regMap : RegMap) (th : AlarmThreshold) (val : ℕ)
    (ths : List AlarmThreshold) :
    ∃ inputs, ThreadPool.runAlone AlarmCall.statement alarms
        (.pollSelect deviceId regMap th val ths) inputs =
      some (checkThreshold deviceId th val now alarms, .pollNext deviceId regMap ths) := by
  have hselect : AlarmCall.statement ⟨now, none⟩ alarms (.pollSelect deviceId regMap th val ths) =
      some (alarms, .pollDecide deviceId regMap th val ths
        (hasActiveAlarm alarms deviceId th.register) now) := by
    simp [AlarmCall.statement, AlarmCall.isDone, AlarmCall.succeed]
  rcases checkThreshold_cases deviceId th val now alarms with
    ⟨hactive, hraise, heq⟩ | ⟨req, hactive, hraise, heq⟩ | ⟨hactive, hsafe, heq⟩ |
      ⟨hactive, hsafe, heq⟩
  · refine ⟨[⟨now, none⟩], ?_⟩
    simp [hselect, AlarmCall.pollDecide, hactive, hraise, heq]
  · refine ⟨[⟨now, none⟩, ⟨now, none⟩], ?_⟩
    simp [AlarmCall.pollDecide, AlarmCall.statement, AlarmCall.isDone, AlarmCall.succeed, hactive,
      hraise, heq]
  · refine ⟨[⟨now, none⟩], ?_⟩
    simp [hselect, AlarmCall.pollDecide, alarmToRaise_of_hasAlarm, hactive, hsafe, heq]
  · have hdecide : AlarmCall.pollDecide deviceId regMap th val ths true now =
        .pollSelectId deviceId regMap th.register ths := by
      simp [AlarmCall.pollDecide, alarmToRaise_of_hasAlarm, hsafe]
    cases hid : getActiveAlarmId alarms deviceId th.register with
    | none =>
        refine ⟨[⟨now, none⟩, ⟨now, none⟩], ?_⟩
        simp [hactive, hdecide, AlarmCall.statement, AlarmCall.isDone, AlarmCall.succeed, hid, heq,
          autoClear]
    | some alarmId =>
        refine ⟨[⟨now, none⟩, ⟨now, none⟩, ⟨now, none⟩], ?_⟩
        simp [hactive, hdecide, AlarmCall.statement, AlarmCall.isDone, AlarmCall.succeed, hid, heq,
          autoClear]

/-- The statements of a poll, run without interruption, are its alarm block. -/
theorem runAlone_poll (deviceId : String) (regMap : RegMap) :
    ∃ inputs, ThreadPool.runAlone AlarmCall.statement alarms (.poll deviceId regMap) inputs =
      some (alarmMonitoring deviceId regMap now alarms, .done (.ok ())) := by
  unfold AlarmCall.poll alarmMonitoring checkThresholds
  induction alarmThresholds generalizing alarms with
  | nil => exact ⟨[], rfl⟩
  | cons th ths ih =>
      obtain ⟨rest, hrest⟩ := ih (checkReading deviceId regMap now alarms th)
      cases hread : regMap th.register with
      | none =>
          refine ⟨rest, ?_⟩
          simpa [AlarmCall.pollNext, checkReading, hread] using hrest
      | some val =>
          obtain ⟨inputs, hinputs⟩ := runAlone_threshold alarms now deviceId regMap th val.toNat ths
          refine ⟨inputs ++ rest, ?_⟩
          simp only [AlarmCall.pollNext, hread]
          rw [ThreadPool.runAlone_append, hinputs]
          simpa [checkReading, hread] using hrest

end alone

/-! ## Cleared alarms -/

/-- Every row cleared before is still there, cleared at the same instant. -/
def ClearedKept (before after : AlarmTable) : Prop :=
  ∀ alarm ∈ before.rows, alarm.state = .cleared →
    ∃ later, after.byId alarm.id = some later ∧ later.state = .cleared ∧
      later.clearedAt = alarm.clearedAt

/-- The statement is not an `UPDATE` of `ack_alarm` or `shelve_alarm` on a row that has been
cleared in the meantime. -/
def NotStale (input : StatementInput) (alarms : AlarmTable) (call : AlarmCall) : Prop :=
  input.failure = none → ∀ alarmId, call.updateTarget = some alarmId →
    selectState alarms alarmId ≠ some .cleared

theorem clearedKept_refl (alarms : AlarmTable) : ClearedKept alarms alarms :=
  fun alarm hmem hcleared ↦
  ⟨alarm, RowTable.byId_eq_some_iff.mpr ⟨hmem, rfl⟩, hcleared, rfl⟩

theorem clearedKept_trans (s t u : AlarmTable) (hst : ClearedKept s t) (htu : ClearedKept t u) :
    ClearedKept s u := by
  intro alarm hmem hcleared
  obtain ⟨mid, hmid, hmidCleared, hmidAt⟩ := hst alarm hmem hcleared
  obtain ⟨hmidMem, hmidId⟩ := RowTable.byId_eq_some_iff.mp hmid
  obtain ⟨later, hlater, hlaterCleared, hlaterAt⟩ := htu mid hmidMem hmidCleared
  exact ⟨later, hmidId ▸ hlater, hlaterCleared, hlaterAt.trans hmidAt⟩

/-- A cleared row is still selected as cleared. -/
theorem ClearedKept.selectState {before after : AlarmTable} (h : ClearedKept before after)
    {alarmId : ℤ} (hselect : selectState before alarmId = some .cleared) :
    selectState after alarmId = some .cleared := by
  obtain ⟨alarm, hmem, rfl, hcleared⟩ := selectState_eq_some_iff.mp hselect
  obtain ⟨later, hlater, hlaterCleared, -⟩ := h alarm hmem hcleared
  simp [VyuhHmi.selectState, hlater, hlaterCleared]

theorem clearedKept_of_mem {before after : AlarmTable}
    (h : ∀ alarm ∈ before.rows, alarm.state = .cleared → alarm ∈ after.rows) :
    ClearedKept before after := fun alarm hmem hcleared ↦
  ⟨alarm, RowTable.byId_eq_some_iff.mpr ⟨h alarm hmem hcleared, rfl⟩, hcleared, rfl⟩

theorem clearedKept_raise (alarms : AlarmTable) (req : RaiseAlarmRequest) (now : Instant) :
    ClearedKept alarms (raiseAlarm alarms req now).1 :=
  clearedKept_of_mem fun _ hmem _ ↦ List.mem_append_left _ hmem

/-- An update keeps the cleared rows if its condition excludes them. -/
theorem clearedKept_updateWhere {alarms : AlarmTable} {p : Alarm → Bool} {f : Alarm → Alarm}
    (hf : ∀ alarm, (f alarm).id = alarm.id)
    (hp : ∀ alarm ∈ alarms.rows, alarm.state = .cleared → p alarm = false) :
    ClearedKept alarms (alarms.updateWhere p f hf) := by
  apply clearedKept_of_mem
  intro alarm hmem hcleared
  rw [RowTable.rows_updateWhere, List.mem_map]
  exact ⟨alarm, hmem, by simp [hp alarm hmem hcleared]⟩

theorem clearedKept_clear (alarms : AlarmTable) (alarmId : ℤ) (now : Instant) :
    ClearedKept alarms (clearAlarm alarms alarmId now) := by
  apply clearedKept_updateWhere (clear_id now)
  intro alarm _ hcleared
  simp [hcleared]

theorem clearedKept_unshelve (alarms : AlarmTable) (now : Instant) :
    ClearedKept alarms (unshelveExpired alarms now) := by
  apply clearedKept_updateWhere unshelve_id
  intro alarm _ hcleared
  simp [Alarm.expired, hcleared]

/-- An `UPDATE` by id alone keeps the cleared rows exactly when its row is not cleared. -/
theorem clearedKept_updateById_iff {alarms : AlarmTable} {alarmId : ℤ} {f : Alarm → Alarm}
    (hf : ∀ alarm, (f alarm).id = alarm.id) (hstate : ∀ alarm, (f alarm).state ≠ .cleared) :
    ClearedKept alarms (alarms.updateWhere (fun alarm ↦ alarm.id == alarmId) f hf) ↔
      selectState alarms alarmId ≠ some .cleared := by
  constructor
  · intro hkept hselect
    obtain ⟨alarm, hmem, hid, hcleared⟩ := selectState_eq_some_iff.mp hselect
    obtain ⟨later, hlater, hlaterCleared, -⟩ := hkept alarm hmem hcleared
    obtain ⟨hlaterMem, hlaterId⟩ := RowTable.byId_eq_some_iff.mp hlater
    rw [RowTable.rows_updateWhere, List.mem_map] at hlaterMem
    obtain ⟨source, -, hsource⟩ := hlaterMem
    -- the row with this id went through `f`
    have hsourceId : source.id = alarmId := by
      by_cases h : source.id = alarmId
      · exact h
      · simp only [beq_iff_eq, h, if_false] at hsource
        rw [hsource, hlaterId, hid]
    rw [if_pos (by simpa using hsourceId)] at hsource
    exact hstate source (hsource ▸ hlaterCleared)
  · intro hselect
    apply clearedKept_updateWhere hf
    intro alarm hmem hcleared
    rw [beq_eq_false_iff_ne]
    intro hid
    exact hselect (selectState_eq_some_iff.mpr ⟨alarm, hmem, hid, hcleared⟩)

/-- Every statement that is not an update by id alone keeps the cleared rows. -/
theorem clearedKept_succeed {call : AlarmCall} (htarget : call.updateTarget = none) (now : Instant)
    (alarms : AlarmTable) : ClearedKept alarms (call.succeed now alarms).1 := by
  cases call with
  | ackUpdate => cases htarget
  | shelveUpdate => cases htarget
  | ackSelect alarmId username comment now =>
      simp only [AlarmCall.succeed]
      split <;> exact clearedKept_refl alarms
  | shelveSelect alarmId username until_ =>
      simp only [AlarmCall.succeed]
      split <;> exact clearedKept_refl alarms
  | pollSelectId deviceId regMap register ths =>
      simp only [AlarmCall.succeed]
      split <;> exact clearedKept_refl alarms
  | clearUpdate alarmId now => exact clearedKept_clear alarms alarmId now
  | unshelveUpdate now => exact clearedKept_unshelve alarms now
  | pollSelect deviceId regMap th val ths => exact clearedKept_refl alarms
  | pollInsert deviceId regMap req now ths => exact clearedKept_raise alarms req now
  | pollClear deviceId regMap alarmId now ths => exact clearedKept_clear alarms alarmId now
  | done result => exact clearedKept_refl alarms

/-- An update by id alone keeps the cleared rows exactly when its row is not cleared. -/
theorem clearedKept_succeed_iff {call : AlarmCall} {alarmId : ℤ}
    (htarget : call.updateTarget = some alarmId) (now : Instant) (alarms : AlarmTable) :
    ClearedKept alarms (call.succeed now alarms).1 ↔ selectState alarms alarmId ≠ some .cleared := by
  cases call with
  | ackUpdate id username messageUpdate now =>
      obtain rfl := Option.some.inj htarget
      exact clearedKept_updateById_iff (acknowledge_id username messageUpdate now) (by simp)
  | shelveUpdate id username until_ =>
      obtain rfl := Option.some.inj htarget
      exact clearedKept_updateById_iff (shelve_id username until_) (by simp)
  | _ => cases htarget

/-- A statement keeps the cleared rows exactly when it is not a stale update. -/
theorem notStale_iff_clearedKept (input : StatementInput) (alarms : AlarmTable) (call : AlarmCall) :
    NotStale input alarms call ↔ ∀ alarms' call',
      AlarmCall.statement input alarms call = some (alarms', call') → ClearedKept alarms alarms' := by
  unfold NotStale AlarmCall.statement
  cases hfail : input.failure with
  | some e =>
      constructor
      · intro _ alarms' call' h
        obtain ⟨-, hsome⟩ := Option.ite_none_left_eq_some.mp h
        obtain ⟨rfl, -⟩ := Prod.mk.inj (Option.some.inj hsome)
        exact clearedKept_refl alarms
      · intro _ hok
        cases hok
  | none =>
      cases htarget : call.updateTarget with
      | none =>
          constructor
          · intro _ alarms' call' h
            obtain ⟨-, hsome⟩ := Option.ite_none_left_eq_some.mp h
            have htable : (call.succeed input.now alarms).1 = alarms' :=
              congrArg Prod.fst (Option.some.inj hsome)
            rw [← htable]
            exact clearedKept_succeed htarget input.now alarms
          · intro _ _ alarmId hsome
            cases hsome
      | some alarmId =>
          have hrunning : call.isDone = false := by
            cases call with
            | done => cases htarget
            | _ => rfl
          have hiff := clearedKept_succeed_iff htarget input.now alarms
          simp only [hrunning, Bool.false_eq_true, if_false, Option.some.injEq, forall_const,
            forall_eq', ← hiff]
          constructor
          · intro hkept alarms' call' heq
            have htable : (call.succeed input.now alarms).1 = alarms' := congrArg Prod.fst heq
            rwa [← htable]
          · exact fun h ↦ h _ _ rfl

/-- **Cleared is final.** In a schedule of any concurrent alarm calls, every row once cleared stays
cleared with the same `cleared_at` exactly when no `UPDATE` of `ack_alarm` or `shelve_alarm` runs
on a row that is cleared by then. -/
theorem cleared_final_iff (pool : AlarmPool)
    (schedule : List (ThreadPool.Action StatementInput AlarmCall)) :
    (∀ first second, first ++ second <+: schedule → ∀ p q,
        Transition.exec AlarmPool.step pool first = some p →
        Transition.exec AlarmPool.step p second = some q → ClearedKept p.shared q.shared) ↔
      ∀ first index input, first ++ [.run index input] <+: schedule → ∀ p,
        Transition.exec AlarmPool.step pool first = some p →
        ∀ call, p.threads[index]? = some call → NotStale input p.shared call :=
  ThreadPool.shared_relates_iff clearedKept_refl clearedKept_trans notStale_iff_clearedKept pool
    schedule

/-- A temperature reading in the safe range. -/
def cooledDown : RegMap := fun register ↦ if register = 1028 then some 20 else none

/-- An operator's acknowledgement selects the active row, the next poll clears it, and the
acknowledgement updates it. -/
def staleAckSchedule : List (ThreadPool.Action StatementInput AlarmCall) :=
  [.spawn (.poll "plc-01" overheated), .run 0 ⟨0, none⟩, .run 0 ⟨0, none⟩,
    .spawn (.ackAlarm 1 "operator" none 1), .run 1 ⟨1, none⟩,
    .spawn (.poll "plc-01" cooledDown), .run 2 ⟨2, none⟩, .run 2 ⟨2, none⟩, .run 2 ⟨2, none⟩,
    .run 1 ⟨3, none⟩]

theorem staleAckSchedule_revives :
    ¬ ∀ schedule first second : List (ThreadPool.Action StatementInput AlarmCall),
      first ++ second <+: schedule → ∀ p q,
        Transition.exec AlarmPool.step ⟨.empty, []⟩ first = some p →
        Transition.exec AlarmPool.step p second = some q → ClearedKept p.shared q.shared := by
  intro h
  have hcleared : (Transition.exec AlarmPool.step ⟨.empty, []⟩ (staleAckSchedule.take 9)).map
      (fun p ↦ selectState p.shared 1) = some (some .cleared) := by decide
  have hrevived : (Transition.exec AlarmPool.step ⟨.empty, []⟩ staleAckSchedule).map
      (fun p ↦ selectState p.shared 1) = some (some .acknowledged) := by decide
  obtain ⟨p, hp, hpselect⟩ := Option.map_eq_some_iff.mp hcleared
  obtain ⟨q, hq, hqselect⟩ := Option.map_eq_some_iff.mp hrevived
  rw [← List.take_append_drop 9 staleAckSchedule, Transition.exec_append, hp] at hq
  have hkept := h staleAckSchedule (staleAckSchedule.take 9) (staleAckSchedule.drop 9) (by simp) p q
    hp hq
  have hselect := hkept.selectState hpselect
  rw [hqselect] at hselect
  cases hselect

end VyuhHmi
