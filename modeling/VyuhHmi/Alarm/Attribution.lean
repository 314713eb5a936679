import VyuhHmi.Alarm.History

/-!
# Who acknowledged an alarm

`ack_alarm` looks at the state column alone.  Un-shelving turns an acknowledged row active again
with `acked_by` still set, and the next acknowledgement overwrites the first.  Auto-clear closes
the latest unresolved row of a device register, acknowledged or not.  The results below say in
which runs an attribution is kept, and in which runs every cleared row has one.
-/

namespace VyuhHmi

open Alarm Evolution

variable {alarm alarm' : Alarm} {deviceId : String} {register : UInt16} {now : Instant}

/-! ## The attribution of an acknowledgement -/

/-- `acked_by` and `acked_at` are set. -/
def Alarm.Attributed (alarm : Alarm) : Prop := alarm.ackedBy.isSome ∧ alarm.ackedAt.isSome

/-- The row has kept its acknowledgement, if it had one. -/
def SameAttribution (alarm alarm' : Alarm) : Prop :=
  alarm.Attributed → alarm'.ackedBy = alarm.ackedBy ∧ alarm'.ackedAt = alarm.ackedAt

theorem SameAttribution.refl (alarm : Alarm) : SameAttribution alarm alarm := fun _ ↦ ⟨rfl, rfl⟩

theorem SameAttribution.trans {alarm'' : Alarm} (h : SameAttribution alarm alarm')
    (h' : SameAttribution alarm' alarm'') : SameAttribution alarm alarm'' := by
  intro hattributed
  obtain ⟨hby, hat⟩ := h hattributed
  obtain ⟨hby', hat'⟩ := h' (by rwa [Alarm.Attributed, hby, hat])
  exact ⟨hby'.trans hby, hat'.trans hat⟩

/-- Every row of the first store is in the second with the acknowledgement it had. -/
def KeepsAttribution (store store' : AlarmStore) : Prop :=
  ∀ alarm ∈ store.alarms.rows, ∃ alarm' ∈ store'.alarms.rows,
    alarm'.id = alarm.id ∧ SameAttribution alarm alarm'

/-- An acknowledgement finds no active row that another acknowledgement is recorded on. -/
def AcksFirst (store : AlarmStore) (op : AlarmOp) : Prop :=
  ∀ alarmId username comment, op = .ack alarmId username comment →
    ∀ alarm ∈ store.alarms.rows, alarm.id = alarmId → alarm.state = .active → alarm.Attributed →
      alarm.ackedBy = some username ∧ alarm.ackedAt = some store.now

/-- Only an acknowledgement writes the attribution of a row. -/
theorem sameAttribution_of_changes {op : AlarmOp} {store : AlarmStore}
    (hmem : alarm ∈ store.alarms.rows) (h : op.Changes store.now alarm alarm')
    (hfirst : AcksFirst store op) : SameAttribution alarm alarm' := by
  cases op with
  | ack alarmId username comment =>
      rcases h with rfl | ⟨rfl, hid, hactive⟩
      · exact .refl _
      · intro hattributed
        obtain ⟨hby, hat⟩ := hfirst _ _ _ rfl alarm hmem hid hactive hattributed
        exact ⟨hby.symm, hat.symm⟩
  | poll | shelve | unshelveExpired =>
      rcases h with rfl | ⟨rfl, -⟩ <;> exact fun _ ↦ ⟨rfl, rfl⟩
  | advance =>
      obtain rfl : alarm' = alarm := h
      exact .refl _

theorem keepsAttribution_apply_iff (store : AlarmStore) (op : AlarmOp) :
    AcksFirst store op ↔ KeepsAttribution store (store.apply op) := by
  constructor
  · intro hfirst alarm hmem
    obtain ⟨alarm', hmem', hchange⟩ := (evolves_apply store op).exists_successor hmem
    exact ⟨alarm', hmem', (sameSource_of_changes hchange).id,
      sameAttribution_of_changes hmem hchange hfirst⟩
  · rintro hkeeps alarmId username comment rfl alarm hmem hid hactive hattributed
    obtain ⟨alarm', hmem', hid', hsame⟩ := hkeeps alarm hmem
    obtain ⟨hby, hat⟩ := hsame hattributed
    -- the row of this id is the acknowledged one
    have hacked : alarm.acknowledge username (ackMessage comment) store.now ∈
        (store.apply (.ack alarmId username comment)).alarms.rows := by
      have hselect : selectState store.alarms alarmId = some .active :=
        selectState_eq_some_iff.mpr ⟨alarm, hmem, hid, hactive⟩
      simp only [AlarmStore.apply, ackAlarm, hselect, ackCheck]
      exact List.mem_map.mpr ⟨alarm, hmem, if_pos (beq_iff_eq.mpr hid)⟩
    obtain rfl := RowTable.eq_of_rowid_eq hmem' hacked hid'
    exact ⟨hby.symm, hat.symm⟩

theorem KeepsAttribution.trans {first second third : AlarmStore}
    (h : KeepsAttribution first second) (h' : KeepsAttribution second third) :
    KeepsAttribution first third := by
  intro alarm hmem
  obtain ⟨alarm', hmem', hid, hsame⟩ := h alarm hmem
  obtain ⟨alarm'', hmem'', hid', hsame'⟩ := h' alarm' hmem'
  exact ⟨alarm'', hmem'', hid'.trans hid, hsame.trans hsame'⟩

/-- **Attribution over a run.** Between any two tables of a run every acknowledgement is kept,
exactly when no acknowledgement of the run finds its row active and attributed to someone else or
to another time. -/
theorem run_keepsAttribution_iff (start : Instant) (ops : List AlarmOp) :
    (∀ first second, first ++ second <+: ops →
        KeepsAttribution (AlarmStore.run start first) (AlarmStore.run start (first ++ second))) ↔
      ∀ first op, first ++ [op] <+: ops → AcksFirst (AlarmStore.run start first) op :=
  Transition.foldl_relates_iff (fun _ alarm hmem ↦ ⟨alarm, hmem, rfl, .refl alarm⟩)
    (fun _ _ _ h h' ↦ h.trans h') keepsAttribution_apply_iff (AlarmStore.init start) ops

/-- Raise, acknowledge, shelve for ten minutes, un-shelve, acknowledge again. -/
def reacknowledgedRun : List AlarmOp :=
  [.poll "plc-01" overheated, .ack 1 "first" none, .shelve 1 "first" 10,
    .advance (11 * nanosPerMinute), .unshelveExpired, .ack 1 "second" none]

theorem reacknowledgedRun_loses_attribution :
    ¬ ∀ (start : Instant) (ops first second : List AlarmOp), first ++ second <+: ops →
        KeepsAttribution (AlarmStore.run start first) (AlarmStore.run start (first ++ second)) := by
  intro h
  have hkeeps := h 0 reacknowledgedRun (reacknowledgedRun.take 5) (reacknowledgedRun.drop 5)
    (List.prefix_refl _)
  revert hkeeps
  unfold KeepsAttribution SameAttribution Alarm.Attributed
  decide

/-! ## Cleared alarms were acknowledged -/

/-- Every cleared row has `acked_by` set. -/
def ClearedAcked (alarms : AlarmTable) : Prop :=
  ∀ alarm ∈ alarms.rows, alarm.state = .cleared → alarm.ackedBy.isSome

/-- For each register of the list that the poll reads back in the safe range, the latest unresolved
row of the device register has been acknowledged. -/
def ClosesAcked (deviceId : String) (regMap : RegMap) (ths : List AlarmThreshold)
    (alarms : AlarmTable) : Prop :=
  ∀ th ∈ ths, ∀ val, regMap th.register = some val → backToSafe th val.toNat →
    ∀ alarm, alarms.latest (unresolvedFor deviceId th.register) = some alarm →
      alarm.ackedBy.isSome

theorem hasActiveAlarm_of_latest {alarms : AlarmTable}
    (h : alarms.latest (unresolvedFor deviceId register) = some alarm) :
    hasActiveAlarm alarms deviceId register = true :=
  hasActiveAlarm_iff.mpr ⟨alarm, RowTable.latest_mem h⟩

/-- Raising and clearing for one device register leave the latest unresolved row of the others
alone. -/
theorem latest_checkReading {th : AlarmThreshold} (hne : th.register ≠ register) (regMap : RegMap)
    (now : Instant) (alarms : AlarmTable) (deviceId' : String) :
    (checkReading deviceId' regMap now alarms th).latest (unresolvedFor deviceId register) =
      alarms.latest (unresolvedFor deviceId register) := by
  have hother (alarm : Alarm) (h : alarm.register = th.register) :
      unresolvedFor deviceId register alarm = false := by
    simp [unresolvedFor, Alarm.isFor, h, hne]
  unfold checkReading
  cases regMap th.register with
  | none => rfl
  | some val =>
      dsimp only
      rcases checkThreshold_cases deviceId' th val.toNat now alarms with
        ⟨-, -, heq⟩ | ⟨req, -, hreq, heq⟩ | ⟨-, -, heq⟩ | ⟨-, -, heq⟩
      · rw [heq]
      · rw [heq]
        exact RowTable.latest_insert_of_not _ (raisedAlarm_id req now)
          (hother _ (alarmToRaise_fields hreq).2)
      · rw [heq]
      · rw [heq]
        unfold autoClear
        split
        case h_1 alarmId hactive =>
            obtain ⟨row, hlatest, hrowid⟩ := Option.map_eq_some_iff.mp hactive
            obtain ⟨hrow, hfor⟩ := RowTable.latest_mem hlatest
            have hregister := (isFor_iff.mp (unresolvedFor_iff.mp hfor).1).2
            apply RowTable.latest_updateWhere_of_not
            intro alarm hmem hp
            have hsame : row = alarm := RowTable.eq_of_rowid_eq hrow hmem (by simp_all)
            subst hsame
            exact ⟨hother row hregister, hother (row.clear now) hregister⟩
        case h_2 => rfl

/-- Auto-clear keeps the cleared rows acknowledged exactly when the row it closes is. -/
theorem clearedAcked_autoClear_iff {alarms : AlarmTable} (h : ClearedAcked alarms) :
    ClearedAcked (autoClear alarms deviceId register now) ↔
      ∀ alarm, alarms.latest (unresolvedFor deviceId register) = some alarm →
        alarm.ackedBy.isSome := by
  constructor
  · intro hcleared alarm hlatest
    obtain ⟨hmem, hfor⟩ := RowTable.latest_mem hlatest
    have hopen : alarm.state ≠ .cleared := by
      rintro hstate
      simp [unresolvedFor, Alarm.unresolved, hstate] at hfor
    apply hcleared (alarm.clear now) _ rfl
    simp only [autoClear, getActiveAlarmId, hlatest, Option.map_some]
    exact List.mem_map.mpr ⟨alarm, hmem, if_pos (by simpa using hopen)⟩
  · intro hacked
    unfold autoClear
    split
    case h_1 alarmId hactive =>
        obtain ⟨row, hlatest, hrowid⟩ := Option.map_eq_some_iff.mp hactive
        intro alarm' hmem' hstate
        obtain ⟨alarm, hmem, rfl⟩ := List.mem_map.mp hmem'
        split at hstate
        case isTrue hp =>
            have hsame : row = alarm :=
              RowTable.eq_of_rowid_eq (RowTable.latest_mem hlatest).1 hmem (by simp_all)
            subst hsame
            rw [if_pos hp]
            exact hacked row hlatest
        case isFalse hp =>
            rw [if_neg hp]
            exact h alarm hmem hstate
    case h_2 => exact h

theorem clearedAcked_raise {alarms : AlarmTable} (h : ClearedAcked alarms)
    (req : RaiseAlarmRequest) : ClearedAcked (raiseAlarm alarms req now).1 := by
  intro alarm hmem hstate
  rcases List.mem_append.mp hmem with hmem | hmem
  · exact h alarm hmem hstate
  · obtain rfl := List.mem_singleton.mp hmem
    cases hstate

theorem clearedAcked_checkReading_iff {alarms : AlarmTable} (h : ClearedAcked alarms)
    (regMap : RegMap) (th : AlarmThreshold) :
    ClearedAcked (checkReading deviceId regMap now alarms th) ↔
      ClosesAcked deviceId regMap [th] alarms := by
  unfold checkReading ClosesAcked
  simp only [List.mem_singleton, forall_eq]
  cases regMap th.register with
  | none => simpa using h
  | some val =>
      simp only [Option.some.injEq, forall_eq']
      rcases checkThreshold_cases deviceId th val.toNat now alarms with
        ⟨hactive, -, heq⟩ | ⟨req, hactive, -, heq⟩ | ⟨-, hsafe, heq⟩ | ⟨-, hsafe, heq⟩
      · rw [heq]
        refine iff_of_true h fun _ alarm hlatest ↦ ?_
        rw [hasActiveAlarm_of_latest hlatest] at hactive
        cases hactive
      · rw [heq]
        refine iff_of_true (clearedAcked_raise h req) fun _ alarm hlatest ↦ ?_
        rw [hasActiveAlarm_of_latest hlatest] at hactive
        cases hactive
      · rw [heq, hsafe]
        exact iff_of_true h fun hsafe ↦ by cases hsafe
      · rw [heq, hsafe, clearedAcked_autoClear_iff h]
        simp

/-- What is cleared without an acknowledgement stays so for the rest of the poll. -/
theorem clearedAcked_of_checkThresholds {regMap : RegMap} {ths : List AlarmThreshold}
    {alarms : AlarmTable} (h : ClearedAcked (checkThresholds deviceId regMap now ths alarms)) :
    ClearedAcked alarms := by
  induction ths generalizing alarms with
  | nil => exact h
  | cons th ths ih =>
      have hnext : ClearedAcked (checkReading deviceId regMap now alarms th) := ih h
      intro alarm hmem hstate
      obtain ⟨alarm', hmem', hchange⟩ := (evolves_checkReading alarms).exists_successor hmem
      rcases hchange with rfl | ⟨rfl, -⟩
      · exact hnext alarm' hmem' hstate
      · exact hnext (alarm.clear now) hmem' rfl

theorem clearedAcked_checkThresholds_iff {regMap : RegMap} {ths : List AlarmThreshold}
    (hnodup : (ths.map AlarmThreshold.register).Nodup) {alarms : AlarmTable}
    (h : ClearedAcked alarms) :
    ClearedAcked (checkThresholds deviceId regMap now ths alarms) ↔
      ClosesAcked deviceId regMap ths alarms := by
  induction ths generalizing alarms with
  | nil => exact iff_of_true h fun th hmem ↦ by cases hmem
  | cons th ths ih =>
      rw [List.map_cons, List.nodup_cons] at hnodup
      -- the later thresholds find the rows of their own registers as they were
      have hlater : ClosesAcked deviceId regMap ths (checkReading deviceId regMap now alarms th) ↔
          ClosesAcked deviceId regMap ths alarms := by
        unfold ClosesAcked
        refine forall₂_congr fun th' hmem ↦ ?_
        have hne : th.register ≠ th'.register := fun heq ↦
          hnodup.1 (heq ▸ List.mem_map_of_mem hmem)
        rw [latest_checkReading hne]
      have hsplit : ClosesAcked deviceId regMap (th :: ths) alarms ↔
          ClosesAcked deviceId regMap [th] alarms ∧ ClosesAcked deviceId regMap ths alarms := by
        unfold ClosesAcked
        rw [List.forall_mem_cons, List.forall_mem_singleton]
      rw [hsplit, ← @clearedAcked_checkReading_iff _ now _ h, ← hlater]
      constructor
      · intro hall
        have hnext : ClearedAcked (checkReading deviceId regMap now alarms th) :=
          clearedAcked_of_checkThresholds hall
        exact ⟨hnext, (ih hnodup.2 hnext).mp hall⟩
      · rintro ⟨hnext, hrest⟩
        exact (ih hnodup.2 hnext).mpr hrest

/-- A poll closes acknowledged alarms only. -/
def PollClosesAcked (store : AlarmStore) (op : AlarmOp) : Prop :=
  ∀ deviceId regMap, op = .poll deviceId regMap →
    ClosesAcked deviceId regMap alarmThresholds store.alarms

/-- Acknowledging, shelving and un-shelving leave no row cleared that was not. -/
theorem clearedAcked_of_changes {op : AlarmOp} (hop : ∀ deviceId regMap, op ≠ .poll deviceId regMap)
    (h : op.Changes now alarm alarm') (hacked : alarm.state = .cleared → alarm.ackedBy.isSome) :
    alarm'.state = .cleared → alarm'.ackedBy.isSome := by
  cases op with
  | poll deviceId regMap => exact absurd rfl (hop deviceId regMap)
  | ack | shelve | unshelveExpired =>
      rcases h with rfl | ⟨rfl, -⟩
      · exact hacked
      · exact fun hstate ↦ by cases hstate
  | advance =>
      obtain rfl : alarm' = alarm := h
      exact hacked

theorem clearedAcked_apply_iff (store : AlarmStore) (op : AlarmOp) (h : ClearedAcked store.alarms) :
    ClearedAcked (store.apply op).alarms ↔ PollClosesAcked store op := by
  cases op with
  | poll deviceId regMap =>
      have hpoll : ClearedAcked (alarmMonitoring deviceId regMap store.now store.alarms) ↔
          ClosesAcked deviceId regMap alarmThresholds store.alarms :=
        clearedAcked_checkThresholds_iff (by decide) h
      simpa [PollClosesAcked, AlarmStore.apply] using hpoll
  | ack | shelve | unshelveExpired | advance =>
      refine iff_of_true ?_ fun deviceId regMap hop ↦ by cases hop
      exact (evolves_apply store _).forall_mem h
        (fun _ _ ↦ clearedAcked_of_changes fun _ _ hop ↦ by cases hop)
        fun _ hadded ↦ by cases hadded

/-- **Cleared alarms over a run.** Every cleared row of every table of a run has been acknowledged,
exactly when at each poll of the run, for each register read back in the safe range, the latest
unresolved row of the device register has been. -/
theorem run_clearedAcked_iff (start : Instant) (ops : List AlarmOp) :
    (∀ before, before <+: ops → ClearedAcked (AlarmStore.run start before).alarms) ↔
      ∀ before op, before ++ [op] <+: ops → PollClosesAcked (AlarmStore.run start before) op :=
  Transition.foldl_always_iff (fun _ hmem ↦ by cases hmem) clearedAcked_apply_iff ops

/-- A temperature reading in the safe range. -/
def cooledUnattended : RegMap := fun register ↦ if register = 1028 then some 20 else none

/-- An alarm is raised and the temperature falls again before anyone has acknowledged it. -/
def unattendedRun : List AlarmOp := [.poll "plc-01" overheated, .poll "plc-01" cooledUnattended]

theorem unattendedRun_clears_unacknowledged :
    ¬ ∀ (start : Instant) (ops : List AlarmOp), ClearedAcked (AlarmStore.run start ops).alarms := by
  intro h
  have hcleared := h 0 unattendedRun
  revert hcleared
  unfold ClearedAcked
  decide

end VyuhHmi
