import VyuhHmi.Alarm.Lifecycle
import VyuhHmi.Foundation.Evolution

/-!
# What an operation does to the rows

Every operation on the alarm store leaves every row at its place and says how it may change it; a
poll may add rows.  The changes are stated once per operation, and the runs of the store inherit
what they have in common.
-/

namespace VyuhHmi

open Alarm Evolution

variable {alarm alarm' : Alarm}

/-! ## Polls -/

/-- A poll of one device leaves a row alone or clears it; it clears unresolved rows of the device,
on a reading of their register that is back in the safe range. -/
def PollChange (deviceId : String) (regMap : RegMap) (now : Instant) (ths : List AlarmThreshold)
    (alarm alarm' : Alarm) : Prop :=
  alarm' = alarm ∨ (alarm' = alarm.clear now ∧ alarm.unresolved ∧ alarm.deviceId = deviceId ∧
    ∃ th ∈ ths, th.register = alarm.register ∧ ∃ val, regMap th.register = some val ∧
      backToSafe th val.toNat)

/-- A poll of one device adds active rows of the device and of registers with a threshold. -/
def PollAdded (deviceId : String) (ths : List AlarmThreshold) (alarm : Alarm) : Prop :=
  alarm.state = .active ∧ alarm.deviceId = deviceId ∧
    ∃ th ∈ ths, th.register = alarm.register ∧ (th.critHigh.isSome → alarm.priority = .critical)

variable {deviceId : String} {regMap : RegMap} {now : Instant} {ths : List AlarmThreshold}
  {th : AlarmThreshold}

theorem PollChange.isFor_eq (h : PollChange deviceId regMap now ths alarm alarm')
    (deviceId' : String) (register : UInt16) :
    alarm'.isFor deviceId' register = alarm.isFor deviceId' register := by
  rcases h with rfl | ⟨rfl, -⟩ <;> rfl

theorem alarmToRaise_priority {val : ℕ} {hasAlarm : Bool} {req : RaiseAlarmRequest}
    (h : alarmToRaise deviceId th val hasAlarm = some req) (hcrit : th.critHigh.isSome) :
    req.priority = .critical := by
  obtain ⟨crit, hcrit⟩ := Option.isSome_iff_exists.mp hcrit
  simp only [alarmToRaise, hcrit] at h
  split at h
  case isTrue =>
      cases h
      rfl
  case isFalse => cases h

theorem evolves_autoClear (alarms : AlarmTable) (deviceId : String) (register : UInt16)
    (now : Instant) {Added : Alarm → Prop} :
    Evolves (fun alarm alarm' ↦ alarm' = alarm ∨
        (alarm' = alarm.clear now ∧ unresolvedFor deviceId register alarm)) Added
      alarms.rows (autoClear alarms deviceId register now).rows := by
  unfold autoClear
  split
  case h_1 alarmId hactive =>
      obtain ⟨row, hlatest, hrowid⟩ := Option.map_eq_some_iff.mp hactive
      obtain ⟨hrow, hfor⟩ := RowTable.latest_mem hlatest
      apply Evolves.map
      intro alarm hmem
      split
      case isTrue hp =>
          have hid : alarm.id = alarmId := by simpa using (Bool.and_eq_true_iff.mp hp).1
          have hsame : row = alarm := RowTable.eq_of_rowid_eq hrow hmem (hrowid.trans hid.symm)
          subst hsame
          exact .inr ⟨rfl, hfor⟩
      case isFalse => exact .inl rfl
  case h_2 => exact .refl (fun _ ↦ .inl rfl) _

theorem evolves_checkThreshold (alarms : AlarmTable) {val : UInt16}
    (hread : regMap th.register = some val) :
    Evolves (PollChange deviceId regMap now [th]) (PollAdded deviceId [th]) alarms.rows
      (checkThreshold deviceId th val.toNat now alarms).rows := by
  have hself (alarm : Alarm) : PollChange deviceId regMap now [th] alarm alarm := .inl rfl
  rcases checkThreshold_cases deviceId th val.toNat now alarms with
    ⟨-, -, heq⟩ | ⟨req, -, hreq, heq⟩ | ⟨-, -, heq⟩ | ⟨-, hsafe, heq⟩
  · rw [heq]
    exact .refl hself _
  · rw [heq]
    obtain ⟨hdevice, hregister⟩ := alarmToRaise_fields hreq
    apply Evolves.append hself
    intro added hadded
    obtain rfl := List.mem_singleton.mp hadded
    exact ⟨rfl, hdevice, th, List.mem_singleton_self th, hregister.symm,
      alarmToRaise_priority hreq⟩
  · rw [heq]
    exact .refl hself _
  · rw [heq]
    refine (evolves_autoClear alarms deviceId th.register now).mono (fun alarm alarm' h ↦ ?_)
      fun _ h ↦ h
    rcases h with rfl | ⟨rfl, hfor⟩
    · exact .inl rfl
    · rw [unresolvedFor_iff, isFor_iff] at hfor
      exact .inr ⟨rfl, hfor.2, hfor.1.1, th, List.mem_singleton_self th, hfor.1.2.symm, val, hread,
        hsafe⟩

theorem evolves_checkReading (alarms : AlarmTable) :
    Evolves (PollChange deviceId regMap now [th]) (PollAdded deviceId [th]) alarms.rows
      (checkReading deviceId regMap now alarms th).rows := by
  unfold checkReading
  cases hread : regMap th.register with
  | none => exact .refl (fun _ ↦ .inl rfl) _
  | some val => exact evolves_checkThreshold alarms hread

theorem PollChange.mono {ths' : List AlarmThreshold} (hsub : ths ⊆ ths')
    (h : PollChange deviceId regMap now ths alarm alarm') :
    PollChange deviceId regMap now ths' alarm alarm' := by
  rcases h with rfl | ⟨heq, hunresolved, hdevice, th, hmem, hrest⟩
  · exact .inl rfl
  · exact .inr ⟨heq, hunresolved, hdevice, th, hsub hmem, hrest⟩

theorem PollAdded.mono {ths' : List AlarmThreshold} (hsub : ths ⊆ ths')
    (h : PollAdded deviceId ths alarm) : PollAdded deviceId ths' alarm := by
  obtain ⟨hactive, hdevice, th, hmem, hrest⟩ := h
  exact ⟨hactive, hdevice, th, hsub hmem, hrest⟩

/-- A row that has been cleared is not cleared again. -/
theorem PollChange.trans {ths' : List AlarmThreshold} {alarm'' : Alarm}
    (h : PollChange deviceId regMap now ths alarm alarm')
    (h' : PollChange deviceId regMap now ths' alarm' alarm'') :
    PollChange deviceId regMap now ths alarm alarm'' ∨
      PollChange deviceId regMap now ths' alarm alarm'' := by
  rcases h with rfl | ⟨rfl, hrest⟩
  · exact .inr h'
  · rcases h' with rfl | ⟨-, hunresolved, -⟩
    · exact .inl (.inr ⟨rfl, hrest⟩)
    · simp [Alarm.unresolved] at hunresolved

/-- The thresholds of distinct registers one after the other: what one of them adds, the later ones
leave alone. -/
theorem evolves_checkThresholds (hnodup : (ths.map AlarmThreshold.register).Nodup)
    (alarms : AlarmTable) :
    Evolves (PollChange deviceId regMap now ths) (PollAdded deviceId ths) alarms.rows
      (checkThresholds deviceId regMap now ths alarms).rows := by
  induction ths generalizing alarms with
  | nil => exact .refl (fun _ ↦ .inl rfl) _
  | cons th ths ih =>
      rw [List.map_cons, List.nodup_cons] at hnodup
      have hhead : [th] ⊆ th :: ths := by simp
      have htail : ths ⊆ th :: ths := List.subset_cons_self th ths
      refine (evolves_checkReading alarms).trans (ih hnodup.2 _) ?_ ?_ fun _ h ↦ h.mono htail
      · intro a b c hab hbc
        rcases hab.trans hbc with h | h
        · exact h.mono hhead
        · exact h.mono htail
      · intro a b hadded hab
        rcases hab with rfl | ⟨-, -, -, th', hmem, hregister, -⟩
        · exact hadded.mono hhead
        · -- a later threshold of the same register would be a duplicate
          obtain ⟨-, -, th'', hmem'', hregister'', -⟩ := hadded
          obtain rfl := List.mem_singleton.mp hmem''
          have hsame : th'.register = th''.register := hregister.trans hregister''.symm
          exact absurd (hsame ▸ List.mem_map_of_mem hmem) hnodup.1

/-- **Polls.** -/
theorem evolves_alarmMonitoring (alarms : AlarmTable) :
    Evolves (PollChange deviceId regMap now alarmThresholds) (PollAdded deviceId alarmThresholds)
      alarms.rows (alarmMonitoring deviceId regMap now alarms).rows :=
  evolves_checkThresholds (by decide) alarms

/-! ## All operations -/

/-- The changes that an operation may make to a row. -/
def AlarmOp.Changes (now : Instant) : AlarmOp → Alarm → Alarm → Prop
  | .poll deviceId regMap => PollChange deviceId regMap now alarmThresholds
  | .ack alarmId username comment => fun alarm alarm' ↦ alarm' = alarm ∨
      (alarm' = alarm.acknowledge username (ackMessage comment) now ∧ alarm.id = alarmId ∧
        alarm.state = .active)
  | .shelve alarmId username durationMinutes => fun alarm alarm' ↦ alarm' = alarm ∨
      (alarm' = alarm.shelve username (shelveUntil durationMinutes now) ∧ alarm.id = alarmId ∧
        alarm.state ≠ .cleared)
  | .unshelveExpired => fun alarm alarm' ↦ alarm' = alarm ∨
      (alarm' = alarm.unshelve ∧ alarm.expired now)
  | .advance _ => fun alarm alarm' ↦ alarm' = alarm

/-- The rows that an operation may add. -/
def AlarmOp.Adds : AlarmOp → Alarm → Prop
  | .poll deviceId _ => PollAdded deviceId alarmThresholds
  | _ => fun _ ↦ False

theorem evolves_ackAlarm (alarms : AlarmTable) (alarmId : ℤ) (username : String)
    (comment : Option String) (now : Instant) {Added : Alarm → Prop} :
    Evolves ((AlarmOp.ack alarmId username comment).Changes now) Added alarms.rows
      (ackAlarm alarms alarmId username comment now).1.rows := by
  rcases ackAlarm_cases alarms alarmId username comment now with ⟨hactive, heq⟩ | ⟨e, heq⟩
  · rw [heq]
    obtain ⟨row, hrow, hrowid, hstate⟩ := selectState_eq_some_iff.mp hactive
    apply Evolves.map
    intro alarm hmem
    split
    case isTrue hid =>
        have hid' : alarm.id = alarmId := beq_iff_eq.mp hid
        have hsame : row = alarm := RowTable.eq_of_rowid_eq hrow hmem (hrowid.trans hid'.symm)
        subst hsame
        exact .inr ⟨rfl, hid', hstate⟩
    case isFalse => exact .inl rfl
  · rw [heq]
    exact .refl (fun _ ↦ .inl rfl) _

theorem evolves_shelveAlarm (alarms : AlarmTable) (alarmId : ℤ) (username : String)
    (durationMinutes : UInt32) (now : Instant) {Added : Alarm → Prop} :
    Evolves ((AlarmOp.shelve alarmId username durationMinutes).Changes now) Added alarms.rows
      (shelveAlarm alarms alarmId username durationMinutes now).1.rows := by
  rcases shelveAlarm_cases alarms alarmId username durationMinutes now with
    ⟨state, hselect, hstate, heq⟩ | ⟨e, heq⟩
  · rw [heq]
    obtain ⟨row, hrow, hrowid, rfl⟩ := selectState_eq_some_iff.mp hselect
    apply Evolves.map
    intro alarm hmem
    split
    case isTrue hid =>
        have hid' : alarm.id = alarmId := beq_iff_eq.mp hid
        have hsame : row = alarm := RowTable.eq_of_rowid_eq hrow hmem (hrowid.trans hid'.symm)
        subst hsame
        exact .inr ⟨rfl, hid', hstate⟩
    case isFalse => exact .inl rfl
  · rw [heq]
    exact .refl (fun _ ↦ .inl rfl) _

theorem evolves_unshelveExpired (alarms : AlarmTable) (now : Instant) {Added : Alarm → Prop} :
    Evolves (AlarmOp.unshelveExpired.Changes now) Added alarms.rows
      (unshelveExpired alarms now).rows := by
  apply Evolves.map
  intro alarm _
  split
  case isTrue hexpired => exact .inr ⟨rfl, hexpired⟩
  case isFalse => exact .inl rfl

/-- **What an operation does to the rows.** -/
theorem evolves_apply (store : AlarmStore) (op : AlarmOp) :
    Evolves (op.Changes store.now) op.Adds store.alarms.rows (store.apply op).alarms.rows := by
  cases op with
  | poll deviceId regMap => exact evolves_alarmMonitoring store.alarms
  | ack alarmId username comment =>
      exact evolves_ackAlarm store.alarms alarmId username comment store.now
  | shelve alarmId username durationMinutes =>
      exact evolves_shelveAlarm store.alarms alarmId username durationMinutes store.now
  | unshelveExpired => exact evolves_unshelveExpired store.alarms store.now
  | advance nanos =>
      have hself (alarm : Alarm) : (AlarmOp.advance nanos).Changes store.now alarm alarm := rfl
      exact .refl hself _

/-- The columns that no operation changes. -/
structure SameSource (alarm alarm' : Alarm) : Prop where
  id : alarm'.id = alarm.id
  deviceId : alarm'.deviceId = alarm.deviceId
  register : alarm'.register = alarm.register
  priority : alarm'.priority = alarm.priority

theorem SameSource.isFor_eq (h : SameSource alarm alarm') (deviceId : String) (register : UInt16) :
    alarm'.isFor deviceId register = alarm.isFor deviceId register := by
  rw [Alarm.isFor, Alarm.isFor, h.deviceId, h.register]

theorem sameSource_of_changes {op : AlarmOp} (h : op.Changes now alarm alarm') :
    SameSource alarm alarm' := by
  cases op with
  | poll | ack | shelve | unshelveExpired =>
      rcases h with rfl | ⟨rfl, -⟩ <;> exact ⟨rfl, rfl, rfl, rfl⟩
  | advance =>
      obtain rfl : alarm' = alarm := h
      exact ⟨rfl, rfl, rfl, rfl⟩

/-- Every threshold has a critical limit, so every alarm ever raised is critical. -/
theorem priority_run (start : Instant) (ops : List AlarmOp) :
    ∀ alarm ∈ (AlarmStore.run start ops).alarms.rows, alarm.priority = .critical := by
  unfold AlarmStore.run
  induction ops using List.reverseRecOn with
  | nil => exact fun alarm hmem ↦ by cases hmem
  | append_singleton ops op ih =>
      rw [List.foldl_append]
      refine (evolves_apply _ op).forall_mem ih (fun alarm alarm' hchange hcritical ↦ ?_)
        fun alarm hadded ↦ ?_
      · exact (sameSource_of_changes hchange).priority.trans hcritical
      · cases op with
        | poll deviceId regMap =>
            obtain ⟨-, -, th, hmem, -, hpriority⟩ := hadded
            have hcrit : ∀ th ∈ alarmThresholds, th.critHigh.isSome := by decide
            exact hpriority (hcrit th hmem)
        | _ => cases hadded

end VyuhHmi
