import VyuhHmi.Alarm.Monitor
import VyuhHmi.Foundation.Transition

/-!
# Runs of the alarm store

Polls, acknowledgements, shelving, un-shelving and the clock, each as one atomic operation on the
alarms table.  A shelved alarm does not count as unresolved, so a poll raises a second alarm for
the same device register while the first is shelved; un-shelving the first then leaves two
unresolved rows, of which auto-clear closes one.  The results below say exactly which
un-shelvings and which polls do that.
-/

namespace VyuhHmi

open Alarm

/-- The alarms table and the clock. -/
structure AlarmStore where
  alarms : AlarmTable
  now : Instant

/-- The operations on the alarm store. -/
inductive AlarmOp
  | poll (deviceId : String) (regMap : RegMap)
  | ack (alarmId : ℤ) (username : String) (comment : Option String)
  | shelve (alarmId : ℤ) (username : String) (durationMinutes : UInt32)
  | unshelveExpired
  | advance (nanos : ℕ)

namespace AlarmStore

def init (start : Instant) : AlarmStore := ⟨.empty, start⟩

def apply (store : AlarmStore) : AlarmOp → AlarmStore
  | .poll deviceId regMap =>
      { store with alarms := alarmMonitoring deviceId regMap store.now store.alarms }
  | .ack alarmId username comment =>
      { store with alarms := (ackAlarm store.alarms alarmId username comment store.now).1 }
  | .shelve alarmId username durationMinutes =>
      { store with
        alarms := (shelveAlarm store.alarms alarmId username durationMinutes store.now).1 }
  | .unshelveExpired => { store with alarms := VyuhHmi.unshelveExpired store.alarms store.now }
  | .advance nanos => { store with now := store.now + nanos }

/-- The store after a run from an empty table. -/
def run (start : Instant) (ops : List AlarmOp) : AlarmStore := ops.foldl apply (init start)

end AlarmStore

/-! ## At most one unresolved alarm -/

/-- Each device register has at most one row that is active or acknowledged. -/
def AtMostOneUnresolved (alarms : AlarmTable) : Prop :=
  ∀ deviceId register, alarms.count (unresolvedFor deviceId register) ≤ 1

/-- No row that un-shelving would reactivate shares its device register with another row that is
unresolved or would be reactivated with it. -/
def UnshelvesAlone (now : Instant) (alarms : AlarmTable) : Prop :=
  ∀ alarm ∈ alarms.rows, alarm.expired now →
    ∀ other ∈ alarms.rows, other.isFor alarm.deviceId alarm.register →
      other.unresolved ∨ other.expired now → other.id = alarm.id

theorem isFor_iff {deviceId : String} {register : UInt16} {alarm : Alarm} :
    alarm.isFor deviceId register ↔ alarm.deviceId = deviceId ∧ alarm.register = register := by
  simp [Alarm.isFor]

theorem unresolvedFor_iff {deviceId : String} {register : UInt16} {alarm : Alarm} :
    unresolvedFor deviceId register alarm ↔ alarm.isFor deviceId register ∧ alarm.unresolved := by
  simp [unresolvedFor]

theorem unresolvedFor_raisedAlarm {deviceId : String} {register : UInt16}
    (req : RaiseAlarmRequest) (now : Instant) (id : ℤ) :
    unresolvedFor deviceId register (raisedAlarm req now id) ↔
      req.deviceId = deviceId ∧ req.register = register := by
  simp [unresolvedFor, Alarm.isFor, Alarm.unresolved, raisedAlarm]

/-- Raising is guarded: the device register had no unresolved row. -/
theorem atMostOneUnresolved_raise {alarms : AlarmTable} {req : RaiseAlarmRequest} {now : Instant}
    (h : AtMostOneUnresolved alarms)
    (hnone : hasActiveAlarm alarms req.deviceId req.register = false) :
    AtMostOneUnresolved (raiseAlarm alarms req now).1 := by
  intro deviceId register
  simp only [raiseAlarm, RowTable.count_insert]
  split
  case isTrue hfor =>
      obtain ⟨rfl, rfl⟩ := (unresolvedFor_raisedAlarm req now _).mp hfor
      have hzero := hasActiveAlarm_eq_false_iff.mp hnone
      omega
  case isFalse => exact h deviceId register

/-- Updates that make no row unresolved keep the bound. -/
theorem atMostOneUnresolved_updateWhere {alarms : AlarmTable} {p : Alarm → Bool}
    {f : Alarm → Alarm} (hf : ∀ alarm, (f alarm).id = alarm.id) (h : AtMostOneUnresolved alarms)
    (hle : ∀ alarm ∈ alarms.rows, p alarm → ∀ deviceId register,
      unresolvedFor deviceId register (f alarm) → unresolvedFor deviceId register alarm) :
    AtMostOneUnresolved (alarms.updateWhere p f hf) := fun deviceId register ↦
  (RowTable.count_updateWhere_le fun alarm hmem hp ↦ hle alarm hmem hp deviceId register).trans
    (h deviceId register)

theorem atMostOneUnresolved_clear {alarms : AlarmTable} (h : AtMostOneUnresolved alarms)
    (alarmId : ℤ) (now : Instant) : AtMostOneUnresolved (clearAlarm alarms alarmId now) := by
  apply atMostOneUnresolved_updateWhere (clear_id now) h
  intro alarm _ _ deviceId register hfor
  simp [unresolvedFor, Alarm.unresolved] at hfor

theorem atMostOneUnresolved_autoClear {alarms : AlarmTable} (h : AtMostOneUnresolved alarms)
    (deviceId : String) (register : UInt16) (now : Instant) :
    AtMostOneUnresolved (autoClear alarms deviceId register now) := by
  unfold autoClear
  split
  · exact atMostOneUnresolved_clear h _ now
  · exact h

theorem atMostOneUnresolved_poll {alarms : AlarmTable} (h : AtMostOneUnresolved alarms)
    (deviceId : String) (regMap : RegMap) (now : Instant) :
    AtMostOneUnresolved (alarmMonitoring deviceId regMap now alarms) := by
  refine alarmMonitoring_induct (fun th val alarms h ↦ ?_) regMap h
  rcases checkThreshold_cases deviceId th val now alarms with
    ⟨-, -, heq⟩ | ⟨req, hnone, hreq, heq⟩ | ⟨-, -, heq⟩ | ⟨-, -, heq⟩
  · rwa [heq]
  · rw [heq]
    obtain ⟨hdev, hreg⟩ := alarmToRaise_fields hreq
    apply atMostOneUnresolved_raise h
    rwa [hdev, hreg]
  · rwa [heq]
  · rw [heq]
    exact atMostOneUnresolved_autoClear h deviceId th.register now

/-- Acknowledging an active row keeps it unresolved and touches no other row. -/
theorem atMostOneUnresolved_ack {alarms : AlarmTable} (h : AtMostOneUnresolved alarms)
    (alarmId : ℤ) (username : String) (comment : Option String) (now : Instant) :
    AtMostOneUnresolved (ackAlarm alarms alarmId username comment now).1 := by
  rcases ackAlarm_cases alarms alarmId username comment now with ⟨hactive, heq⟩ | ⟨e, heq⟩
  · rw [heq]
    apply atMostOneUnresolved_updateWhere (acknowledge_id _ _ now) h
    intro alarm hmem hid deviceId register hfor
    obtain ⟨row, hrow, hrowid, hstate⟩ := selectState_eq_some_iff.mp hactive
    have hsame : row = alarm := RowTable.eq_of_rowid_eq hrow hmem (by simp_all)
    subst hsame
    rw [unresolvedFor_iff] at hfor ⊢
    exact ⟨hfor.1, by simp [Alarm.unresolved, hstate]⟩
  · rwa [heq]

theorem atMostOneUnresolved_shelve {alarms : AlarmTable} (h : AtMostOneUnresolved alarms)
    (alarmId : ℤ) (username : String) (durationMinutes : UInt32) (now : Instant) :
    AtMostOneUnresolved (shelveAlarm alarms alarmId username durationMinutes now).1 := by
  rcases shelveAlarm_cases alarms alarmId username durationMinutes now with
    ⟨_, -, -, heq⟩ | ⟨e, heq⟩
  · rw [heq]
    apply atMostOneUnresolved_updateWhere (shelve_id username _) h
    intro alarm _ _ deviceId register hfor
    simp [unresolvedFor, Alarm.unresolved] at hfor
  · rwa [heq]

/-- After un-shelving, a row is unresolved when it was unresolved or expired before. -/
theorem count_unshelveExpired (alarms : AlarmTable) (now : Instant) (deviceId : String)
    (register : UInt16) :
    (unshelveExpired alarms now).count (unresolvedFor deviceId register) =
      alarms.count fun alarm ↦
        alarm.isFor deviceId register && (alarm.unresolved || alarm.expired now) := by
  unfold unshelveExpired RowTable.count
  rw [RowTable.rows_updateWhere, List.countP_map]
  congr 1
  funext alarm
  by_cases hexpired : alarm.expired now <;>
    simp [hexpired, unresolvedFor, Alarm.unresolved]

/-- Un-shelving keeps the bound exactly when every row it reactivates is alone. -/
theorem atMostOneUnresolved_unshelve_iff {alarms : AlarmTable} (h : AtMostOneUnresolved alarms)
    (now : Instant) :
    AtMostOneUnresolved (unshelveExpired alarms now) ↔ UnshelvesAlone now alarms := by
  unfold AtMostOneUnresolved
  simp only [count_unshelveExpired, RowTable.count_le_one_iff, Bool.and_eq_true, Bool.or_eq_true]
  constructor
  · intro huniq alarm halarm hexpired other hother hfor hopen
    have hself : alarm.isFor alarm.deviceId alarm.register := isFor_iff.mpr ⟨rfl, rfl⟩
    rw [huniq _ _ other hother alarm halarm ⟨hfor, hopen⟩ ⟨hself, .inr hexpired⟩]
  · intro halone deviceId register r hr s hs hopenr hopens
    obtain ⟨hforr, hr'⟩ := hopenr
    obtain ⟨hfors, hs'⟩ := hopens
    have hdevr := isFor_iff.mp hforr
    have hdevs := isFor_iff.mp hfors
    by_cases hexpr : r.expired now
    · have hid := halone r hr hexpr s hs (by rw [hdevr.1, hdevr.2]; exact hfors) hs'
      exact (RowTable.eq_of_rowid_eq hs hr hid).symm
    · by_cases hexps : s.expired now
      · have hid := halone s hs hexps r hr (by rw [hdevs.1, hdevs.2]; exact hforr) hr'
        exact RowTable.eq_of_rowid_eq hr hs hid
      · -- neither row is reactivated, so both were unresolved already
        apply RowTable.count_le_one_iff.mp (h deviceId register) r hr s hs
        · exact unresolvedFor_iff.mpr ⟨hforr, hr'.resolve_right hexpr⟩
        · exact unresolvedFor_iff.mpr ⟨hfors, hs'.resolve_right hexps⟩

/-- The only operation that can break the bound is an un-shelving. -/
def keepsOneUnresolved (store : AlarmStore) (op : AlarmOp) : Prop :=
  op = .unshelveExpired → UnshelvesAlone store.now store.alarms

theorem atMostOneUnresolved_apply_iff (store : AlarmStore) (op : AlarmOp)
    (h : AtMostOneUnresolved store.alarms) :
    AtMostOneUnresolved (store.apply op).alarms ↔ keepsOneUnresolved store op := by
  unfold keepsOneUnresolved
  cases op with
  | poll deviceId regMap =>
      simpa [AlarmStore.apply] using atMostOneUnresolved_poll h deviceId regMap store.now
  | ack alarmId username comment =>
      simpa [AlarmStore.apply] using atMostOneUnresolved_ack h alarmId username comment store.now
  | shelve alarmId username durationMinutes =>
      simpa [AlarmStore.apply] using
        atMostOneUnresolved_shelve h alarmId username durationMinutes store.now
  | unshelveExpired =>
      simpa [AlarmStore.apply] using atMostOneUnresolved_unshelve_iff h store.now
  | advance nanos =>
      simpa [AlarmStore.apply] using h

/-- **One unresolved alarm per device register.** The bound holds in every table of a run exactly
when every un-shelving of the run reactivates each of its rows alone. -/
theorem run_atMostOneUnresolved_iff (start : Instant) (ops : List AlarmOp) :
    (∀ before, before <+: ops → AtMostOneUnresolved (AlarmStore.run start before).alarms) ↔
      ∀ before, before ++ [.unshelveExpired] <+: ops →
        UnshelvesAlone (AlarmStore.run start before).now (AlarmStore.run start before).alarms := by
  have hinit : AtMostOneUnresolved (AlarmStore.init start).alarms := by
    intro deviceId register
    simp [AlarmStore.init, RowTable.count]
  unfold AlarmStore.run
  rw [@Transition.foldl_always_iff _ _ _ AlarmStore.apply
    (fun store ↦ AtMostOneUnresolved store.alarms) _ hinit atMostOneUnresolved_apply_iff]
  unfold keepsOneUnresolved
  constructor
  · intro h before hpre
    exact h before .unshelveExpired hpre rfl
  · rintro h before op hpre rfl
    exact h before hpre

/-- A temperature reading above the critical limit. -/
def overheated : RegMap := fun register ↦ if register = 1028 then some 120 else none

/-- Raise, shelve for ten minutes, raise again beside the shelved row, un-shelve. -/
def duplicateAlarmRun : List AlarmOp :=
  [.poll "plc-01" overheated, .shelve 1 "operator" 10, .poll "plc-01" overheated,
    .advance (11 * nanosPerMinute), .unshelveExpired]

theorem duplicateAlarmRun_two_unresolved :
    ¬ ∀ (start : Instant) (ops : List AlarmOp),
      AtMostOneUnresolved (AlarmStore.run start ops).alarms := by
  intro h
  have htwo : (AlarmStore.run 0 duplicateAlarmRun).alarms.count (unresolvedFor "plc-01" 1028) = 2 := by
    decide
  have hone := h 0 duplicateAlarmRun "plc-01" 1028
  omega

/-! ## Suppression while shelved -/

/-- The row is shelved until some time after `now`. -/
def Alarm.suppressing (now : Instant) (alarm : Alarm) : Bool :=
  alarm.state == .shelved && alarm.shelvedUntil.any (now < ·)

/-- A poll of `pollDevice` finds no reading that asks for an alarm of this device register: it is
another device's poll, or the device register has an unresolved alarm, or the register is not
monitored, or its reading is missing or below the critical limit. -/
def NoRaiseDue (pollDevice : String) (regMap : RegMap) (alarms : AlarmTable) (deviceId : String)
    (register : UInt16) : Prop :=
  pollDevice = deviceId → hasActiveAlarm alarms deviceId register = false →
    ∀ th ∈ alarmThresholds, th.register = register → ∀ crit, th.critHigh = some crit →
      ∀ val, regMap register = some val → val.toNat < crit

theorem alarmToRaise_isSome_iff (deviceId : String) {th : AlarmThreshold} (val : ℕ) {crit : ℕ}
    (hcrit : th.critHigh = some crit) :
    (alarmToRaise deviceId th val false).isSome ↔ crit ≤ val := by
  unfold alarmToRaise
  rw [hcrit]
  by_cases h : crit ≤ val <;> simp [h]

theorem count_isFor_autoClear (alarms : AlarmTable) (deviceId deviceId' : String)
    (register register' : UInt16) (now : Instant) :
    (autoClear alarms deviceId' register' now).count (isFor deviceId register) =
      alarms.count (isFor deviceId register) := by
  unfold autoClear
  split
  · apply RowTable.count_updateWhere_eq
    intro alarm _ _
    exact isFor_clear _ alarm deviceId register
  · rfl

/-- Auto-clearing a device register leaves the unresolved rows of the others alone. -/
theorem count_unresolvedFor_autoClear {alarms : AlarmTable} {deviceId deviceId' : String}
    {register register' : UInt16} (hne : ¬(deviceId' = deviceId ∧ register' = register))
    (now : Instant) :
    (autoClear alarms deviceId' register' now).count (unresolvedFor deviceId register) =
      alarms.count (unresolvedFor deviceId register) := by
  unfold autoClear
  split
  case h_1 alarmId hactive =>
      obtain ⟨row, hlatest, hrowid⟩ := Option.map_eq_some_iff.mp hactive
      obtain ⟨hrow, hfor⟩ := RowTable.latest_mem hlatest
      apply RowTable.count_updateWhere_eq
      intro alarm hmem hp
      have hsame : row = alarm := RowTable.eq_of_rowid_eq hrow hmem (by simp_all)
      subst hsame
      have hother : row.isFor deviceId register = false := by
        rw [unresolvedFor_iff, isFor_iff] at hfor
        rw [Bool.eq_false_iff, ne_eq, isFor_iff]
        rintro ⟨hdev, hreg⟩
        exact hne ⟨hfor.1.1.symm.trans hdev, hfor.1.2.symm.trans hreg⟩
      simp [unresolvedFor, hother]
  case h_2 => rfl

/-- A threshold of another device register changes neither the rows of this one nor whether it
has an unresolved alarm. -/
theorem checkThreshold_frame {pollDevice deviceId : String} {th : AlarmThreshold}
    {register : UInt16} (hne : ¬(pollDevice = deviceId ∧ th.register = register)) (val : ℕ)
    (now : Instant) (alarms : AlarmTable) :
    (checkThreshold pollDevice th val now alarms).count (isFor deviceId register) =
        alarms.count (isFor deviceId register) ∧
      hasActiveAlarm (checkThreshold pollDevice th val now alarms) deviceId register =
        hasActiveAlarm alarms deviceId register := by
  rcases checkThreshold_cases pollDevice th val now alarms with
    ⟨-, -, heq⟩ | ⟨req, -, hreq, heq⟩ | ⟨-, -, heq⟩ | ⟨-, -, heq⟩
  · exact ⟨by rw [heq], by rw [heq]⟩
  · obtain ⟨hdev, hreg⟩ := alarmToRaise_fields hreq
    have hother : (raisedAlarm req now (alarms.seq + 1)).isFor deviceId register = false := by
      rw [Bool.eq_false_iff, ne_eq, isFor_iff]
      rintro ⟨h, h'⟩
      exact hne ⟨hdev.symm.trans h, hreg.symm.trans h'⟩
    rw [heq]
    constructor
    · simp [raiseAlarm, RowTable.count_insert, hother]
    · simp [hasActiveAlarm, raiseAlarm, RowTable.count_insert, unresolvedFor, hother]
  · exact ⟨by rw [heq], by rw [heq]⟩
  · rw [heq]
    constructor
    · exact count_isFor_autoClear alarms deviceId pollDevice register th.register now
    · unfold hasActiveAlarm
      rw [count_unresolvedFor_autoClear hne]

/-- The threshold of a device register without an unresolved alarm inserts a row exactly when the
reading reaches the critical limit. -/
theorem checkThreshold_count_eq_iff {deviceId : String} {th : AlarmThreshold} {val crit : ℕ}
    (hcrit : th.critHigh = some crit) (now : Instant) (alarms : AlarmTable) :
    (checkThreshold deviceId th val now alarms).count (isFor deviceId th.register) =
        alarms.count (isFor deviceId th.register) ↔
      (hasActiveAlarm alarms deviceId th.register = false → val < crit) := by
  have hraise := alarmToRaise_isSome_iff deviceId val hcrit
  rcases checkThreshold_cases deviceId th val now alarms with
    ⟨-, hnone, heq⟩ | ⟨req, hactive, hreq, heq⟩ | ⟨hactive, -, heq⟩ | ⟨hactive, -, heq⟩
  · rw [hnone] at hraise
    simpa [heq] using fun _ ↦ hraise
  · obtain ⟨hdev, hreg⟩ := alarmToRaise_fields hreq
    have hfor : (raisedAlarm req now (alarms.seq + 1)).isFor deviceId th.register = true :=
      isFor_iff.mpr ⟨hdev, hreg⟩
    rw [hreq] at hraise
    simpa [heq, raiseAlarm, RowTable.count_insert, hfor, hactive] using hraise
  · simp [heq, hactive]
  · rw [heq, count_isFor_autoClear]
    simp [hactive]

theorem checkReading_frame {pollDevice deviceId : String} {th : AlarmThreshold}
    {register : UInt16} (hne : ¬(pollDevice = deviceId ∧ th.register = register))
    (regMap : RegMap) (now : Instant) (alarms : AlarmTable) :
    (checkReading pollDevice regMap now alarms th).count (isFor deviceId register) =
        alarms.count (isFor deviceId register) ∧
      hasActiveAlarm (checkReading pollDevice regMap now alarms th) deviceId register =
        hasActiveAlarm alarms deviceId register := by
  unfold checkReading
  cases regMap th.register with
  | none => exact ⟨rfl, rfl⟩
  | some val => exact checkThreshold_frame hne _ now alarms

theorem checkThresholds_frame {pollDevice deviceId : String} {register : UInt16}
    (regMap : RegMap) (now : Instant) {ths : List AlarmThreshold}
    (hne : ∀ th ∈ ths, ¬(pollDevice = deviceId ∧ th.register = register)) (alarms : AlarmTable) :
    (checkThresholds pollDevice regMap now ths alarms).count (isFor deviceId register) =
      alarms.count (isFor deviceId register) := by
  induction ths generalizing alarms with
  | nil => rfl
  | cons th ths ih =>
      calc
        _ = (checkReading pollDevice regMap now alarms th).count (isFor deviceId register) :=
          ih (fun th' hmem ↦ hne th' (List.mem_cons_of_mem th hmem)) _
        _ = _ := (checkReading_frame (hne th List.mem_cons_self) regMap now alarms).1

/-- Thresholds of distinct registers do not interfere: only the one of this device register, read
before any other threshold can change its rows, decides whether a row is inserted for it. -/
theorem checkThresholds_count_eq_iff {pollDevice deviceId : String} {register : UInt16}
    (regMap : RegMap) (now : Instant) {ths : List AlarmThreshold}
    (hnodup : (ths.map AlarmThreshold.register).Nodup) (hcrit : ∀ th ∈ ths, th.critHigh.isSome)
    (alarms : AlarmTable) :
    (checkThresholds pollDevice regMap now ths alarms).count (isFor deviceId register) =
        alarms.count (isFor deviceId register) ↔
      (pollDevice = deviceId → hasActiveAlarm alarms deviceId register = false →
        ∀ th ∈ ths, th.register = register → ∀ crit, th.critHigh = some crit →
          ∀ val, regMap register = some val → val.toNat < crit) := by
  induction ths generalizing alarms with
  | nil => simp [checkThresholds]
  | cons th ths ih =>
      rw [List.map_cons, List.nodup_cons] at hnodup
      have htail : ∀ th' ∈ ths, th'.critHigh.isSome := fun th' hmem ↦
        hcrit th' (List.mem_cons_of_mem th hmem)
      have hcons : checkThresholds pollDevice regMap now (th :: ths) alarms =
          checkThresholds pollDevice regMap now ths (checkReading pollDevice regMap now alarms th) :=
        rfl
      rw [hcons]
      by_cases hsame : pollDevice = deviceId ∧ th.register = register
      · obtain ⟨rfl, rfl⟩ := hsame
        have hothers : ∀ th' ∈ ths, th'.register ≠ th.register := fun th' hmem heq ↦
          hnodup.1 (heq ▸ List.mem_map_of_mem hmem)
        obtain ⟨crit, hth⟩ := Option.isSome_iff_exists.mp (hcrit th List.mem_cons_self)
        rw [checkThresholds_frame regMap now fun th' hmem h ↦ hothers th' hmem h.2]
        have honly : (∀ th' ∈ th :: ths, th'.register = th.register → ∀ crit,
            th'.critHigh = some crit → ∀ val, regMap th.register = some val → val.toNat < crit) ↔
              ∀ val, regMap th.register = some val → val.toNat < crit := by
          constructor
          · exact fun h ↦ h th List.mem_cons_self rfl crit hth
          · intro h th' hmem heq crit' hcrit'
            rcases List.mem_cons.mp hmem with rfl | hmem
            · obtain rfl := Option.some.inj (hth.symm.trans hcrit')
              exact h
            · exact absurd heq (hothers th' hmem)
        rw [honly]
        unfold checkReading
        cases hread : regMap th.register with
        | none => simp
        | some val => simpa using checkThreshold_count_eq_iff hth now alarms
      · obtain ⟨hcount, hactive⟩ := checkReading_frame hsame regMap now alarms
        rw [← hcount, ih hnodup.2 htail, hactive]
        constructor
        · intro h hdev hnone th' hmem hreg
          rcases List.mem_cons.mp hmem with rfl | hmem
          · exact absurd ⟨hdev, hreg⟩ hsame
          · exact h hdev hnone th' hmem hreg
        · exact fun h hdev hnone th' hmem ↦ h hdev hnone th' (List.mem_cons_of_mem th hmem)

/-- A shelved alarm of this device register keeps the poll from inserting a row for it. -/
def ShelvedSuppresses (pollDevice : String) (regMap : RegMap) (now : Instant)
    (alarms : AlarmTable) (deviceId : String) (register : UInt16) : Prop :=
  (∃ alarm ∈ alarms.rows, alarm.isFor deviceId register ∧ alarm.suppressing now) →
    (alarmMonitoring pollDevice regMap now alarms).count (isFor deviceId register) =
      alarms.count (isFor deviceId register)

/-- **Polls and shelved alarms.** Where a device register has a shelved alarm, a poll leaves it
without a new row exactly when no reading asks for an alarm of it: the shelved row itself
suppresses nothing. -/
theorem shelvedSuppresses_iff (pollDevice : String) (regMap : RegMap) (now : Instant)
    (alarms : AlarmTable) (deviceId : String) (register : UInt16)
    (hshelved : ∃ alarm ∈ alarms.rows, alarm.isFor deviceId register ∧ alarm.suppressing now) :
    ShelvedSuppresses pollDevice regMap now alarms deviceId register ↔
      NoRaiseDue pollDevice regMap alarms deviceId register := by
  unfold ShelvedSuppresses
  rw [forall_prop_of_true hshelved]
  exact checkThresholds_count_eq_iff regMap now (by decide) (by decide) alarms

/-- Raise an alarm, then shelve it for ten minutes. -/
def shelvedRun : List AlarmOp := [.poll "plc-01" overheated, .shelve 1 "operator" 10]

theorem shelvedSuppresses_iff_shelvedRun :
    ShelvedSuppresses "plc-01" overheated 0 (AlarmStore.run 0 shelvedRun).alarms "plc-01" 1028 ↔
      NoRaiseDue "plc-01" overheated (AlarmStore.run 0 shelvedRun).alarms "plc-01" 1028 :=
  shelvedSuppresses_iff "plc-01" overheated 0 (AlarmStore.run 0 shelvedRun).alarms "plc-01" 1028
    (by decide)

theorem shelvedRun_not_suppressed :
    ¬ ∀ (start : Instant) (ops : List AlarmOp) (pollDevice : String) (regMap : RegMap) (t : Instant)
        (deviceId : String) (register : UInt16),
      (AlarmStore.run start ops).now ≤ t →
        ShelvedSuppresses pollDevice regMap t (AlarmStore.run start ops).alarms deviceId register := by
  intro h
  have hsame := h 0 shelvedRun "plc-01" overheated 0 "plc-01" 1028 (by decide) (by decide)
  revert hsame
  decide

end VyuhHmi
