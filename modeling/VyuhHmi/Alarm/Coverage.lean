import Mathlib.Data.List.Nodup
import VyuhHmi.Alarm.History

/-!
# Which readings are alarmed on

After a poll, a monitored reading at or above its warning limit should have an alarm that stands,
and one at or above its critical limit a critical one.  The branch for warnings is only reached by a
threshold without a critical limit, and there is none: a reading between the two limits raises
nothing.
-/

namespace VyuhHmi

open Alarm Evolution

variable {deviceId : String} {regMap : RegMap} {now : Instant} {th : AlarmThreshold} {val : UInt16}
  {alarms : AlarmTable}

/-- The alarm is unresolved or shelved. -/
def Alarm.standing (alarm : Alarm) : Bool := alarm.unresolved || alarm.state == .shelved

/-- The reading has the alarms that its limits ask for. -/
structure Covered (deviceId : String) (th : AlarmThreshold) (val : UInt16) (alarms : AlarmTable) :
    Prop where
  warning : ∀ warn, th.warnHigh = some warn → warn ≤ val.toNat →
    ∃ alarm ∈ alarms.rows, alarm.isFor deviceId th.register ∧ alarm.standing
  critical : ∀ crit, th.critHigh = some crit → crit ≤ val.toNat →
    ∃ alarm ∈ alarms.rows, alarm.isFor deviceId th.register ∧ alarm.standing ∧
      alarm.priority = .critical

/-- The reading is at or above the warning limit and below the critical one. -/
def InWarningBand (th : AlarmThreshold) (val : UInt16) : Prop :=
  (∃ warn, th.warnHigh = some warn ∧ warn ≤ val.toNat) ∧
    ∀ crit, th.critHigh = some crit → val.toNat < crit

/-- The limits of a threshold are in order. -/
theorem limits_of_mem (hth : th ∈ alarmThresholds) : ∃ warn crit, th.warnHigh = some warn ∧
    th.critHigh = some crit ∧ warn ≤ crit := by
  simp only [alarmThresholds, List.mem_cons, List.not_mem_nil, or_false] at hth
  rcases hth with rfl | rfl
  · exact ⟨85, 100, rfl, rfl, by decide⟩
  · exact ⟨1200, 1400, rfl, rfl, by decide⟩

theorem eq_of_register_eq {th' : AlarmThreshold} (hth : th ∈ alarmThresholds)
    (hth' : th' ∈ alarmThresholds) (h : th.register = th'.register) : th = th' := by
  have hnodup : (alarmThresholds.map AlarmThreshold.register).Nodup := by decide
  exact List.inj_on_of_nodup_map hnodup hth hth' h

theorem not_backToSafe_of_le {warn : ℕ} (hwarn : th.warnHigh = some warn) (hle : warn ≤ val.toNat) :
    backToSafe th val.toNat = false := by
  have hnot : ¬100 * val.toNat < 95 * warn := by omega
  simp [backToSafe, hwarn, hnot]

/-- A poll that reads a register at or above its warning limit changes none of its rows. -/
theorem PollChange.eq_of_warning {alarm alarm' : Alarm} {warn : ℕ} (hth : th ∈ alarmThresholds)
    (hread : regMap th.register = some val) (hwarn : th.warnHigh = some warn)
    (hle : warn ≤ val.toNat) (hfor : alarm.isFor deviceId th.register)
    (h : PollChange deviceId regMap now alarmThresholds alarm alarm') : alarm' = alarm := by
  rcases h with heq | ⟨-, -, -, th', hth', hregister, val', hread', hsafe⟩
  · exact heq
  · have hsame : th' = th :=
      eq_of_register_eq hth' hth (hregister.trans (isFor_iff.mp hfor).2)
    subst hsame
    obtain rfl : val' = val := Option.some.inj (hread'.symm.trans hread)
    rw [not_backToSafe_of_le hwarn hle] at hsafe
    cases hsafe

/-- A poll that finds no unresolved row inserts one exactly for a critical reading. -/
theorem count_alarmMonitoring_eq_iff (hth : th ∈ alarmThresholds)
    (hread : regMap th.register = some val) {crit : ℕ} (hcrit : th.critHigh = some crit) :
    (alarmMonitoring deviceId regMap now alarms).count (isFor deviceId th.register) =
        alarms.count (isFor deviceId th.register) ↔
      (hasActiveAlarm alarms deviceId th.register = false → val.toNat < crit) := by
  have hcount : (alarmMonitoring deviceId regMap now alarms).count (isFor deviceId th.register) =
        alarms.count (isFor deviceId th.register) ↔
      NoRaiseDue deviceId regMap alarms deviceId th.register :=
    checkThresholds_count_eq_iff regMap now (by decide) (by decide) alarms
  rw [hcount]
  constructor
  · intro hnone hactive
    exact hnone rfl hactive th hth rfl crit hcrit val hread
  · intro hbelow _ hactive th' hth' hregister crit' hcrit' val' hread'
    obtain rfl := eq_of_register_eq hth' hth hregister
    obtain rfl := Option.some.inj (hcrit'.symm.trans hcrit)
    obtain rfl := Option.some.inj (hread'.symm.trans hread)
    exact hbelow hactive

/-- A new row is only inserted by a poll that is due to raise one. -/
theorem raiseDue_of_new {pollDevice : String} {register : UInt16} {alarm : Alarm}
    (hmem : alarm ∈ (alarmMonitoring pollDevice regMap now alarms).rows)
    (hfor : alarm.isFor deviceId register)
    (hnew : ∀ before ∈ alarms.rows,
      ¬PollChange pollDevice regMap now alarmThresholds before alarm) :
    ¬NoRaiseDue pollDevice regMap alarms deviceId register := by
  intro hnone
  have hlt := (evolves_alarmMonitoring alarms).countP_lt
    (fun before after hchange ↦ hchange.isFor_eq deviceId register) hmem hfor hnew
  have hsame : (alarmMonitoring pollDevice regMap now alarms).count (isFor deviceId register) =
      alarms.count (isFor deviceId register) :=
    (checkThresholds_count_eq_iff regMap now (by decide) (by decide) alarms).mpr hnone
  exact hlt.ne' hsame

/-- A critical reading without an unresolved row gets a new, critical one. -/
theorem exists_raised (hth : th ∈ alarmThresholds) (hread : regMap th.register = some val)
    {crit : ℕ} (hcrit : th.critHigh = some crit) (hle : crit ≤ val.toNat)
    (hnone : hasActiveAlarm alarms deviceId th.register = false) :
    ∃ alarm ∈ (alarmMonitoring deviceId regMap now alarms).rows,
      alarm.isFor deviceId th.register ∧ alarm.state = .active ∧ alarm.priority = .critical := by
  by_contra hmissing
  have hcount : (alarmMonitoring deviceId regMap now alarms).count (isFor deviceId th.register) =
      alarms.count (isFor deviceId th.register) := by
    have hevolves : Evolves (PollChange deviceId regMap now alarmThresholds)
        (PollAdded deviceId alarmThresholds) alarms.rows
        (alarmMonitoring deviceId regMap now alarms).rows := evolves_alarmMonitoring alarms
    obtain ⟨kept, added, heq, hkept, hadded⟩ := hevolves
    have hother : added.countP (isFor deviceId th.register) = 0 := by
      rw [List.countP_eq_zero]
      intro alarm hmem hfor
      obtain ⟨hactive, -, th', hth', hregister, hpriority⟩ := hadded alarm hmem
      obtain rfl := eq_of_register_eq hth' hth (hregister.trans (isFor_iff.mp hfor).2)
      exact hmissing ⟨alarm, heq ▸ List.mem_append_right _ hmem, hfor, hactive,
        hpriority (hcrit ▸ rfl)⟩
    rw [RowTable.count, heq, List.countP_append, hother, countP_eq_of_forall₂ hkept
      fun before after hchange ↦ hchange.isFor_eq deviceId th.register]
    rfl
  have hbelow := (count_alarmMonitoring_eq_iff hth hread hcrit).mp hcount hnone
  omega

/-- An unresolved row rules the device register's monitoring. -/
theorem exists_unresolved_iff {register : UInt16} :
    hasActiveAlarm alarms deviceId register = true ↔
      ∃ alarm ∈ alarms.rows, alarm.isFor deviceId register ∧ alarm.unresolved := by
  simp only [hasActiveAlarm_iff, unresolvedFor_iff]

/-- **Coverage.** In every reachable table and for every poll, a monitored reading has the alarms
that its limits ask for exactly when it is outside the warning band or an alarm of its device
register was standing before. -/
theorem covered_iff (start : Instant) (ops : List AlarmOp) (deviceId : String) (regMap : RegMap)
    (now : Instant) (hth : th ∈ alarmThresholds) (hread : regMap th.register = some val) :
    Covered deviceId th val
        (alarmMonitoring deviceId regMap now (AlarmStore.run start ops).alarms) ↔
      (InWarningBand th val → ∃ alarm ∈ (AlarmStore.run start ops).alarms.rows,
        alarm.isFor deviceId th.register ∧ alarm.standing) := by
  obtain ⟨warn, crit, hwarn, hcrit, hlimits⟩ := limits_of_mem hth
  have hevolves : Evolves (PollChange deviceId regMap now alarmThresholds)
      (PollAdded deviceId alarmThresholds) (AlarmStore.run start ops).alarms.rows
      (alarmMonitoring deviceId regMap now (AlarmStore.run start ops).alarms).rows :=
    evolves_alarmMonitoring _
  constructor
  · rintro hcovered ⟨⟨warn', hwarn', hreached⟩, hbelow⟩
    obtain ⟨alarm, hmem, hfor, hstanding⟩ := hcovered.warning warn' hwarn' hreached
    by_cases hold : ∃ before ∈ (AlarmStore.run start ops).alarms.rows,
        PollChange deviceId regMap now alarmThresholds before alarm
    · obtain ⟨before, hbefore, hchange⟩ := hold
      have hfor' : before.isFor deviceId th.register := by
        rwa [← hchange.isFor_eq deviceId th.register]
      obtain rfl := hchange.eq_of_warning hth hread hwarn' hreached hfor'
      exact ⟨alarm, hbefore, hfor, hstanding⟩
    · have hnew : ∀ before ∈ (AlarmStore.run start ops).alarms.rows,
          ¬PollChange deviceId regMap now alarmThresholds before alarm :=
        fun before hbefore hchange ↦ hold ⟨before, hbefore, hchange⟩
      refine absurd ?_ (raiseDue_of_new hmem hfor hnew)
      intro _ _ th' hth' hregister crit' hcrit' val' hread'
      obtain rfl := eq_of_register_eq hth' hth hregister
      obtain rfl := Option.some.inj (hread'.symm.trans hread)
      exact hbelow crit' hcrit'
  · intro hband
    have hkept {alarm : Alarm} (hmem : alarm ∈ (AlarmStore.run start ops).alarms.rows)
        (hfor : alarm.isFor deviceId th.register) (hreached : warn ≤ val.toNat) :
        alarm ∈ (alarmMonitoring deviceId regMap now (AlarmStore.run start ops).alarms).rows := by
      obtain ⟨after, hafter, hchange⟩ := hevolves.exists_successor hmem
      obtain rfl := hchange.eq_of_warning hth hread hwarn hreached hfor
      exact hafter
    have hcritical (hreached : crit ≤ val.toNat) :
        ∃ alarm ∈ (alarmMonitoring deviceId regMap now (AlarmStore.run start ops).alarms).rows,
          alarm.isFor deviceId th.register ∧ alarm.standing ∧ alarm.priority = .critical := by
      cases hactive : hasActiveAlarm (AlarmStore.run start ops).alarms deviceId th.register with
      | true =>
          obtain ⟨alarm, hmem, hfor, hunresolved⟩ := exists_unresolved_iff.mp hactive
          refine ⟨alarm, hkept hmem hfor (hlimits.trans hreached), hfor, ?_,
            priority_run start ops alarm hmem⟩
          rw [Alarm.standing, hunresolved, Bool.true_or]
      | false =>
          obtain ⟨alarm, hmem, hfor, hstate, hpriority⟩ :=
            exists_raised hth hread hcrit hreached hactive
          refine ⟨alarm, hmem, hfor, ?_, hpriority⟩
          simp [Alarm.standing, Alarm.unresolved, hstate]
    constructor
    · intro warn' hwarn' hreached
      obtain rfl := Option.some.inj (hwarn.symm.trans hwarn')
      by_cases habove : crit ≤ val.toNat
      · obtain ⟨alarm, hmem, hfor, hstanding, -⟩ := hcritical habove
        exact ⟨alarm, hmem, hfor, hstanding⟩
      · have hbelow : ∀ crit', th.critHigh = some crit' → val.toNat < crit' := by
          intro crit' hcrit'
          rw [← Option.some.inj (hcrit.symm.trans hcrit')]
          exact Nat.not_le.mp habove
        obtain ⟨alarm, hmem, hfor, hstanding⟩ := hband ⟨⟨warn, hwarn, hreached⟩, hbelow⟩
        exact ⟨alarm, hkept hmem hfor hreached, hfor, hstanding⟩
    · intro crit' hcrit' hreached
      obtain rfl := Option.some.inj (hcrit.symm.trans hcrit')
      exact hcritical hreached

/-- A temperature between the warning limit and the critical one. -/
def warmed : RegMap := fun register ↦ if register = 1028 then some 90 else none

/-- The temperature threshold. -/
def temperature : AlarmThreshold := ⟨1028, "Temperature", some 85, some 100, none, none⟩

theorem covered_iff_warmed :
    Covered "plc-01" temperature 90
        (alarmMonitoring "plc-01" warmed 0 (AlarmStore.run 0 []).alarms) ↔
      (InWarningBand temperature 90 → ∃ alarm ∈ (AlarmStore.run 0 []).alarms.rows,
        alarm.isFor "plc-01" temperature.register ∧ alarm.standing) :=
  covered_iff 0 [] "plc-01" warmed 0 (by decide) (by decide)

/-- The first poll of a plant at 90 degrees raises nothing. -/
theorem warmed_not_covered :
    ¬ ∀ (start : Instant) (ops : List AlarmOp) (deviceId : String) (regMap : RegMap) (now : Instant),
      ∀ th ∈ alarmThresholds, ∀ val, regMap th.register = some val →
        Covered deviceId th val
          (alarmMonitoring deviceId regMap now (AlarmStore.run start ops).alarms) := by
  intro h
  have hcovered := h 0 [] "plc-01" warmed 0 temperature (by decide) 90 (by decide)
  obtain ⟨alarm, hmem, -⟩ := hcovered.warning 85 rfl (by decide)
  have hempty : (alarmMonitoring "plc-01" warmed 0 (AlarmStore.run 0 []).alarms).rows = [] := by
    decide
  rw [hempty] at hmem
  cases hmem

end VyuhHmi
