import VyuhHmi.Alarm.Coverage

/-!
# No chatter

While no alarm is shelved, a device register gets a new alarm row only after its previous one has
been cleared, and only a reading strictly below 95 % of the warning limit clears one.
-/

namespace VyuhHmi

open Alarm Evolution

def AlarmOp.isShelve : AlarmOp → Bool
  | .shelve _ _ _ => true
  | _ => false

variable {deviceId : String} {th : AlarmThreshold} {now start : Instant} {op : AlarmOp}
  {ops before : List AlarmOp} {alarm alarm' : Alarm} {alarmId : ℤ}

/-- The row appears with this operation. -/
def InsertedBy (start : Instant) (before : List AlarmOp) (op : AlarmOp) (deviceId : String)
    (register : UInt16) (alarmId : ℤ) : Prop :=
  (∀ row ∈ (AlarmStore.run start before).alarms.rows, row.id ≠ alarmId) ∧
    ∃ row ∈ (AlarmStore.run start (before ++ [op])).alarms.rows,
      row.id = alarmId ∧ row.isFor deviceId register

/-- The row is open before this operation and cleared after it. -/
def ClearedBy (start : Instant) (before : List AlarmOp) (op : AlarmOp) (deviceId : String)
    (register : UInt16) (alarmId : ℤ) : Prop :=
  (∃ row ∈ (AlarmStore.run start before).alarms.rows,
      row.id = alarmId ∧ row.isFor deviceId register ∧ row.state ≠ .cleared) ∧
    ∃ row ∈ (AlarmStore.run start (before ++ [op])).alarms.rows,
      row.id = alarmId ∧ row.state = .cleared

/-- A poll of the device reads the register strictly below 95 % of its warning limit. -/
def ReadsSafe (deviceId : String) (th : AlarmThreshold) (op : AlarmOp) : Prop :=
  ∃ regMap val warn, op = .poll deviceId regMap ∧ regMap th.register = some val ∧
    th.warnHigh = some warn ∧ 100 * val.toNat < 95 * warn

theorem run_append_singleton (start : Instant) (before : List AlarmOp) (op : AlarmOp) :
    AlarmStore.run start (before ++ [op]) = (AlarmStore.run start before).apply op := by
  simp [AlarmStore.run, List.foldl_append]

theorem run_append (start : Instant) (first second : List AlarmOp) :
    AlarmStore.run start (first ++ second) =
      second.foldl AlarmStore.apply (AlarmStore.run start first) :=
  List.foldl_append

/-! ## One operation -/

/-- What an operation other than shelving does to a row that is not shelved: it does not shelve it,
and it clears it only on a safe reading. -/
theorem changes_cases (hop : op.isShelve = false) (hstate : alarm.state ≠ .shelved)
    (h : op.Changes now alarm alarm') : alarm'.state ≠ .shelved ∧
      (alarm'.state = .cleared → alarm.state = .cleared ∨ ∃ regMap,
        op = .poll alarm.deviceId regMap ∧ ∃ th ∈ alarmThresholds, th.register = alarm.register ∧
          ∃ val, regMap th.register = some val ∧ backToSafe th val.toNat) := by
  cases op with
  | poll deviceId regMap =>
      rcases h with rfl | ⟨rfl, -, rfl, hsafe⟩
      · exact ⟨hstate, .inl⟩
      · exact ⟨nofun, fun _ ↦ .inr ⟨regMap, rfl, hsafe⟩⟩
  | ack alarmId username comment =>
      rcases h with rfl | ⟨rfl, -⟩
      · exact ⟨hstate, .inl⟩
      · exact ⟨nofun, nofun⟩
  | shelve => cases hop
  | unshelveExpired =>
      rcases h with rfl | ⟨rfl, -⟩
      · exact ⟨hstate, .inl⟩
      · exact ⟨nofun, nofun⟩
  | advance nanos =>
      obtain rfl : alarm' = alarm := h
      exact ⟨hstate, .inl⟩

/-- Without shelving, no row is shelved. -/
theorem not_shelved_run (hops : ∀ op ∈ ops, op.isShelve = false) :
    ∀ alarm ∈ (AlarmStore.run start ops).alarms.rows, alarm.state ≠ .shelved := by
  induction ops using List.reverseRecOn with
  | nil => exact fun alarm hmem ↦ by cases hmem
  | append_singleton ops op ih =>
      have hop := hops op (List.mem_append_right _ (List.mem_singleton_self op))
      have hrest := ih fun op hmem ↦ hops op (List.mem_append_left _ hmem)
      rw [run_append_singleton]
      refine (evolves_apply _ op).forall_mem hrest (fun alarm alarm' hchange hstate ↦ ?_)
        fun alarm hadded ↦ ?_
      · exact (changes_cases hop hstate hchange).1
      · cases op with
        | poll =>
            rw [hadded.1]
            nofun
        | _ => cases hadded

/-- A row that has this id before an operation and one that has it after are one row. -/
theorem changes_of_id_eq {store : AlarmStore} (hmem : alarm ∈ store.alarms.rows)
    (hmem' : alarm' ∈ (store.apply op).alarms.rows) (hid : alarm'.id = alarm.id) :
    op.Changes store.now alarm alarm' := by
  obtain ⟨after, hafter, hchange⟩ := (evolves_apply store op).exists_successor hmem
  have hsame : after = alarm' :=
    RowTable.eq_of_rowid_eq hafter hmem' ((sameSource_of_changes hchange).id.trans hid.symm)
  rwa [← hsame]

/-- A new row is one that the operation has added. -/
theorem InsertedBy.adds {register : UInt16}
    (h : InsertedBy start before op deviceId register alarmId) :
    ∃ row ∈ ((AlarmStore.run start before).apply op).alarms.rows, row.id = alarmId ∧
      row.isFor deviceId register ∧ op.Adds row ∧
      ∀ old ∈ (AlarmStore.run start before).alarms.rows,
        ¬op.Changes (AlarmStore.run start before).now old row := by
  obtain ⟨hfresh, row, hrow, hid, hfor⟩ := h
  rw [run_append_singleton] at hrow
  have hnew (old : Alarm) (hold : old ∈ (AlarmStore.run start before).alarms.rows) :
      ¬op.Changes (AlarmStore.run start before).now old row := fun hchange ↦
    hfresh old hold ((sameSource_of_changes hchange).id.symm.trans hid)
  rcases (evolves_apply _ op).origin hrow with ⟨old, hold, hchange⟩ | hadded
  · exact absurd hchange (hnew old hold)
  · exact ⟨row, hrow, hid, hfor, hadded, hnew⟩

/-- A row is only inserted where the device register has no unresolved one. -/
theorem InsertedBy.hasActiveAlarm_eq_false {register : UInt16}
    (h : InsertedBy start before op deviceId register alarmId) :
    hasActiveAlarm (AlarmStore.run start before).alarms deviceId register = false := by
  obtain ⟨row, hrow, -, hfor, hadded, hnew⟩ := h.adds
  cases op with
  | poll pollDevice regMap =>
      by_contra hactive
      exact raiseDue_of_new hrow hfor hnew fun _ hnone ↦ absurd hnone hactive
  | _ => cases hadded

theorem InsertedBy.state_eq {register : UInt16}
    (h : InsertedBy start before op deviceId register alarmId) :
    ∃ row ∈ ((AlarmStore.run start before).apply op).alarms.rows,
      row.id = alarmId ∧ row.isFor deviceId register ∧ row.state = .active := by
  obtain ⟨row, hrow, hid, hfor, hadded, -⟩ := h.adds
  cases op with
  | poll => exact ⟨row, hrow, hid, hfor, hadded.1⟩
  | _ => cases hadded

/-! ## Clearing -/

/-- **Only safe readings clear.** -/
theorem ClearedBy.readsSafe (hth : th ∈ alarmThresholds)
    (hops : ∀ other ∈ before ++ [op], other.isShelve = false)
    (h : ClearedBy start before op deviceId th.register alarmId) : ReadsSafe deviceId th op := by
  obtain ⟨⟨row, hrow, hid, hfor, hopen⟩, row', hrow', hid', hcleared⟩ := h
  rw [run_append_singleton] at hrow'
  have hstate := not_shelved_run (fun other hmem ↦ hops other (List.mem_append_left _ hmem)) row hrow
  have hop := hops op (List.mem_append_right _ (List.mem_singleton_self op))
  have hchange := changes_of_id_eq hrow hrow' (hid'.trans hid.symm)
  obtain ⟨hdevice, hregister⟩ := isFor_iff.mp hfor
  rcases (changes_cases hop hstate hchange).2 hcleared with hold | ⟨regMap, rfl, th', hth', hreg,
    val, hread, hsafe⟩
  · exact absurd hold hopen
  · obtain rfl := eq_of_register_eq hth' hth (hreg.trans hregister)
    obtain ⟨warn, crit, hwarn, -, -⟩ := limits_of_mem hth
    have hbelow : 100 * val.toNat < 95 * warn := by
      have hwarnings := (Bool.and_eq_true_iff.mp hsafe).1
      simpa [hwarn] using hwarnings
    rw [hdevice]
    exact ⟨regMap, val, warn, rfl, hread, hwarn, hbelow⟩

/-- Two rows that one operation inserts for a device register are one. -/
theorem InsertedBy.unique {register : UInt16} {alarmId' : ℤ}
    (hone : AtMostOneUnresolved (AlarmStore.run start (before ++ [op])).alarms)
    (h : InsertedBy start before op deviceId register alarmId)
    (h' : InsertedBy start before op deviceId register alarmId') : alarmId = alarmId' := by
  obtain ⟨row, hrow, rfl, hfor, hactive⟩ := h.state_eq
  obtain ⟨row', hrow', rfl, hfor', hactive'⟩ := h'.state_eq
  rw [run_append_singleton] at hone
  have hunresolved {alarm : Alarm} (hfor : alarm.isFor deviceId register)
      (hstate : alarm.state = .active) : unresolvedFor deviceId register alarm :=
    unresolvedFor_iff.mpr ⟨hfor, by simp [Alarm.unresolved, hstate]⟩
  rw [RowTable.count_le_one_iff.mp (hone deviceId register) row hrow row' hrow'
    (hunresolved hfor hactive) (hunresolved hfor' hactive')]

/-- Without shelving, every un-shelving is of no row. -/
theorem atMostOneUnresolved_run (hops : ∀ op ∈ ops, op.isShelve = false) :
    AtMostOneUnresolved (AlarmStore.run start ops).alarms := by
  refine (run_atMostOneUnresolved_iff start ops).mpr (fun before hpart alarm hmem hexpired ↦ ?_)
    ops List.prefix_rfl
  have hbefore : ∀ op ∈ before, op.isShelve = false := fun op hop ↦
    hops op (hpart.subset (List.mem_append_left _ hop))
  have hstate := not_shelved_run hbefore alarm hmem
  simp [Alarm.expired, hstate] at hexpired

/-- **No chatter.** Between the insertions of two rows of a device register, the first of them is
cleared by a poll that reads the register below 95 % of its warning limit; no other operation clears
a row of the device register. -/
theorem no_chatter (start : Instant) (ops : List AlarmOp)
    (hops : ∀ op ∈ ops, op.isShelve = false) (deviceId : String) (hth : th ∈ alarmThresholds) :
    (∀ before op alarmId alarmId', before ++ [op] <+: ops →
      InsertedBy start before op deviceId th.register alarmId →
      InsertedBy start before op deviceId th.register alarmId' → alarmId = alarmId') ∧
    (∀ first op between op' last, ops = first ++ op :: between ++ op' :: last →
      ∀ alarmId alarmId', InsertedBy start first op deviceId th.register alarmId →
        InsertedBy start (first ++ op :: between) op' deviceId th.register alarmId' →
        ∃ earlier poll later, between = earlier ++ poll :: later ∧ ReadsSafe deviceId th poll ∧
          ClearedBy start (first ++ op :: earlier) poll deviceId th.register alarmId) ∧
    ∀ before op alarmId, before ++ [op] <+: ops →
      ClearedBy start before op deviceId th.register alarmId → ReadsSafe deviceId th op := by
  refine ⟨fun before op alarmId alarmId' hpart h h' ↦ ?_,
    fun first op between op' last heq alarmId alarmId' h h' ↦ ?_,
    fun before op alarmId hpart h ↦ ?_⟩
  · have hone := @atMostOneUnresolved_run start (before ++ [op]) fun other hother ↦
      hops other (hpart.subset hother)
    exact h.unique hone h'
  · obtain ⟨row, hrow, hid, hfor, hactive⟩ := h.state_eq
    rw [← run_append_singleton] at hrow
    -- the first row is open after its insertion and no longer open when the second one comes
    let Open (store : AlarmStore) : Prop := ∃ row ∈ store.alarms.rows,
      row.id = alarmId ∧ row.isFor deviceId th.register ∧ row.state ≠ .cleared
    have hopen : Open (AlarmStore.run start (first ++ [op])) :=
      ⟨row, hrow, hid, hfor, by rw [hactive]; nofun⟩
    have hsplit (rest : List AlarmOp) : first ++ op :: rest = first ++ [op] ++ rest := by simp
    have hclosed : ¬Open (between.foldl AlarmStore.apply (AlarmStore.run start (first ++ [op]))) := by
      rw [← run_append, ← hsplit]
      rintro ⟨row', hrow', -, hfor', hnot⟩
      have hstate := not_shelved_run (fun other hother ↦ hops other (by
        rw [heq]
        exact List.mem_append_left _ hother)) row' hrow'
      have hnone := h'.hasActiveAlarm_eq_false
      have hsome : hasActiveAlarm (AlarmStore.run start (first ++ op :: between)).alarms deviceId
          th.register = true := by
        refine exists_unresolved_iff.mpr ⟨row', hrow', hfor', ?_⟩
        unfold Alarm.unresolved
        cases hcases : row'.state with
        | active | acknowledged => rfl
        | cleared => exact absurd hcases hnot
        | shelved => exact absurd hcases hstate
      rw [hnone] at hsome
      cases hsome
    obtain ⟨earlier, poll, later, rfl, hbefore, hafter⟩ :=
      Transition.foldl_exists_lost hopen hclosed
    rw [← run_append, ← hsplit] at hbefore hafter
    have hcleared : ClearedBy start (first ++ op :: earlier) poll deviceId th.register alarmId := by
      refine ⟨hbefore, ?_⟩
      obtain ⟨open_, hmem, rfl, hfor', -⟩ := hbefore
      obtain ⟨after, hafter', hchange⟩ := (evolves_apply _ poll).exists_successor hmem
      have hsource := sameSource_of_changes hchange
      rw [run_append_singleton]
      refine ⟨after, hafter', hsource.id, ?_⟩
      by_contra hnot
      exact hafter ⟨after, hafter', hsource.id, (hsource.isFor_eq _ _).trans hfor', hnot⟩
    have hbetween (other : AlarmOp) (hother : other ∈ first ++ op :: earlier ++ [poll]) :
        other ∈ ops := by
      rw [heq]
      simp only [List.mem_append, List.mem_cons, List.not_mem_nil, or_false] at hother ⊢
      tauto
    exact ⟨earlier, poll, later, rfl,
      hcleared.readsSafe hth fun other hother ↦ hops other (hbetween other hother), hcleared⟩
  · exact h.readsSafe hth fun other hother ↦ hops other (hpart.subset hother)

/-- A temperature well below the warning limit. -/
def cooled : RegMap := fun register ↦ if register = 1028 then some 60 else none

/-- Raise, acknowledge, clear, raise again. -/
def returningRun : List AlarmOp :=
  [.poll "plc-01" overheated, .ack 1 "operator" none, .poll "plc-01" cooled,
    .poll "plc-01" overheated]

theorem no_chatter_returningRun :
    ∃ earlier poll later, [AlarmOp.ack 1 "operator" none, .poll "plc-01" cooled] =
        earlier ++ poll :: later ∧ ReadsSafe "plc-01" temperature poll ∧
      ClearedBy 0 ([] ++ .poll "plc-01" overheated :: earlier) poll "plc-01" 1028 1 := by
  have hth : temperature ∈ alarmThresholds := by decide
  refine (no_chatter 0 returningRun (by decide) "plc-01" hth).2.1 [] (.poll "plc-01" overheated)
    _ (.poll "plc-01" overheated) [] rfl 1 2 ⟨?_, ?_⟩ ⟨?_, ?_⟩
  all_goals decide

end VyuhHmi
