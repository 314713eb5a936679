import VyuhHmi.Server.Export

/-!
# What the lists show

A list shows the rows that meet every filter that is given, newest first, as many as its limit.
The audit trail and the batches do.  Of the six statements of `list_alarms`, the one for a device
and the one for a state compare no priority, also when one is given.
-/

namespace VyuhHmi

/-! ## Alarms -/

namespace AlarmQueryParams

/-- The alarm meets every filter that is given. -/
def Matches (params : AlarmQueryParams) (alarm : Alarm) : Prop :=
  (∀ deviceId ∈ params.deviceId, alarm.deviceId = deviceId) ∧
    (∀ state ∈ params.state, alarm.state.asStr = state) ∧
      ∀ priority ∈ params.priority, alarm.priority.asI32 = priority.toInt

instance (params : AlarmQueryParams) : DecidablePred params.Matches := fun alarm ↦
  decidable_of_iff
    (params.deviceId.all (alarm.deviceId = ·) ∧ params.state.all (alarm.state.asStr = ·) ∧
      params.priority.all fun priority ↦ alarm.priority.asI32 = priority.toInt)
    (by simp [Matches, Option.all_eq_true])

/-- The filters that the chosen statement compares. -/
def compared (params : AlarmQueryParams) : AlarmQueryParams :=
  match params.deviceId, params.state with
  | some _, none => { params with priority := none }
  | none, some _ => { params with priority := none }
  | _, _ => params

theorem selects_eq (params : AlarmQueryParams) :
    params.selects = fun alarm ↦ decide (params.compared.Matches alarm) := by
  funext alarm
  rw [Bool.eq_iff_iff, decide_eq_true_iff]
  obtain ⟨_ | deviceId, _ | state, _ | priority, limit⟩ := params <;>
    simp [selects, compared, Matches, and_assoc]

theorem Matches.compared {params : AlarmQueryParams} {alarm : Alarm} (h : params.Matches alarm) :
    params.compared.Matches alarm := by
  unfold AlarmQueryParams.compared
  split
  · exact ⟨h.1, h.2.1, by simp⟩
  · exact ⟨h.1, h.2.1, by simp⟩
  · exact h

end AlarmQueryParams

/-- Every alarm that only its priority keeps from the filters, where the priority is not compared,
is older than a whole list of others that the statement selects. -/
def OtherPrioritiesOlder (alarms : AlarmTable) (params : AlarmQueryParams) : Prop :=
  ∀ alarm ∈ alarms.rows, params.compared.Matches alarm → ¬params.Matches alarm →
    params.rowLimit ≤
      alarms.count fun other ↦ alarm.id < other.id && decide (params.compared.Matches other)

/-- **Alarm list.** `list_alarms` shows the newest alarms that meet every filter exactly when no
alarm of another priority is new enough to be among them. -/
theorem listAlarms_isNewestOf_iff (alarms : AlarmTable) (params : AlarmQueryParams)
    (hlimit : 0 ≤ params.rowLimit) :
    alarms.IsNewestOf params.Matches params.rowLimit.toNat (listAlarms alarms params) ↔
      OtherPrioritiesOlder alarms params := by
  rw [RowTable.isNewestOf_iff hlimit, listAlarms, AlarmQueryParams.selects_eq, eq_comm,
    RowTable.newest_eq_newest_iff fun alarm h ↦
      decide_eq_true (AlarmQueryParams.Matches.compared (of_decide_eq_true h))]
  constructor
  · intro hall alarm hrow hcompared hother
    by_contra hfew
    have hmem : alarm ∈ alarms.newest (fun alarm ↦ decide (params.compared.Matches alarm))
        params.rowLimit :=
      (RowTable.mem_newest_iff hlimit).mpr ⟨hrow, decide_eq_true hcompared, not_le.mp hfew⟩
    exact hother (of_decide_eq_true (hall alarm hmem))
  · intro holder alarm hmem
    obtain ⟨hrow, hcompared, hnew⟩ := (RowTable.mem_newest_iff hlimit).mp hmem
    by_contra hother
    have hle := holder alarm hrow (of_decide_eq_true hcompared) fun h ↦ hother (decide_eq_true h)
    exact hle.not_gt hnew

/-- A high alarm. -/
def highAlarm : AlarmTable :=
  (raiseAlarm .empty ⟨"plc-01", 1028, "Temperature", .high, 95, 90, "High"⟩ 0).1

/-- The active alarms that are critical. -/
def criticalActive : AlarmQueryParams := ⟨none, some "active", some 1, none⟩

theorem listAlarms_isNewestOf_iff_highAlarm :
    0 ≤ criticalActive.rowLimit ∧
      (highAlarm.IsNewestOf criticalActive.Matches criticalActive.rowLimit.toNat
          (listAlarms highAlarm criticalActive) ↔
        OtherPrioritiesOlder highAlarm criticalActive) :=
  ⟨by decide, listAlarms_isNewestOf_iff highAlarm criticalActive (by decide)⟩

/-- Among the critical alarms the history shows the high one. -/
theorem criticalActive_lists_high :
    ¬highAlarm.IsNewestOf criticalActive.Matches criticalActive.rowLimit.toNat
      (listAlarms highAlarm criticalActive) := by
  rw [RowTable.isNewestOf_iff (by decide)]
  intro h
  have hlength := congrArg List.length h
  revert hlength
  decide

/-! ## Batches and the audit trail -/

namespace BatchQueryParams

/-- The batch meets every filter that is given. -/
def Matches (params : BatchQueryParams) (record : BatchRecord) : Prop :=
  (∀ deviceId ∈ params.deviceId, record.deviceId = deviceId) ∧
    ∀ status ∈ params.status, record.status.asStr = status

instance (params : BatchQueryParams) : DecidablePred params.Matches := fun _ ↦
  inferInstanceAs (Decidable (_ ∧ _))

def rowLimit (params : BatchQueryParams) : ℤ := (params.limit.getD 100).toInt

theorem selects_eq (params : BatchQueryParams) :
    params.selects = fun record ↦ decide (params.Matches record) := by
  funext record
  rw [Bool.eq_iff_iff, decide_eq_true_iff]
  obtain ⟨_ | deviceId, _ | status, limit⟩ := params <;> simp [selects, Matches]

end BatchQueryParams

theorem listBatches_isNewestOf {batches : BatchTable} {params : BatchQueryParams}
    (hlimit : 0 ≤ params.rowLimit) :
    batches.IsNewestOf params.Matches params.rowLimit.toNat (listBatches batches params) := by
  rw [RowTable.isNewestOf_iff hlimit, listBatches, BatchQueryParams.selects_eq]
  rfl

/-- A placeholder of the audit query. -/
inductive AuditPlaceholder
  | column (column : AuditColumn)
  | limit
deriving DecidableEq

/-- A value that is bound to a placeholder. -/
inductive SqlValue
  | text (value : String)
  | integer (value : ℤ)
deriving DecidableEq

namespace AuditQueryParams

/-- The entry meets every filter that is given. -/
def Matches (params : AuditQueryParams) (entry : AuditEntry) : Prop :=
  (∀ uid ∈ params.userId, entry.userId = uid) ∧
    (∀ did ∈ params.deviceId, entry.deviceId = some did) ∧
      ∀ act ∈ params.action, entry.action = act

instance (params : AuditQueryParams) : DecidablePred params.Matches := fun _ ↦
  inferInstanceAs (Decidable (_ ∧ _ ∧ _))

def rowLimit (params : AuditQueryParams) : ℤ := (params.limit.getD 100).toInt

/-- The filter of a column. -/
def filter (params : AuditQueryParams) : AuditColumn → Option String
  | .userId => params.userId
  | .deviceId => params.deviceId
  | .action => params.action

/-- The placeholders of the query, in the order of its text. -/
def placeholders (params : AuditQueryParams) : List AuditPlaceholder :=
  params.conditions.map .column ++ [.limit]

/-- The values bound to the query, in the order of the calls of `bind`. -/
def bound (params : AuditQueryParams) : List SqlValue :=
  params.binds.map .text ++ [.integer params.rowLimit]

/-- The value that a placeholder stands for. -/
def wanted (params : AuditQueryParams) : AuditPlaceholder → Option SqlValue
  | .column column => (params.filter column).map .text
  | .limit => some (.integer params.rowLimit)

/-- Every bound value meets its own placeholder, and none is left over. -/
theorem map_wanted_placeholders (params : AuditQueryParams) :
    params.placeholders.map params.wanted = params.bound.map some := by
  have hcolumns : params.conditions.map params.filter = params.binds.map some := by
    obtain ⟨_ | _, _ | _, _ | _, _⟩ := params <;> rfl
  unfold placeholders bound
  rw [List.map_append, List.map_append, List.map_map, List.map_map]
  calc
    params.conditions.map (params.wanted ∘ .column) ++ [.limit].map params.wanted =
        (params.conditions.map params.filter).map (Option.map SqlValue.text) ++
          [some (.integer params.rowLimit)] := by
      rw [List.map_map]
      rfl
    _ = params.binds.map (some ∘ SqlValue.text) ++ [.integer params.rowLimit].map some := by
      rw [hcolumns, List.map_map]
      rfl

theorem selects_eq (params : AuditQueryParams) :
    params.selects = fun entry ↦ decide (params.Matches entry) := by
  funext entry
  rw [Bool.eq_iff_iff, decide_eq_true_iff]
  obtain ⟨_ | uid, _ | did, _ | act, limit⟩ := params <;>
    simp [selects, Matches, and_assoc]

end AuditQueryParams

theorem getAuditTrail_isNewestOf {trail : AuditTable} {params : AuditQueryParams}
    (hlimit : 0 ≤ params.rowLimit) :
    trail.IsNewestOf params.Matches params.rowLimit.toNat (Routes.getAuditTrail trail params) := by
  rw [RowTable.isNewestOf_iff hlimit, getAuditTrail_eq, AuditQueryParams.selects_eq]
  rfl

/-- **Audit and batch lists.** The values of the audit query line up with its placeholders, and both
lists show the newest rows that meet every filter, as many as the limit. -/
theorem auditTrail_and_batches_isNewestOf (trail : AuditTable) (params : AuditQueryParams)
    (hlimit : 0 ≤ params.rowLimit) (batches : BatchTable) (batchParams : BatchQueryParams)
    (hbatchLimit : 0 ≤ batchParams.rowLimit) :
    params.placeholders.map params.wanted = params.bound.map some ∧
      trail.IsNewestOf params.Matches params.rowLimit.toNat (Routes.getAuditTrail trail params) ∧
      batches.IsNewestOf batchParams.Matches batchParams.rowLimit.toNat
        (listBatches batches batchParams) :=
  ⟨params.map_wanted_placeholders, getAuditTrail_isNewestOf hlimit,
    listBatches_isNewestOf hbatchLimit⟩

/-- The last two writes of one operator on one device. -/
def writesOfOperator : AuditQueryParams :=
  ⟨some "u1", some "plc-01", some "write_register", some 2⟩

/-- Three such writes among other entries. -/
def shiftTrail : AuditTable :=
  [("u1", "write_register", some "plc-01"), ("u1", "login", none),
    ("u1", "write_register", some "plc-01"), ("u2", "write_register", some "plc-01"),
    ("u1", "write_register", some "plc-02"), ("u1", "write_register", some "plc-01"),
    ("u1", "acknowledge_alarm", some "plc-01")].foldl
    (fun trail (userId, action, deviceId) ↦
      logAudit trail userId userId action deviceId "{}" none 0) .empty

/-- The last running batch of one device. -/
def runningBatch : BatchQueryParams := ⟨some "plc-01", some "running", some 1⟩

/-- Batches of two devices, one of them completed. -/
def shiftBatches : BatchTable :=
  let batches := [("BATCH-plc-01-0001", "plc-01"), ("BATCH-plc-01-0002", "plc-01"),
    ("BATCH-plc-01-0003", "plc-01"), ("BATCH-plc-02-0001", "plc-02")].foldl
    (fun batches (batchId, deviceId) ↦
      (createBatch batches batchId "Reactor Cycle" deviceId "system" 0).1) .empty
  updateBatchStatus batches "BATCH-plc-01-0003" .completed none 5

theorem auditTrail_and_batches_isNewestOf_shift :
    (writesOfOperator.placeholders.map writesOfOperator.wanted =
        writesOfOperator.bound.map some ∧
      shiftTrail.IsNewestOf writesOfOperator.Matches writesOfOperator.rowLimit.toNat
        (Routes.getAuditTrail shiftTrail writesOfOperator) ∧
      shiftBatches.IsNewestOf runningBatch.Matches runningBatch.rowLimit.toNat
        (listBatches shiftBatches runningBatch)) ∧
      (Routes.getAuditTrail shiftTrail writesOfOperator).map AuditEntry.id = [6, 3] ∧
      (listBatches shiftBatches runningBatch).map BatchRecord.id = [2] :=
  ⟨auditTrail_and_batches_isNewestOf _ writesOfOperator (by decide) _ runningBatch (by decide),
    by decide, by decide⟩

end VyuhHmi
