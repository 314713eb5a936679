import VyuhHmi.Alarm.Store
import VyuhHmi.Audit.Trail
import VyuhHmi.Batch.Record

/-!
# Lists and exports

The readers of the alarms, the batches and the audit trail: the list routes, the CSV exports and the
single alarm.  The list of alarms un-shelves the expired ones before it reads, the other two readers
of the alarms read the table as it is.  The export of the audit trail takes the filters of the list
and uses none of them.
-/

namespace VyuhHmi

/-! ## Queries -/

/-- Query params for listing alarms. -/
structure AlarmQueryParams where
  deviceId : Option String
  state : Option String
  priority : Option Int32
  limit : Option Int64
deriving DecidableEq

/-- Query params for listing batches. -/
structure BatchQueryParams where
  deviceId : Option String
  status : Option String
  limit : Option Int64
deriving DecidableEq

/-- Query params for the audit trail and for its export. -/
structure AuditQueryParams where
  userId : Option String
  deviceId : Option String
  action : Option String
  limit : Option Int64
deriving DecidableEq

/-- The `WHERE` clause of the statement that `list_alarms` picks.  With a device alone or a state
alone, the priority is not looked at. -/
def AlarmQueryParams.selects (params : AlarmQueryParams) (alarm : Alarm) : Bool :=
  match params.deviceId, params.state, params.priority with
  | some deviceId, some state, some priority =>
      alarm.deviceId == deviceId && alarm.state.asStr == state &&
        alarm.priority.asI32 == priority.toInt
  | some deviceId, some state, none => alarm.deviceId == deviceId && alarm.state.asStr == state
  | some deviceId, none, _ => alarm.deviceId == deviceId
  | none, some state, _ => alarm.state.asStr == state
  | none, none, some priority => alarm.priority.asI32 == priority.toInt
  | none, none, none => true

def AlarmQueryParams.rowLimit (params : AlarmQueryParams) : ℤ := (params.limit.getD 200).toInt

/-- List alarms with optional filters. -/
def listAlarms (alarms : AlarmTable) (params : AlarmQueryParams) : List Alarm :=
  alarms.newest params.selects params.rowLimit

/-- Get a single alarm by ID. -/
def getAlarm (alarms : AlarmTable) (alarmId : ℤ) : Option Alarm := alarms.byId alarmId

def BatchQueryParams.selects (params : BatchQueryParams) (record : BatchRecord) : Bool :=
  match params.deviceId, params.status with
  | some deviceId, some status => record.deviceId == deviceId && record.status.asStr == status
  | some deviceId, none => record.deviceId == deviceId
  | none, some status => record.status.asStr == status
  | none, none => true

/-- List batches with optional filters. -/
def listBatches (batches : BatchTable) (params : BatchQueryParams) : List BatchRecord :=
  batches.newest params.selects (params.limit.getD 100).toInt

/-- A column that the audit trail can be filtered by. -/
inductive AuditColumn
  | userId | deviceId | action
deriving DecidableEq

def AuditColumn.value (entry : AuditEntry) : AuditColumn → Option String
  | userId => some entry.userId
  | deviceId => entry.deviceId
  | action => some entry.action

namespace AuditQueryParams

/-- The conditions of `build_audit_query`, each with a placeholder for its value. -/
def conditions (params : AuditQueryParams) : List AuditColumn :=
  (if params.userId.isSome then [.userId] else []) ++
    (if params.deviceId.isSome then [.deviceId] else []) ++
    if params.action.isSome then [.action] else []

/-- The values that `get_audit_trail` binds, in order. -/
def binds (params : AuditQueryParams) : List String :=
  match params.userId with
  | some uid =>
      match params.deviceId with
      | some did =>
          match params.action with
          | some act => [uid, did, act]
          | none => [uid, did]
      | none =>
          match params.action with
          | some act => [uid, act]
          | none => [uid]
  | none =>
      match params.deviceId with
      | some did =>
          match params.action with
          | some act => [did, act]
          | none => [did]
      | none =>
          match params.action with
          | some act => [act]
          | none => []

/-- The entry meets every filter that is given. -/
def selects (params : AuditQueryParams) (entry : AuditEntry) : Bool :=
  params.userId.all (fun uid ↦ entry.userId == uid) &&
    params.deviceId.all (fun did ↦ entry.deviceId == some did) &&
    params.action.all fun act ↦ entry.action == act

/-- Every placeholder gets a value. -/
theorem length_binds (params : AuditQueryParams) :
    params.binds.length = params.conditions.length := by
  obtain ⟨_ | _, _ | _, _ | _, _⟩ := params <;> rfl

/-- Every value is compared with its own column. -/
theorem all_zip_binds (params : AuditQueryParams) (entry : AuditEntry) :
    ((params.conditions.zip params.binds).all fun (column, value) ↦
      column.value entry == some value) = params.selects entry := by
  obtain ⟨_ | _, _ | _, _ | _, _⟩ := params <;>
    simp [conditions, binds, selects, AuditColumn.value, Bool.and_assoc]

end AuditQueryParams

/-! ## Routes -/

namespace Routes

/-- `GET /api/alarms`: un-shelve any expired alarms first. -/
def listAlarms (alarms : AlarmTable) (params : AlarmQueryParams) (now : Instant) :
    AlarmTable × ApiResponse (List Alarm) :=
  let unshelved := unshelveExpired alarms now
  (unshelved, .ok (VyuhHmi.listAlarms unshelved params))

/-- `GET /api/alarms/:id`. -/
def getAlarm (alarms : AlarmTable) (alarmId : ℤ) : ApiResponse Alarm :=
  match VyuhHmi.getAlarm alarms alarmId with
  | some alarm => .ok alarm
  | none => .fail "Alarm not found"

/-- `GET /api/batches`. -/
def listBatches (batches : BatchTable) (params : BatchQueryParams) :
    ApiResponse (List BatchRecord) :=
  .ok (VyuhHmi.listBatches batches params)

/-- `GET /api/audit`: the entries of the answer. -/
def getAuditTrail (trail : AuditTable) (params : AuditQueryParams) : List AuditEntry :=
  trail.newest
    (fun entry ↦ (params.conditions.zip params.binds).all fun (column, value) ↦
      column.value entry == some value)
    (params.limit.getD 100).toInt

end Routes

theorem getAuditTrail_eq (trail : AuditTable) (params : AuditQueryParams) :
    Routes.getAuditTrail trail params =
      trail.newest params.selects (params.limit.getD 100).toInt := by
  unfold Routes.getAuditTrail
  rw [funext (AuditQueryParams.all_zip_binds params)]

/-! ## Exports -/

/-- How a measured value and an instant read as text. -/
structure TextFormats where
  f64 : ℚ → String
  rfc3339 : Instant → String

/-- A CSV file for download: its name and its records, the header first. -/
structure CsvFile where
  filename : String
  records : List (List String)
deriving DecidableEq

/-- The `Debug` text of a priority. -/
def AlarmPriority.debug : AlarmPriority → String
  | critical => "Critical"
  | high => "High"
  | medium => "Medium"
  | low => "Low"
  | info => "Info"

def AlarmState.debug : AlarmState → String
  | active => "Active"
  | acknowledged => "Acknowledged"
  | cleared => "Cleared"
  | shelved => "Shelved"

def BatchStatus.debug : BatchStatus → String
  | running => "Running"
  | completed => "Completed"
  | aborted => "Aborted"
  | held => "Held"

section Csv

variable (formats : TextFormats)

def alarmHeader : List String :=
  ["id", "device_id", "register", "label", "priority", "state", "value", "threshold", "message",
    "timestamp", "acked_by", "acked_at", "shelved_by", "shelved_until", "cleared_at"]

/-- A row of the alarm export; an absent value is an empty field. -/
def alarmRecord (alarm : Alarm) : List String :=
  [toString alarm.id, alarm.deviceId, toString alarm.register.toNat, alarm.label,
    alarm.priority.debug, alarm.state.debug, formats.f64 alarm.value, formats.f64 alarm.threshold,
    alarm.message, formats.rfc3339 alarm.timestamp, alarm.ackedBy.getD "",
    (alarm.ackedAt.map formats.rfc3339).getD "", alarm.shelvedBy.getD "",
    (alarm.shelvedUntil.map formats.rfc3339).getD "",
    (alarm.clearedAt.map formats.rfc3339).getD ""]

/-- `GET /api/export/alarms.csv`. -/
def exportAlarmsCsv (alarms : AlarmTable) (params : AlarmQueryParams) : CsvFile where
  filename := "alarms_export.csv"
  records := alarmHeader :: (listAlarms alarms params).map (alarmRecord formats)

def batchHeader : List String :=
  ["id", "batch_id", "recipe_name", "device_id", "operator", "status", "start_time", "end_time",
    "notes"]

def batchRecord (record : BatchRecord) : List String :=
  [toString record.id, record.batchId, record.recipeName, record.deviceId, record.operator,
    record.status.debug, formats.rfc3339 record.startTime,
    (record.endTime.map formats.rfc3339).getD "", record.notes.getD ""]

/-- `GET /api/export/batches.csv`. -/
def exportBatchesCsv (batches : BatchTable) (params : BatchQueryParams) : CsvFile where
  filename := "batches_export.csv"
  records := batchHeader :: (listBatches batches params).map (batchRecord formats)

def auditHeader : List String :=
  ["id", "user_id", "username", "action", "device_id", "details", "timestamp", "ip_address"]

def auditRecord (entry : AuditEntry) : List String :=
  [toString entry.id, entry.userId, entry.username, entry.action, entry.deviceId.getD "",
    entry.details, formats.rfc3339 entry.timestamp, entry.ipAddress.getD ""]

/-- `GET /api/export/audit.csv`: of the parameters only the limit is used. -/
def exportAuditCsv (trail : AuditTable) (params : AuditQueryParams) : CsvFile where
  filename := "audit_export.csv"
  records := auditHeader ::
    (trail.newest (fun _ ↦ true) (params.limit.getD 1000).toInt).map (auditRecord formats)

end Csv

/-! ### Records determine rows -/

theorem toString_int_inj {m n : ℤ} (h : toString m = toString n) : m = n := by
  have hdigits (a b : ℕ) : toString a ≠ "-" ++ toString b := by
    intro heq
    have hminus : '-' ∈ (toString a).toList := by simp [heq]
    exact absurd (isDigit_of_mem_toString hminus) (by decide)
  cases m with
  | ofNat a =>
      cases n with
      | ofNat b => exact congrArg Int.ofNat (toString_nat_inj h)
      | negSucc b => exact absurd h (hdigits a (b + 1))
  | negSucc a =>
      cases n with
      | ofNat b => exact absurd h.symm (hdigits b (a + 1))
      | negSucc b =>
          have htexts : ("-" ++ toString (a + 1)).toList = ("-" ++ toString (b + 1)).toList :=
            congrArg String.toList h
          rw [String.toList_append, String.toList_append] at htexts
          have hnat := toString_nat_inj (String.toList_inj.mp (List.append_cancel_left htexts))
          exact congrArg Int.negSucc (Nat.succ.inj hnat)

theorem AlarmPriority.debug_injective : Function.Injective AlarmPriority.debug := by
  intro priority priority' h
  cases priority <;> cases priority' <;> simp [debug] at h ⊢

theorem AlarmState.debug_injective : Function.Injective AlarmState.debug := by
  intro state state' h
  cases state <;> cases state' <;> simp [debug] at h ⊢

theorem BatchStatus.debug_injective : Function.Injective BatchStatus.debug := by
  intro status status' h
  cases status <;> cases status' <;> simp [debug] at h ⊢

theorem getD_map_inj {α : Type} {f : α → String} (hf : Function.Injective f) (hne : ∀ a, f a ≠ "")
    {x y : Option α} (h : (x.map f).getD "" = (y.map f).getD "") : x = y := by
  cases x with
  | none =>
      cases y with
      | none => rfl
      | some b => exact absurd h.symm (hne b)
  | some a =>
      cases y with
      | none => exact absurd h (hne a)
      | some b => exact congrArg some (hf h)

/-- The alarm with its absent texts empty, as an export has them. -/
def Alarm.exported (alarm : Alarm) : Alarm :=
  { alarm with
    ackedBy := some (alarm.ackedBy.getD "")
    shelvedBy := some (alarm.shelvedBy.getD "") }

def BatchRecord.exported (record : BatchRecord) : BatchRecord :=
  { record with notes := some (record.notes.getD "") }

def AuditEntry.exported (entry : AuditEntry) : AuditEntry :=
  { entry with
    deviceId := some (entry.deviceId.getD "")
    ipAddress := some (entry.ipAddress.getD "") }

section Lossless

variable {formats : TextFormats} (hrfc3339 : Function.Injective formats.rfc3339)
  (hne : ∀ now, formats.rfc3339 now ≠ "")

include hrfc3339 hne

/-- With numbers and instants written without loss, a record determines its alarm. -/
theorem alarmRecord_inj (hf64 : Function.Injective formats.f64) {alarm alarm' : Alarm}
    (h : alarmRecord formats alarm = alarmRecord formats alarm') :
    alarm.exported = alarm'.exported := by
  simp only [alarmRecord, List.cons.injEq, and_true] at h
  obtain ⟨hid, hdevice, hregister, hlabel, hpriority, hstate, hvalue, hthreshold, hmessage,
    htimestamp, hackedBy, hackedAt, hshelvedBy, hshelvedUntil, hclearedAt⟩ := h
  simp only [Alarm.exported, Alarm.mk.injEq, Option.some.injEq]
  exact ⟨toString_int_inj hid, hdevice, toString_toNat_inj hregister, hlabel,
    AlarmPriority.debug_injective hpriority, AlarmState.debug_injective hstate, hf64 hvalue,
    hf64 hthreshold, hmessage, hrfc3339 htimestamp, hackedBy, getD_map_inj hrfc3339 hne hackedAt,
    getD_map_inj hrfc3339 hne hshelvedUntil, hshelvedBy, getD_map_inj hrfc3339 hne hclearedAt⟩

theorem batchRecord_inj {record record' : BatchRecord}
    (h : batchRecord formats record = batchRecord formats record') :
    record.exported = record'.exported := by
  simp only [batchRecord, List.cons.injEq, and_true] at h
  obtain ⟨hid, hbatchId, hrecipe, hdevice, hoperator, hstatus, hstart, hend, hnotes⟩ := h
  simp only [BatchRecord.exported, BatchRecord.mk.injEq, Option.some.injEq]
  exact ⟨toString_int_inj hid, hbatchId, hrecipe, hdevice, hoperator,
    BatchStatus.debug_injective hstatus, hrfc3339 hstart, getD_map_inj hrfc3339 hne hend, hnotes⟩

omit hne in
theorem auditRecord_inj {entry entry' : AuditEntry}
    (h : auditRecord formats entry = auditRecord formats entry') :
    entry.exported = entry'.exported := by
  simp only [auditRecord, List.cons.injEq, and_true] at h
  obtain ⟨hid, huser, hname, haction, hdevice, hdetails, htimestamp, hip⟩ := h
  simp only [AuditEntry.exported, AuditEntry.mk.injEq, Option.some.injEq]
  exact ⟨toString_int_inj hid, huser, hname, haction, hdevice, hdetails, hrfc3339 htimestamp, hip⟩

end Lossless

/-! ## When the readers agree -/

/-- What the readers read. -/
structure ReadStore where
  alarms : AlarmTable
  batches : BatchTable
  auditTrail : AuditTable

/-- At this time, every export has the rows of its list, and every alarm that is listed has the
listed state on its own. -/
structure ReadersAgree (formats : TextFormats) (db : ReadStore) (now : Instant)
    (alarmParams : AlarmQueryParams) (batchParams : BatchQueryParams)
    (auditParams : AuditQueryParams) : Prop where
  alarms : ∀ listed, (Routes.listAlarms db.alarms alarmParams now).2.data = some listed →
    (exportAlarmsCsv formats db.alarms alarmParams).records =
      alarmHeader :: listed.map (alarmRecord formats)
  batches : ∀ listed, (Routes.listBatches db.batches batchParams).data = some listed →
    (exportBatchesCsv formats db.batches batchParams).records =
      batchHeader :: listed.map (batchRecord formats)
  auditTrail : (exportAuditCsv formats db.auditTrail auditParams).records =
    auditHeader :: (Routes.getAuditTrail db.auditTrail auditParams).map (auditRecord formats)
  alarm : ∀ listed, (Routes.listAlarms db.alarms alarmParams now).2.data = some listed →
    ∀ alarm ∈ listed,
      (Routes.getAlarm db.alarms alarm.id).data.map Alarm.state = some alarm.state

variable {formats : TextFormats}

/-- No alarm whose shelving has expired is within the limit, as the shelved alarm that the table
still has or as the active one that the list makes of it. -/
def NoneExpired (alarms : AlarmTable) (params : AlarmQueryParams) (now : Instant) : Prop :=
  ∀ alarm ∈ alarms.rows, alarm.expired now → params.selects alarm ∨ params.selects alarm.unshelve →
    0 ≤ params.rowLimit ∧
      params.rowLimit ≤ alarms.count fun other ↦ alarm.id < other.id && params.selects other

theorem id_eq_of_alarmRecord_eq {alarm alarm' : Alarm}
    (h : alarmRecord formats alarm = alarmRecord formats alarm') : alarm.id = alarm'.id :=
  toString_int_inj (List.cons.inj h).1

theorem alarmRecord_unshelve_ne {now : Instant} {alarm : Alarm} (h : alarm.expired now) :
    alarmRecord formats alarm.unshelve ≠ alarmRecord formats alarm := by
  intro heq
  simp only [alarmRecord, List.cons.injEq] at heq
  have hstate : alarm.state = .shelved := by simpa using (Bool.and_eq_true_iff.mp h).1
  have hactive := AlarmState.debug_injective heq.2.2.2.2.2.1
  rw [hstate] at hactive
  cases hactive

theorem exportAlarmsCsv_eq_iff {alarms : AlarmTable} {params : AlarmQueryParams} {now : Instant} :
    (exportAlarmsCsv formats alarms params).records =
        alarmHeader :: (listAlarms (unshelveExpired alarms now) params).map (alarmRecord formats) ↔
      NoneExpired alarms params now := by
  unfold exportAlarmsCsv
  rw [List.cons_inj_right, eq_comm]
  exact RowTable.newest_updateWhere_iff (e := Alarm.expired now) (p := params.selects)
    (g := alarmRecord formats) (fun _ _ ↦ id_eq_of_alarmRecord_eq)
    fun alarm _ hexpired ↦ alarmRecord_unshelve_ne hexpired

theorem id_eq_of_auditRecord_eq {entry entry' : AuditEntry}
    (h : auditRecord formats entry = auditRecord formats entry') : entry.id = entry'.id :=
  toString_int_inj (List.cons.inj h).1

/-- Records of rows of one table are equal only for equal rows. -/
theorem map_auditRecord_inj {trail : AuditTable} {entries entries' : List AuditEntry}
    (hentries : ∀ entry ∈ entries, entry ∈ trail.rows)
    (hentries' : ∀ entry ∈ entries', entry ∈ trail.rows)
    (h : entries.map (auditRecord formats) = entries'.map (auditRecord formats)) :
    entries = entries' := by
  induction entries generalizing entries' with
  | nil => exact (List.map_eq_nil_iff.mp h.symm).symm
  | cons entry entries ih =>
      obtain ⟨entry', rest', rfl, hentry, hrest⟩ := List.map_eq_cons_iff.mp h.symm
      rw [List.forall_mem_cons] at hentries hentries'
      rw [RowTable.eq_of_rowid_eq hentries.1 hentries'.1 (id_eq_of_auditRecord_eq hentry.symm),
        ih hentries.2 hentries'.2 hrest.symm]

theorem exportAuditCsv_eq_iff {trail : AuditTable} {params : AuditQueryParams} {limit : Int64} :
    (exportAuditCsv formats trail { params with limit := some limit }).records =
        auditHeader :: (Routes.getAuditTrail trail { params with limit := some limit }).map
          (auditRecord formats) ↔
      ∀ entry ∈ trail.newest (fun _ ↦ true) limit.toInt, params.selects entry := by
  have hlisted : Routes.getAuditTrail trail { params with limit := some limit } =
      trail.newest params.selects limit.toInt := getAuditTrail_eq trail _
  unfold exportAuditCsv
  rw [List.cons_inj_right, hlisted, Option.getD_some, ← RowTable.newest_eq_newest_iff fun _ _ ↦ rfl,
    eq_comm]
  constructor
  · exact map_auditRecord_inj (fun _ hmem ↦ (RowTable.mem_of_mem_newest hmem).1)
      fun _ hmem ↦ (RowTable.mem_of_mem_newest hmem).1
  · exact congrArg _

/-- An alarm that list and export have alike has the listed state on its own. -/
theorem getAlarm_state_of_mem {alarms : AlarmTable} {params : AlarmQueryParams}
    {listed : List Alarm}
    (hsame : (exportAlarmsCsv formats alarms params).records =
      alarmHeader :: listed.map (alarmRecord formats)) {alarm : Alarm} (hmem : alarm ∈ listed) :
    (Routes.getAlarm alarms alarm.id).data.map Alarm.state = some alarm.state := by
  have hrecords := (List.cons.inj hsame).2
  have hrecord :
      alarmRecord formats alarm ∈ (listAlarms alarms params).map (alarmRecord formats) := by
    rw [hrecords]
    exact List.mem_map_of_mem hmem
  obtain ⟨row, hrow, heq⟩ := List.mem_map.mp hrecord
  have hfound : getAlarm alarms alarm.id = some row :=
    RowTable.byId_eq_some_iff.mpr ⟨(RowTable.mem_of_mem_newest hrow).1, id_eq_of_alarmRecord_eq heq⟩
  have hstate : row.state = alarm.state := by
    simp only [alarmRecord, List.cons.injEq] at heq
    exact AlarmState.debug_injective heq.2.2.2.2.2.1
  unfold Routes.getAlarm
  rw [hfound]
  exact congrArg some hstate

/-- **Agreement of the readers.** For every store, time and filter with a limit for the audit trail:
the readers agree exactly when no alarm whose shelving has expired is within the alarm limit, and
the newest entries of the audit trail, as many as its limit, all meet its filters. -/
theorem readersAgree_iff (formats : TextFormats) (db : ReadStore) (now : Instant)
    (alarmParams : AlarmQueryParams) (batchParams : BatchQueryParams)
    (auditParams : AuditQueryParams) (limit : Int64) :
    ReadersAgree formats db now alarmParams batchParams { auditParams with limit := some limit } ↔
      NoneExpired db.alarms alarmParams now ∧
        ∀ entry ∈ db.auditTrail.newest (fun _ ↦ true) limit.toInt, auditParams.selects entry := by
  constructor
  · intro h
    exact ⟨exportAlarmsCsv_eq_iff.mp (h.alarms _ rfl), exportAuditCsv_eq_iff.mp h.auditTrail⟩
  · rintro ⟨hnone, hfilters⟩
    have halarms : (exportAlarmsCsv formats db.alarms alarmParams).records =
        alarmHeader ::
          (listAlarms (unshelveExpired db.alarms now) alarmParams).map (alarmRecord formats) :=
      exportAlarmsCsv_eq_iff.mpr hnone
    refine ⟨fun listed hlisted ↦ ?_, fun listed hlisted ↦ ?_, exportAuditCsv_eq_iff.mpr hfilters,
      fun listed hlisted alarm hmem ↦ ?_⟩
    · obtain rfl := Option.some.inj hlisted
      exact halarms
    · obtain rfl := Option.some.inj hlisted
      rfl
    · obtain rfl := Option.some.inj hlisted
      exact getAlarm_state_of_mem halarms hmem

/-- A high temperature, shelved at the start for five minutes. -/
def shelvedStore : ReadStore where
  alarms :=
    let raised := raiseAlarm .empty ⟨"plc-01", 1028, "Temperature", .high, 95, 90, "High"⟩ 0
    (shelveAlarm raised.1 raised.2 "operator" 5 0).1
  batches := .empty
  auditTrail := .empty

/-- Whole numbers, and the full seconds of the first day of 1970. -/
def firstDayFormats : TextFormats where
  f64 := fun value ↦ toString value.num
  rfc3339 := fun now ↦
    let seconds := now / nanosPerSecond
    let twoDigits (n : ℕ) : String := String.ofList [(n / 10).digitChar, (n % 10).digitChar]
    "1970-01-01T" ++ twoDigits (seconds / 3600) ++ ":" ++ twoDigits (seconds / 60 % 60) ++ ":" ++
      twoDigits (seconds % 60) ++ "+00:00"

/-- Ten minutes later the list has the alarm as active, and the other readers have it as shelved. -/
theorem shelvedStore_disagrees :
    ¬ReadersAgree firstDayFormats shelvedStore (10 * nanosPerMinute) ⟨none, none, none, some 10⟩
      ⟨none, none, some 10⟩ ⟨none, none, none, some 10⟩ := by
  intro h
  have hstates : ∀ alarm ∈ listAlarms (unshelveExpired shelvedStore.alarms (10 * nanosPerMinute))
      ⟨none, none, none, some 10⟩,
      (Routes.getAlarm shelvedStore.alarms alarm.id).data.map Alarm.state = some alarm.state :=
    h.alarm _ rfl
  revert hstates
  decide

end VyuhHmi
