import Mathlib.Data.List.Nodup
import VyuhHmi.Models

/-!
# The batch record store

The statements of `db.rs` on the `batch_records` table that the polling engine uses.  The column
`batch_id` is `UNIQUE`: the table carries that as a field, and an insert whose `batch_id` is taken
fails and leaves the table as it was.
-/

namespace VyuhHmi

/-- The `batch_records` table. -/
structure BatchTable extends RowTable BatchRecord BatchRecord.id where
  unique : (rows.map BatchRecord.batchId).Nodup

namespace BatchTable

/-- A freshly created table. -/
def empty : BatchTable where
  toRowTable := .empty
  unique := List.nodup_nil

def batchIds (batches : BatchTable) : List String := batches.rows.map BatchRecord.batchId

/-- `INSERT INTO batch_records`, with a `batch_id` that is not taken. -/
def insertFresh (batches : BatchTable) {batchId : String} (hfresh : batchId ∉ batches.batchIds)
    (row : ℤ → BatchRecord) (hrow : ∀ n, (row n).id = n)
    (hbatchId : ∀ n, (row n).batchId = batchId) : BatchTable where
  toRowTable := batches.insert row hrow
  unique := by
    rw [RowTable.rows_insert, List.map_append, List.nodup_append]
    refine ⟨batches.unique, List.nodup_singleton _, fun taken htaken added hadded ↦ ?_⟩
    rw [List.map_singleton, List.mem_singleton, hbatchId] at hadded
    rintro rfl
    exact hfresh (hadded ▸ htaken)

/-- `UPDATE batch_records SET ... WHERE batch_id = ?`. -/
def updateByBatchId (batches : BatchTable) (batchId : String) (f : BatchRecord → BatchRecord)
    (hid : ∀ r, (f r).id = r.id) (hbatchId : ∀ r, (f r).batchId = r.batchId) : BatchTable where
  toRowTable := batches.updateWhere (fun r ↦ r.batchId == batchId) f hid
  unique := by
    rw [RowTable.rows_updateWhere, List.map_map]
    convert batches.unique using 2
    funext r
    by_cases h : r.batchId = batchId <;> simp [h, hbatchId]

@[simp] theorem rows_empty : empty.rows = [] := rfl

@[simp] theorem rows_insertFresh (batches : BatchTable) {batchId : String}
    (hfresh : batchId ∉ batches.batchIds) (row : ℤ → BatchRecord) (hrow : ∀ n, (row n).id = n)
    (hbatchId : ∀ n, (row n).batchId = batchId) :
    (batches.insertFresh hfresh row hrow hbatchId).rows =
      batches.rows ++ [row (batches.seq + 1)] := rfl

@[simp] theorem rows_updateByBatchId (batches : BatchTable) (batchId : String)
    (f : BatchRecord → BatchRecord) (hid : ∀ r, (f r).id = r.id)
    (hbatchId : ∀ r, (f r).batchId = r.batchId) :
    (batches.updateByBatchId batchId f hid hbatchId).rows =
      batches.rows.map fun r ↦ if r.batchId == batchId then f r else r := rfl

@[simp] theorem batchIds_updateByBatchId (batches : BatchTable) (batchId : String)
    (f : BatchRecord → BatchRecord) (hid : ∀ r, (f r).id = r.id)
    (hbatchId : ∀ r, (f r).batchId = r.batchId) :
    (batches.updateByBatchId batchId f hid hbatchId).batchIds = batches.batchIds := by
  unfold batchIds
  rw [rows_updateByBatchId, List.map_map]
  congr 1
  funext r
  by_cases h : r.batchId = batchId <;> simp [h, hbatchId]

/-- Rows with one `batch_id` are one row. -/
theorem id_eq_iff_batchId_eq {batches : BatchTable} {r s : BatchRecord} (hr : r ∈ batches.rows)
    (hs : s ∈ batches.rows) : r.batchId = s.batchId ↔ r.id = s.id := by
  constructor
  · intro h
    rw [List.inj_on_of_nodup_map batches.unique hr hs h]
  · intro h
    rw [RowTable.eq_of_rowid_eq hr hs h]

end BatchTable

/-- The row that `create_batch` inserts. -/
def newBatch (batchId recipeName deviceId operator : String) (now : Instant) (id : ℤ) :
    BatchRecord where
  id := id
  batchId := batchId
  recipeName := recipeName
  deviceId := deviceId
  operator := operator
  status := .running
  startTime := now
  endTime := none
  notes := none

@[simp] theorem newBatch_id (batchId recipeName deviceId operator : String) (now : Instant)
    (id : ℤ) : (newBatch batchId recipeName deviceId operator now id).id = id := rfl

@[simp] theorem newBatch_batchId (batchId recipeName deviceId operator : String) (now : Instant)
    (id : ℤ) : (newBatch batchId recipeName deviceId operator now id).batchId = batchId := rfl

/-- Create a new batch record; no row id when `batch_id` is taken. -/
def createBatch (batches : BatchTable) (batchId recipeName deviceId operator : String)
    (now : Instant) : BatchTable × Option ℤ :=
  if h : batchId ∈ batches.batchIds then (batches, none)
  else
    (batches.insertFresh h (newBatch batchId recipeName deviceId operator now)
      (newBatch_id batchId recipeName deviceId operator now)
      (newBatch_batchId batchId recipeName deviceId operator now), some (batches.seq + 1))

/-- The rows that count as running batches of a device. -/
def BatchRecord.runningOf (deviceId : String) (record : BatchRecord) : Bool :=
  record.deviceId == deviceId && record.status == .running

/-- Get the most recent running batch for a device. -/
def getRunningBatch (batches : BatchTable) (deviceId : String) : Option (ℤ × String) :=
  (batches.latest (BatchRecord.runningOf deviceId)).map fun record ↦ (record.id, record.batchId)

/-- The columns that `update_batch_status` sets: an absent end time or note keeps the old one. -/
def BatchRecord.withStatus (status : BatchStatus) (notes : Option String) (now : Instant)
    (record : BatchRecord) : BatchRecord :=
  let endTime := if status = .completed ∨ status = .aborted then some now else none
  { record with
    status := status
    endTime := endTime.or record.endTime
    notes := notes.or record.notes }

theorem withStatus_id (status : BatchStatus) (notes : Option String) (now : Instant)
    (record : BatchRecord) : (record.withStatus status notes now).id = record.id := rfl

theorem withStatus_batchId (status : BatchStatus) (notes : Option String) (now : Instant)
    (record : BatchRecord) : (record.withStatus status notes now).batchId = record.batchId := rfl

/-- Update batch status. -/
def updateBatchStatus (batches : BatchTable) (batchId : String) (status : BatchStatus)
    (notes : Option String) (now : Instant) : BatchTable :=
  batches.updateByBatchId batchId (BatchRecord.withStatus status notes now)
    (withStatus_id status notes now) (withStatus_batchId status notes now)

theorem createBatch_of_mem {batches : BatchTable} {batchId : String}
    (h : batchId ∈ batches.batchIds) (recipeName deviceId operator : String) (now : Instant) :
    (createBatch batches batchId recipeName deviceId operator now).1 = batches := by
  simp [createBatch, h]

theorem rows_createBatch_of_notMem {batches : BatchTable} {batchId : String}
    (h : batchId ∉ batches.batchIds) (recipeName deviceId operator : String) (now : Instant) :
    (createBatch batches batchId recipeName deviceId operator now).1.rows =
      batches.rows ++ [newBatch batchId recipeName deviceId operator now (batches.seq + 1)] := by
  simp [createBatch, h]

/-- Whether or not the insert succeeds, the `batch_id` is taken afterwards. -/
theorem mem_batchIds_createBatch {batches : BatchTable} {batchId batchId' : String}
    (recipeName deviceId operator : String) (now : Instant) :
    batchId' ∈ (createBatch batches batchId recipeName deviceId operator now).1.batchIds ↔
      batchId' ∈ batches.batchIds ∨ batchId' = batchId := by
  by_cases h : batchId ∈ batches.batchIds
  · rw [createBatch_of_mem h]
    constructor
    · exact Or.inl
    · rintro (hmem | rfl)
      · exact hmem
      · exact h
  · rw [BatchTable.batchIds, rows_createBatch_of_notMem h]
    simp [BatchTable.batchIds, newBatch]

@[simp] theorem batchIds_updateBatchStatus (batches : BatchTable) (batchId : String)
    (status : BatchStatus) (notes : Option String) (now : Instant) :
    (updateBatchStatus batches batchId status notes now).batchIds = batches.batchIds :=
  BatchTable.batchIds_updateByBatchId batches batchId _ _ _

/-- The most recently inserted batch of a device is the one a status change finds, and the only
row that the change touches. -/
theorem updateBatchStatus_latest {batches : BatchTable} {older : List BatchRecord}
    {record : BatchRecord} {deviceId : String} (hrows : batches.rows = older ++ [record])
    (hrunning : record.runningOf deviceId) (status : BatchStatus) (notes : Option String)
    (now : Instant) :
    getRunningBatch batches deviceId = some (record.id, record.batchId) ∧
      (updateBatchStatus batches record.batchId status notes now).rows =
        batches.rows.map fun r ↦ if r.id = record.id then r.withStatus status notes now else r := by
  have hmem : record ∈ batches.rows := by simp [hrows]
  constructor
  · have hlatest : batches.latest (BatchRecord.runningOf deviceId) = some record := by
      simp [RowTable.latest, hrows, hrunning]
    simp [getRunningBatch, hlatest]
  · unfold updateBatchStatus
    rw [BatchTable.rows_updateByBatchId]
    apply List.map_congr_left
    intro r hr
    simp only [beq_iff_eq, BatchTable.id_eq_iff_batchId_eq hr hmem]

end VyuhHmi
