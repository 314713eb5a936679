import VyuhHmi.Foundation.Transition
import VyuhHmi.Server.Export
import VyuhHmi.Server.TimeSeries

/-!
# The history of readings

The polling tasks save every reading as a row of texts and numbers; the history route and the CSV
export read the newest rows of a device back, and the time-series adapter purges the old ones.  Over
any sequence of these operations the table stands for a plain list of readings: a save adds one at
the end, a purge removes the old ones, and a query gives the last ones of the device, the newest
first and as they were saved.
-/

namespace VyuhHmi

open Rfc3339 (toRfc3339 FourDigitYear)
open Transition

/-- What happens to the table.  An insert that the database refuses is logged and forgotten. -/
inductive HistoryOp
  | save (data : PlcData) (inserted : Bool)
  | purge (days : ℤ) (now : Rfc3339.Instant)

def savePlcData (readings : PlcReadings) (data : PlcData) (inserted : Bool) : PlcReadings :=
  if inserted then readings.insert data.toRow data.toRow_id else readings

/-- A row of a query; a text that does not parse drops it. -/
def PlcReading.toPlcData (parse : String → Option Rfc3339.Instant) (row : PlcReading) :
    Option PlcData :=
  (parse row.timestamp).map fun ts ↦
    ⟨row.deviceId, row.register.toUInt64.toUInt16, row.value, ts⟩

/-- Retrieve historical data: the last `limit` readings for a device. -/
def getHistory (parse : String → Option Rfc3339.Instant) (readings : PlcReadings)
    (deviceId : String) (limit : ℤ) : List PlcData :=
  (readings.newest (fun row ↦ row.deviceId == deviceId) limit).filterMap
    (PlcReading.toPlcData parse)

/-- Query param for the history endpoint and for its export. -/
structure HistoryParams where
  deviceId : String
  limit : Option Int64

/-- `GET /api/history`. -/
def Routes.getHistory (parse : String → Option Rfc3339.Instant) (readings : PlcReadings)
    (params : HistoryParams) : ApiResponse (List PlcData) :=
  .ok (VyuhHmi.getHistory parse readings params.deviceId (params.limit.getD 100).toInt)

def historyHeader : List String := ["device_id", "register", "value", "timestamp"]

/-- A row of the history export. -/
def historyRecord (f64 : ℚ → String) (data : PlcData) : List String :=
  [data.deviceId, toString data.register.toNat, f64 data.value, toRfc3339 data.timestamp]

/-- `GET /api/export/history.csv`. -/
def exportHistoryCsv (parse : String → Option Rfc3339.Instant) (f64 : ℚ → String)
    (readings : PlcReadings) (params : HistoryParams) : CsvFile where
  filename := params.deviceId ++ "_history.csv"
  records := historyHeader ::
    (VyuhHmi.getHistory parse readings params.deviceId (params.limit.getD 5000).toInt).map
      (historyRecord f64)

/-- `none` is the panic of a purge that reaches back too far. -/
def HistoryOp.apply (readings : PlcReadings) : HistoryOp → Option PlcReadings
  | .save data inserted => some (savePlcData readings data inserted)
  | .purge days now => (SqliteTimeSeries.purgeOlderThan readings days now).map Prod.fst

/-! ## The readings that are kept -/

/-- The instant up to which a purge removes readings. -/
def purgeCutoff (days : ℤ) (now : Rfc3339.Instant) : Rfc3339.Instant :=
  now - days * Rfc3339.nanosPerDay

/-- What the operations do to the readings themselves. -/
def HistoryOp.keep (kept : List PlcData) : HistoryOp → List PlcData
  | .save data inserted => if inserted then kept ++ [data] else kept
  | .purge days now => kept.filter fun data ↦ decide (purgeCutoff days now ≤ data.timestamp)

/-- The years are written with four digits, and the text of a saved time is read back. -/
def HistoryOp.Readable (parse : String → Option Rfc3339.Instant) : HistoryOp → Prop
  | .save data _ =>
      FourDigitYear data.timestamp ∧ parse (toRfc3339 data.timestamp) = some data.timestamp
  | .purge days now => Calendar.yearOf (Rfc3339.dayOf (purgeCutoff days now)) ≤ 9999

variable {parse : String → Option Rfc3339.Instant} {readings readings' : PlcReadings}
  {kept : List PlcData} {data : PlcData} {op : HistoryOp} {row : PlcReading}
  {rows : List PlcReading}

/-- The row stands for the reading. -/
structure StandsFor (parse : String → Option Rfc3339.Instant) (row : PlcReading)
    (data : PlcData) : Prop where
  row_eq : row = data.toRow row.id
  year : FourDigitYear data.timestamp
  parsed : parse (toRfc3339 data.timestamp) = some data.timestamp

/-! ## Refinement -/

theorem StandsFor.toPlcData (h : StandsFor parse row data) : row.toPlcData parse = some data := by
  have hregister : (data.toRow row.id).register.toUInt64.toUInt16 = data.register := by
    simp [PlcData.toRow]
  rw [h.row_eq, PlcReading.toPlcData, hregister, PlcData.toRow, h.parsed]
  rfl

theorem StandsFor.deviceId (h : StandsFor parse row data) : row.deviceId = data.deviceId :=
  congrArg PlcReading.deviceId h.row_eq

/-- Texts before the cutoff are instants before it. -/
theorem StandsFor.olderThan (h : StandsFor parse row data) {cutoff : Rfc3339.Instant}
    (hcutoff : Calendar.yearOf (Rfc3339.dayOf cutoff) ≤ 9999) :
    SqliteTimeSeries.olderThan (toRfc3339 cutoff) row = decide (data.timestamp < cutoff) := by
  have htext : row.timestamp = toRfc3339 data.timestamp := congrArg PlcReading.timestamp h.row_eq
  rw [SqliteTimeSeries.olderThan, htext, textBefore, decide_eq_decide]
  exact Rfc3339.bytes_toRfc3339_lt_iff_of_le h.year hcutoff

theorem filterMap_toPlcData (h : List.Forall₂ (StandsFor parse) rows kept) :
    rows.filterMap (PlcReading.toPlcData parse) = kept := by
  induction h with
  | nil => rfl
  | cons hhead _ ih => rw [List.filterMap_cons_some hhead.toPlcData, ih]

theorem countP_olderThan (h : List.Forall₂ (StandsFor parse) rows kept) {cutoff : Rfc3339.Instant}
    (hcutoff : Calendar.yearOf (Rfc3339.dayOf cutoff) ≤ 9999) :
    rows.countP (SqliteTimeSeries.olderThan (toRfc3339 cutoff)) =
      kept.countP fun data ↦ decide (data.timestamp < cutoff) := by
  induction h with
  | nil => rfl
  | cons hhead _ ih => rw [List.countP_cons, List.countP_cons, ih, hhead.olderThan hcutoff]

theorem forall₂_save (h : List.Forall₂ (StandsFor parse) readings.rows kept) {inserted : Bool}
    (hreadable : (HistoryOp.save data inserted).Readable parse) :
    List.Forall₂ (StandsFor parse) (savePlcData readings data inserted).rows
      (HistoryOp.keep kept (.save data inserted)) := by
  cases inserted with
  | false => exact h
  | true => exact List.rel_append h (.cons ⟨rfl, hreadable.1, hreadable.2⟩ .nil)

/-- A purge removes and counts the old readings. -/
theorem forall₂_purge (h : List.Forall₂ (StandsFor parse) readings.rows kept) {days : ℤ}
    {now : Rfc3339.Instant} {n : ℕ}
    (hcutoff : Calendar.yearOf (Rfc3339.dayOf (purgeCutoff days now)) ≤ 9999)
    (hpurge : SqliteTimeSeries.purgeOlderThan readings days now = some (readings', n)) :
    List.Forall₂ (StandsFor parse) readings'.rows (HistoryOp.keep kept (.purge days now)) ∧
      n = kept.countP fun data ↦ decide (data.timestamp < purgeCutoff days now) := by
  have hdone : readings.deleteWhere (SqliteTimeSeries.olderThan (toRfc3339 (purgeCutoff days now))) =
      readings' ∧ readings.count (SqliteTimeSeries.olderThan (toRfc3339 (purgeCutoff days now))) =
        n := by
    unfold SqliteTimeSeries.purgeOlderThan at hpurge
    dsimp only at hpurge
    split at hpurge
    case isTrue => exact Prod.mk.inj (Option.some.inj hpurge)
    case isFalse => cases hpurge
  obtain ⟨rfl, rfl⟩ := hdone
  refine ⟨List.rel_filter ?_ h, countP_olderThan h hcutoff⟩
  intro row data hrow
  simp only [hrow.olderThan hcutoff, ← decide_not, decide_eq_true_iff, not_lt]

/-- **One operation.** -/
theorem forall₂_apply (h : List.Forall₂ (StandsFor parse) readings.rows kept)
    (hreadable : op.Readable parse) (happly : op.apply readings = some readings') :
    List.Forall₂ (StandsFor parse) readings'.rows (op.keep kept) := by
  cases op with
  | save data inserted =>
      obtain rfl := Option.some.inj happly
      exact forall₂_save h hreadable
  | purge days now =>
      obtain ⟨⟨purged, n⟩, hpurge, rfl⟩ := Option.map_eq_some_iff.mp happly
      exact (forall₂_purge h hreadable hpurge).1

theorem forall₂_exec {ops : List HistoryOp} (hreadable : ∀ op ∈ ops, op.Readable parse)
    (hexec : exec HistoryOp.apply RowTable.empty ops = some readings) :
    List.Forall₂ (StandsFor parse) readings.rows (ops.foldl HistoryOp.keep []) := by
  induction ops using List.reverseRecOn generalizing readings with
  | nil =>
      obtain rfl : RowTable.empty = readings := by simpa [exec] using hexec
      exact .nil
  | append_singleton ops op ih =>
      rw [exec_append_singleton, Option.bind_eq_some_iff] at hexec
      obtain ⟨before, hbefore, hlast⟩ := hexec
      rw [List.forall_mem_append, List.forall_mem_singleton] at hreadable
      rw [List.foldl_append, List.foldl_cons, List.foldl_nil]
      exact forall₂_apply (ih hreadable.1 hbefore) hreadable.2 hlast

/-- The last readings of a device, the newest first. -/
def lastOf (kept : List PlcData) (deviceId : String) (limit : ℤ) : List PlcData :=
  RowTable.limited limit (kept.reverse.filter fun data ↦ decide (data.deviceId = deviceId))

theorem lastOf_begins {limit limit' : ℤ} (hpos : 0 ≤ limit) (hle : limit ≤ limit')
    (kept : List PlcData) (deviceId : String) :
    lastOf kept deviceId limit <+: lastOf kept deviceId limit' := by
  unfold lastOf RowTable.limited
  rw [if_neg hpos.not_gt, if_neg (hpos.trans hle).not_gt]
  exact List.take_prefix_take_left (Int.toNat_le_toNat hle)

theorem getHistory_eq (h : List.Forall₂ (StandsFor parse) readings.rows kept) (deviceId : String)
    (limit : ℤ) : getHistory parse readings deviceId limit = lastOf kept deviceId limit := by
  refine filterMap_toPlcData ?_
  have hdevice : List.Forall₂ (StandsFor parse)
      (readings.rows.reverse.filter fun row ↦ row.deviceId == deviceId)
      (kept.reverse.filter fun data ↦ decide (data.deviceId = deviceId)) := by
    refine List.rel_filter ?_ (List.rel_reverse h)
    intro row data hrow
    simp only [hrow.deviceId, beq_iff_eq, decide_eq_true_iff]
  unfold lastOf RowTable.newest RowTable.limited
  split
  case isTrue => exact hdevice
  case isFalse => exact List.forall₂_take _ hdevice

/-- **The history** after any sequence of saves, refused inserts and purges.  The route and the
export give the last readings of the device that have been inserted and not purged, the newest first
and as they were saved; without a limit the export begins with what the route answers.  A purge
counts the readings that it removes. -/
theorem history_refines {ops : List HistoryOp} (hreadable : ∀ op ∈ ops, op.Readable parse)
    (hexec : exec HistoryOp.apply RowTable.empty ops = some readings) :
    (∀ params, Routes.getHistory parse readings params =
      .ok (lastOf (ops.foldl HistoryOp.keep []) params.deviceId (params.limit.getD 100).toInt)) ∧
    (∀ f64 params, (exportHistoryCsv parse f64 readings params).records = historyHeader ::
      (lastOf (ops.foldl HistoryOp.keep []) params.deviceId (params.limit.getD 5000).toInt).map
        (historyRecord f64)) ∧
    (∀ f64 deviceId, ∃ answered,
      Routes.getHistory parse readings ⟨deviceId, none⟩ = .ok answered ∧
      answered.map (historyRecord f64) <+:
        (exportHistoryCsv parse f64 readings ⟨deviceId, none⟩).records.tail) ∧
    ∀ days now readings' n, Calendar.yearOf (Rfc3339.dayOf (purgeCutoff days now)) ≤ 9999 →
      SqliteTimeSeries.purgeOlderThan readings days now = some (readings', n) →
      n = (ops.foldl HistoryOp.keep []).countP fun data ↦
        decide (data.timestamp < purgeCutoff days now) := by
  have h := forall₂_exec hreadable hexec
  have hroute (params : HistoryParams) : Routes.getHistory parse readings params =
      .ok (lastOf (ops.foldl HistoryOp.keep []) params.deviceId (params.limit.getD 100).toInt) := by
    rw [Routes.getHistory, getHistory_eq h]
  have hexport (f64 : ℚ → String) (params : HistoryParams) :
      (exportHistoryCsv parse f64 readings params).records = historyHeader ::
        (lastOf (ops.foldl HistoryOp.keep []) params.deviceId (params.limit.getD 5000).toInt).map
          (historyRecord f64) := by
    rw [exportHistoryCsv, getHistory_eq h]
  refine ⟨hroute, hexport, fun f64 deviceId ↦ ⟨_, hroute _, ?_⟩, fun days now readings' n hcutoff
    hpurge ↦ (forall₂_purge h hcutoff hpurge).2⟩
  have hdefaults : (0 : ℤ) ≤ (100 : Int64).toInt ∧ (100 : Int64).toInt ≤ (5000 : Int64).toInt := by
    decide
  rw [hexport, List.tail_cons]
  exact (lastOf_begins hdefaults.1 hdefaults.2 _ _).map _

/-! ## A concrete history -/

def parseMorning (text : String) : Option Rfc3339.Instant :=
  if text = "2024-01-15T10:30:00+00:00" then some 1705314600000000000
  else if text = "2024-01-15T10:30:01+00:00" then some 1705314601000000000
  else none

/-- Two readings and one that is not inserted. -/
def morningOps : List HistoryOp :=
  [.save ⟨"plc-01", 1028, 75, 1705314600000000000⟩ true,
    .save ⟨"plc-02", 1028, 80, 1705314600000000000⟩ false,
    .save ⟨"plc-01", 1029, 3, 1705314601000000000⟩ true]

theorem history_refines_morningOps :
    ∃ readings, exec HistoryOp.apply RowTable.empty morningOps = some readings ∧
      Routes.getHistory parseMorning readings ⟨"plc-01", some 1⟩ =
        .ok [⟨"plc-01", 1029, 3, 1705314601000000000⟩] := by
  have hreadable : ∀ op ∈ morningOps, op.Readable parseMorning := by
    simp only [morningOps, List.forall_mem_cons, List.not_mem_nil, false_imp_iff, implies_true,
      HistoryOp.Readable, and_true]
    decide
  obtain ⟨readings, hexec⟩ : ∃ readings,
      exec HistoryOp.apply RowTable.empty morningOps = some readings := ⟨_, rfl⟩
  refine ⟨readings, hexec, ((history_refines hreadable hexec).1 _).trans ?_⟩
  decide

end VyuhHmi
