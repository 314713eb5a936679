import Mathlib.Data.List.Sort
import VyuhHmi.Alarm.Store
import VyuhHmi.Foundation.Rfc3339

/-!
# Times in the database

The database holds every time as an RFC 3339 text, and three statements compare such texts: the one
that un-shelves expired alarms, the one that purges old readings and the one that selects the
readings of a time range.  They do what the same comparisons of the instants would do, as long as
the years have four digits.
-/

namespace VyuhHmi

open FixedWidth (bytes)
open Rfc3339 (toRfc3339 FourDigitYear)

/-- `<` of two text columns: `memcmp` of their bytes. -/
def textBefore (text text' : String) : Bool := decide (bytes text < bytes text')

/-! ## Rows -/

/-- A row of the `plc_readings` table. -/
structure PlcReading where
  id : ℤ
  deviceId : String
  register : Int64
  value : ℚ
  timestamp : String
deriving DecidableEq

/-- The `plc_readings` table. -/
abbrev PlcReadings := RowTable PlcReading PlcReading.id

/-- What `insert` binds. -/
def PlcData.toRow (data : PlcData) (id : ℤ) : PlcReading where
  id := id
  deviceId := data.deviceId
  register := data.register.toUInt64.toInt64
  value := data.value
  timestamp := toRfc3339 data.timestamp

@[simp] theorem PlcData.toRow_id (data : PlcData) (id : ℤ) : (data.toRow id).id = id := rfl

/-- A row of the `alarms` table, column by column. -/
structure AlarmRow where
  id : ℤ
  deviceId : String
  register : Int64
  label : String
  priority : ℤ
  state : String
  value : ℚ
  threshold : ℚ
  message : String
  timestamp : String
  ackedBy : Option String
  ackedAt : Option String
  shelvedUntil : Option String
  shelvedBy : Option String
  clearedAt : Option String
deriving DecidableEq

/-- The text of an instant after the epoch. -/
def textOf (now : Instant) : String := toRfc3339 now

/-- The columns of an alarm record. -/
def Alarm.toRow (alarm : Alarm) : AlarmRow where
  id := alarm.id
  deviceId := alarm.deviceId
  register := alarm.register.toUInt64.toInt64
  label := alarm.label
  priority := alarm.priority.asI32
  state := alarm.state.asStr
  value := alarm.value
  threshold := alarm.threshold
  message := alarm.message
  timestamp := textOf alarm.timestamp
  ackedBy := alarm.ackedBy
  ackedAt := alarm.ackedAt.map textOf
  shelvedUntil := alarm.shelvedUntil.map textOf
  shelvedBy := alarm.shelvedBy
  clearedAt := alarm.clearedAt.map textOf

/-! ## Statements -/

namespace AlarmRow

/-- `state = 'shelved' AND shelved_until IS NOT NULL AND shelved_until < ?`. -/
def expired (now : Rfc3339.Instant) (row : AlarmRow) : Bool :=
  row.state == "shelved" && row.shelvedUntil.any fun text ↦ textBefore text (toRfc3339 now)

def unshelve (row : AlarmRow) : AlarmRow :=
  { row with state := "active", shelvedUntil := none, shelvedBy := none }

@[simp] theorem unshelve_id (row : AlarmRow) : row.unshelve.id = row.id := rfl

/-- Un-shelve expired alarms. -/
def unshelveExpired (rows : RowTable AlarmRow AlarmRow.id) (now : Rfc3339.Instant) :
    RowTable AlarmRow AlarmRow.id :=
  rows.updateWhere (expired now) unshelve unshelve_id

end AlarmRow

namespace SqliteTimeSeries

def insert (readings : PlcReadings) (data : PlcData) : PlcReadings :=
  readings.insert data.toRow data.toRow_id

/-- `device_id = ? AND timestamp >= ? AND timestamp <= ?`. -/
def inRange (deviceId from_ to_ : String) (row : PlcReading) : Bool :=
  row.deviceId == deviceId && !textBefore row.timestamp from_ && !textBefore to_ row.timestamp

/-- `ORDER BY timestamp DESC`. -/
def latestFirst (row row' : PlcReading) : Prop := textBefore row.timestamp row'.timestamp = false

instance : DecidableRel latestFirst := fun row row' ↦
  inferInstanceAs (Decidable (textBefore row.timestamp row'.timestamp = false))

/-- What a query makes of a row; a text that does not parse gives the time of the query. -/
def toPlcData (parse : String → Option Rfc3339.Instant) (now : Rfc3339.Instant)
    (row : PlcReading) : PlcData where
  deviceId := row.deviceId
  register := row.register.toUInt64.toUInt16
  value := row.value
  timestamp := (parse row.timestamp).getD now

/-- Query history for a device within a time range. -/
def queryRange (parse : String → Option Rfc3339.Instant) (readings : PlcReadings)
    (deviceId from_ to_ : String) (limit : ℤ) (now : Rfc3339.Instant) : List PlcData :=
  (RowTable.limited limit
    ((readings.rows.filter (inRange deviceId from_ to_)).insertionSort latestFirst)).map
      (toPlcData parse now)

/-- `timestamp < ?`. -/
def olderThan (cutoff : String) (row : PlcReading) : Bool := textBefore row.timestamp cutoff

/-- Delete readings older than `days` days, and count them.  `none` is the panic of a subtraction
that leaves the instants there are. -/
def purgeOlderThan (readings : PlcReadings) (days : ℤ) (now : Rfc3339.Instant) :
    Option (PlcReadings × ℕ) :=
  let cutoff := now - days * Rfc3339.nanosPerDay
  if Rfc3339.InRange cutoff then
    some (readings.deleteWhere (olderThan (toRfc3339 cutoff)),
      readings.count (olderThan (toRfc3339 cutoff)))
  else none

end SqliteTimeSeries

/-! ## The statements on instants -/

section Instants

variable {t t' now from_ to_ : Rfc3339.Instant}

theorem textBefore_toRfc3339 (ht : FourDigitYear t) (ht' : FourDigitYear t') :
    textBefore (toRfc3339 t) (toRfc3339 t') = decide (t < t') := by
  unfold textBefore
  rw [decide_eq_decide]
  exact Rfc3339.bytes_toRfc3339_lt_iff ht ht'

/-- The texts of the `shelved_until` column were written for these instants. -/
def ShelvedUntil (rows : RowTable AlarmRow AlarmRow.id)
    (expiry : AlarmRow → Option Rfc3339.Instant) : Prop :=
  ∀ row ∈ rows.rows, row.shelvedUntil = (expiry row).map toRfc3339 ∧
    ∀ t ∈ expiry row, FourDigitYear t

/-- The texts of the `timestamp` column were written for these instants, and parse to them. -/
def ReadAt (parse : String → Option Rfc3339.Instant) (readings : PlcReadings)
    (time : PlcReading → Rfc3339.Instant) : Prop :=
  ∀ row ∈ readings.rows, FourDigitYear (time row) ∧ row.timestamp = toRfc3339 (time row) ∧
    parse row.timestamp = some (time row)

/-- The first `limit` of these rows, if the latest come first. -/
def IsLatest {α : Type} (time : α → Rfc3339.Instant) (candidates : List α) (limit : ℤ)
    (result : List α) : Prop :=
  ∃ sorted : List α, sorted.Perm candidates ∧ sorted.Pairwise (fun a b ↦ time b ≤ time a) ∧
    result = RowTable.limited limit sorted

/-- **Un-shelving.** -/
theorem rows_unshelveExpired {rows : RowTable AlarmRow AlarmRow.id}
    {expiry : AlarmRow → Option Rfc3339.Instant} (hrows : ShelvedUntil rows expiry)
    (hnow : FourDigitYear now) :
    (AlarmRow.unshelveExpired rows now).rows = rows.rows.map fun row ↦
      if row.state = "shelved" ∧ (expiry row).any (· < now) then row.unshelve else row := by
  rw [AlarmRow.unshelveExpired, RowTable.rows_updateWhere]
  apply List.map_congr_left
  intro row hmem
  obtain ⟨htext, hyear⟩ := hrows row hmem
  have hexpired : row.expired now =
      (row.state == "shelved" && (expiry row).any fun t ↦ decide (t < now)) := by
    unfold AlarmRow.expired
    rw [htext]
    cases hexpiry : expiry row with
    | none => rfl
    | some t =>
        rw [Option.map_some, Option.any_some, Option.any_some,
          textBefore_toRfc3339 (hyear t hexpiry) hnow]
  rw [hexpired]
  congr 1
  rw [Bool.and_eq_true, beq_iff_eq]

/-- The alarm records of the other modules, which hold the instants themselves, are un-shelved as
their columns are. -/
theorem unshelveExpired_toRow {alarms : AlarmTable} {rows : RowTable AlarmRow AlarmRow.id}
    {now : VyuhHmi.Instant} (hrows : rows.rows = alarms.rows.map Alarm.toRow)
    (hyear : ∀ alarm ∈ alarms.rows, ∀ t ∈ alarm.shelvedUntil, FourDigitYear t)
    (hnow : FourDigitYear now) :
    (AlarmRow.unshelveExpired rows now).rows =
      (unshelveExpired alarms now).rows.map Alarm.toRow := by
  rw [AlarmRow.unshelveExpired, unshelveExpired, RowTable.rows_updateWhere,
    RowTable.rows_updateWhere, hrows, List.map_map, List.map_map]
  apply List.map_congr_left
  intro alarm hmem
  have hstate : (alarm.state.asStr == "shelved") = (alarm.state == .shelved) := by
    cases alarm.state <;> decide
  have hexpired : alarm.toRow.expired now = alarm.expired now := by
    unfold AlarmRow.expired Alarm.expired
    rw [Alarm.toRow, hstate]
    cases huntil : alarm.shelvedUntil with
    | none => rfl
    | some t =>
        have ht := textBefore_toRfc3339 (hyear alarm hmem t huntil) hnow
        rw [Option.map_some, Option.any_some, Option.any_some, textOf, ht]
        simp
  rw [Function.comp_apply, Function.comp_apply, hexpired]
  split <;> rfl

variable {parse : String → Option Rfc3339.Instant} {readings : PlcReadings}
  {time : PlcReading → Rfc3339.Instant}

open SqliteTimeSeries

/-- **Purging.** -/
theorem purgeOlderThan_eq (hread : ReadAt parse readings time) {days : ℤ}
    (hrange : Rfc3339.InRange (now - days * Rfc3339.nanosPerDay))
    (hcutoff : Calendar.yearOf (Rfc3339.dayOf (now - days * Rfc3339.nanosPerDay)) ≤ 9999) :
    ∃ kept, purgeOlderThan readings days now = some (kept,
        readings.rows.countP fun row ↦ time row < now - days * Rfc3339.nanosPerDay) ∧
      kept.rows =
        readings.rows.filter fun row ↦ ¬ time row < now - days * Rfc3339.nanosPerDay := by
  unfold purgeOlderThan
  generalize now - days * Rfc3339.nanosPerDay = cutoff at hrange hcutoff ⊢
  have holder (row : PlcReading) (hmem : row ∈ readings.rows) :
      olderThan (toRfc3339 cutoff) row = decide (time row < cutoff) := by
    obtain ⟨hyear, htext, -⟩ := hread row hmem
    rw [olderThan, htext, textBefore, decide_eq_decide]
    exact Rfc3339.bytes_toRfc3339_lt_iff_of_le hyear hcutoff
  have hcount : readings.count (olderThan (toRfc3339 cutoff)) =
      readings.rows.countP fun row ↦ time row < cutoff := by
    apply List.countP_congr
    intro row hmem
    rw [holder row hmem]
  refine ⟨readings.deleteWhere (olderThan (toRfc3339 cutoff)), ?_, ?_⟩
  · rw [← hcount]
    exact if_pos hrange
  · rw [RowTable.rows_deleteWhere]
    apply List.filter_congr
    intro row hmem
    rw [holder row hmem, decide_not]

/-- **Ranges.** -/
theorem queryRange_eq (hread : ReadAt parse readings time) (hfrom : FourDigitYear from_)
    (hto : FourDigitYear to_) (deviceId : String) (limit : ℤ) (now : Rfc3339.Instant) :
    ∃ latest, IsLatest time (readings.rows.filter fun row ↦
        row.deviceId = deviceId ∧ from_ ≤ time row ∧ time row ≤ to_) limit latest ∧
      queryRange parse readings deviceId (toRfc3339 from_) (toRfc3339 to_) limit now =
        latest.map fun row ↦
          ⟨row.deviceId, row.register.toUInt64.toUInt16, row.value, time row⟩ := by
  let later (row row' : PlcReading) : Prop := time row' ≤ time row
  have htotal : Std.Total later := ⟨fun row row' ↦ le_total (time row') (time row)⟩
  have htrans : IsTrans PlcReading later := ⟨fun _ _ _ h h' ↦ le_trans h' h⟩
  have hrange : readings.rows.filter (inRange deviceId (toRfc3339 from_) (toRfc3339 to_)) =
      readings.rows.filter fun row ↦
        row.deviceId = deviceId ∧ from_ ≤ time row ∧ time row ≤ to_ := by
    apply List.filter_congr
    intro row hmem
    obtain ⟨hyear, htext, -⟩ := hread row hmem
    unfold inRange
    rw [htext, textBefore_toRfc3339 hyear hfrom, textBefore_toRfc3339 hto hyear]
    rw [Bool.eq_iff_iff]
    simp only [Bool.and_eq_true, beq_iff_eq, Bool.not_eq_true', decide_eq_false_iff_not, not_lt,
      decide_eq_true_eq, and_assoc]
  let candidates := readings.rows.filter fun row ↦
    row.deviceId = deviceId ∧ from_ ≤ time row ∧ time row ≤ to_
  have hread' (row : PlcReading) (hmem : row ∈ candidates) := hread row (List.mem_of_mem_filter hmem)
  have hsorted : candidates.insertionSort latestFirst = candidates.insertionSort later := by
    have hmap := List.map_insertionSort latestFirst later id candidates fun row hmem row' hmem' ↦ by
      obtain ⟨hyear, htext, -⟩ := hread' row hmem
      obtain ⟨hyear', htext', -⟩ := hread' row' hmem'
      unfold latestFirst
      rw [htext, htext', textBefore_toRfc3339 hyear hyear', decide_eq_false_iff_not, not_lt]
      rfl
    simpa using hmap
  refine ⟨RowTable.limited limit (candidates.insertionSort later),
    ⟨_, List.perm_insertionSort later candidates, List.pairwise_insertionSort later candidates,
      rfl⟩, ?_⟩
  unfold queryRange
  rw [hrange, hsorted]
  apply List.map_congr_left
  intro row hmem
  have hrow := (List.mem_insertionSort later).mp (RowTable.mem_of_mem_limited hmem)
  rw [toPlcData, (hread' row hrow).2.2, Option.getD_some]

end Instants

/-! ## Times as texts -/

/-- **Times as texts.**  The texts are in the order of their instants, and the three statements do
what they would do on the instants. -/
theorem times_compared_as_texts :
    (∀ t t' : Rfc3339.Instant, FourDigitYear t → FourDigitYear t' →
      (bytes (toRfc3339 t) < bytes (toRfc3339 t') ↔ t < t')) ∧
    (∀ (rows : RowTable AlarmRow AlarmRow.id) (expiry : AlarmRow → Option Rfc3339.Instant)
      (now : Rfc3339.Instant), ShelvedUntil rows expiry → FourDigitYear now →
      (AlarmRow.unshelveExpired rows now).rows = rows.rows.map fun row ↦
        if row.state = "shelved" ∧ (expiry row).any (· < now) then row.unshelve else row) ∧
    ∀ (parse : String → Option Rfc3339.Instant) (readings : PlcReadings)
      (time : PlcReading → Rfc3339.Instant) (now : Rfc3339.Instant), ReadAt parse readings time →
      (∀ days : ℤ, Rfc3339.InRange (now - days * Rfc3339.nanosPerDay) →
        Calendar.yearOf (Rfc3339.dayOf (now - days * Rfc3339.nanosPerDay)) ≤ 9999 →
        ∃ kept, SqliteTimeSeries.purgeOlderThan readings days now = some (kept,
            readings.rows.countP fun row ↦ time row < now - days * Rfc3339.nanosPerDay) ∧
          kept.rows =
            readings.rows.filter fun row ↦ ¬ time row < now - days * Rfc3339.nanosPerDay) ∧
      ∀ (deviceId : String) (from_ to_ : Rfc3339.Instant) (limit : ℤ), FourDigitYear from_ →
        FourDigitYear to_ →
        ∃ latest, IsLatest time (readings.rows.filter fun row ↦
            row.deviceId = deviceId ∧ from_ ≤ time row ∧ time row ≤ to_) limit latest ∧
          SqliteTimeSeries.queryRange parse readings deviceId (toRfc3339 from_) (toRfc3339 to_)
            limit now = latest.map fun row ↦
              ⟨row.deviceId, row.register.toUInt64.toUInt16, row.value, time row⟩ := by
  refine ⟨fun t t' ↦ Rfc3339.bytes_toRfc3339_lt_iff, fun rows expiry now ↦ rows_unshelveExpired,
    fun parse readings time now hread ↦ ⟨fun days ↦ purgeOlderThan_eq hread, ?_⟩⟩
  intro deviceId from_ to_ limit hfrom hto
  exact queryRange_eq hread hfrom hto deviceId limit now

/-- A shelf that ended 30 ms ago, and a table with a reading of now and one of eight days ago. -/
theorem times_compared_as_texts_eightDays :
    (AlarmRow.unshelveExpired ⟨[⟨1, "plc-01", 1028, "Temp", 2, "shelved", 91, 90, "", "", none, none,
        some "2024-01-15T10:29:59.970+00:00", some "op", none⟩], 1, by decide, by decide⟩
        1705314600000000000).rows.map AlarmRow.state = ["active"] ∧
      (SqliteTimeSeries.purgeOlderThan ⟨[⟨1, "plc-01", 1028, 41, "2024-01-07T10:30:00+00:00"⟩,
        ⟨2, "plc-01", 1028, 42, "2024-01-15T10:30:00.120+00:00"⟩], 2, by decide, by decide⟩ 7
        1705314600120000000).map Prod.snd = some 1 := by
  obtain ⟨-, hunshelve, hreadings⟩ := times_compared_as_texts
  constructor
  · have h := hunshelve ⟨[⟨1, "plc-01", 1028, "Temp", 2, "shelved", 91, 90, "", "", none, none,
        some "2024-01-15T10:29:59.970+00:00", some "op", none⟩], 1, by decide, by decide⟩
      (fun _ ↦ some 1705314599970000000) 1705314600000000000 (by
        rw [ShelvedUntil, List.forall_mem_singleton]
        exact ⟨by decide, by rintro t ⟨⟩; decide⟩) (by decide)
    rw [h]
    decide
  · let time (row : PlcReading) : Rfc3339.Instant :=
      if row.id = 1 then 1704623400000000000 else 1705314600120000000
    let parse (text : String) : Option Rfc3339.Instant :=
      if text = "2024-01-07T10:30:00+00:00" then some 1704623400000000000
      else if text = "2024-01-15T10:30:00.120+00:00" then some 1705314600120000000 else none
    obtain ⟨kept, h, -⟩ := (hreadings parse ⟨[⟨1, "plc-01", 1028, 41, "2024-01-07T10:30:00+00:00"⟩,
        ⟨2, "plc-01", 1028, 42, "2024-01-15T10:30:00.120+00:00"⟩], 2, by decide, by decide⟩ time
        1705314600120000000 (by
          rw [ReadAt, List.forall_mem_cons, List.forall_mem_singleton]
          exact ⟨⟨by decide, by decide, by decide⟩, ⟨by decide, by decide, by decide⟩⟩)).1 7
        (by decide) (by decide)
    rw [h]
    rfl

end VyuhHmi
