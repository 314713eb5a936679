import Mathlib.Data.List.Nodup
import VyuhHmi.Device.Persistence
import VyuhHmi.Foundation.EventMap

/-!
# Saved devices

The statements of `db.rs` on the `devices` table.  Its primary key is the device id: a save replaces
the row of the id, a delete removes it.  What is loaded for an id is the configuration of the last
save, field by field, through the signed columns and the JSON text of the writable registers.
-/

namespace VyuhHmi

/-- The `devices` table. -/
structure DeviceTable where
  rows : List DeviceRow
  unique : (rows.map DeviceRow.id).Nodup

/-- A call that changes the `devices` table. -/
inductive DeviceTableCall
  | saveDevice (dev : DeviceConfig)
  | deleteDevice (deviceId : String)
deriving DecidableEq

namespace DeviceTableCall

def deviceId : DeviceTableCall → String
  | .saveDevice dev => dev.id
  | .deleteDevice deviceId => deviceId

/-- What the call leaves for its device id. -/
def saved : DeviceTableCall → Option DeviceConfig
  | .saveDevice dev => some dev
  | .deleteDevice _ => none

end DeviceTableCall

namespace DeviceTable

/-- A freshly created table. -/
def empty : DeviceTable := ⟨[], List.nodup_nil⟩

/-- `DELETE FROM devices WHERE id = ?`. -/
def delete (table : DeviceTable) (deviceId : String) : DeviceTable where
  rows := table.rows.filter fun row ↦ row.id != deviceId
  unique := table.unique.sublist (List.filter_sublist.map _)

/-- `INSERT OR REPLACE INTO devices`. -/
def replace (table : DeviceTable) (row : DeviceRow) : DeviceTable where
  rows := (table.delete row.id).rows ++ [row]
  unique := by
    rw [List.map_append, List.nodup_append]
    refine ⟨(table.delete row.id).unique, List.nodup_singleton _, fun kept hkept added hadded ↦ ?_⟩
    obtain ⟨other, hother, rfl⟩ := List.mem_map.mp hkept
    have hne := (List.mem_filter.mp hother).2
    rw [List.mem_singleton.mp hadded]
    exact bne_iff_ne.mp hne

@[simp] theorem rows_delete (table : DeviceTable) (deviceId : String) :
    (table.delete deviceId).rows = table.rows.filter fun row ↦ row.id != deviceId := rfl

@[simp] theorem rows_replace (table : DeviceTable) (row : DeviceRow) :
    (table.replace row).rows = (table.delete row.id).rows ++ [row] := rfl

/-- Save a runtime-added device to the database. -/
def saveDevice (table : DeviceTable) (dev : DeviceConfig) : DeviceTable := table.replace dev.toRow

/-- Remove a runtime-added device from the database. -/
def deleteDevice (table : DeviceTable) (deviceId : String) : DeviceTable := table.delete deviceId

def apply (table : DeviceTable) : DeviceTableCall → DeviceTable
  | .saveDevice dev => table.saveDevice dev
  | .deleteDevice deviceId => table.deleteDevice deviceId

/-- The table after some calls. -/
def run (calls : List DeviceTableCall) : DeviceTable := calls.foldl apply empty

theorem run_append_singleton (calls : List DeviceTableCall) (call : DeviceTableCall) :
    run (calls ++ [call]) = (run calls).apply call := by
  simp [run, List.foldl_append]

/-- The configurations that are loaded for a device id. -/
def loadedFor (table : DeviceTable) (deviceId : String) : List DeviceConfig :=
  (loadDevices table.rows).filter fun dev ↦ dev.id = deviceId

/-! ## One call -/

theorem loadedFor_eq (table : DeviceTable) (deviceId : String) :
    table.loadedFor deviceId =
      (table.rows.filter fun row ↦ row.id = deviceId).map DeviceRow.toConfig := by
  unfold loadedFor loadDevices
  rw [List.filter_map]
  rfl

theorem loadedFor_delete (table : DeviceTable) (deviceId id : String) :
    (table.delete deviceId).loadedFor id = if id = deviceId then [] else table.loadedFor id := by
  rw [loadedFor_eq, loadedFor_eq, rows_delete, List.filter_filter]
  by_cases hid : id = deviceId
  · rw [if_pos hid, List.map_eq_nil_iff, List.filter_eq_nil_iff]
    intro row _
    simp [hid]
  · rw [if_neg hid]
    congr 1
    apply List.filter_congr
    intro row _
    by_cases hrow : row.id = id
    · simp [hrow, hid]
    · simp [hrow]

theorem loadedFor_saveDevice (table : DeviceTable) (dev : DeviceConfig) (id : String) :
    (table.saveDevice dev).loadedFor id = if id = dev.id then [dev] else table.loadedFor id := by
  have hdelete := loadedFor_delete table dev.toRow.id id
  rw [loadedFor_eq] at hdelete
  rw [loadedFor_eq, saveDevice, rows_replace, List.filter_append, List.map_append, hdelete]
  by_cases hid : id = dev.id
  · subst hid
    simp [DeviceConfig.toRow, DeviceRow.toConfig]
  · simp [DeviceConfig.toRow, hid, Ne.symm hid]

/-- A call decides what is loaded for its device id and for no other. -/
theorem loadedFor_apply (table : DeviceTable) (call : DeviceTableCall) (id : String) :
    (table.apply call).loadedFor id =
      if id = call.deviceId then call.saved.toList else table.loadedFor id := by
  cases call with
  | saveDevice dev => exact loadedFor_saveDevice table dev id
  | deleteDevice deviceId => exact loadedFor_delete table deviceId id

/-- **Saved devices.** For each id exactly the configuration last saved is loaded, if it was not
deleted afterwards, and none otherwise. -/
theorem loadedFor_run (calls : List DeviceTableCall) (id : String) :
    (run calls).loadedFor id =
      (EventMap.after DeviceTableCall.deviceId DeviceTableCall.saved calls id).toList := by
  induction calls using List.reverseRecOn with
  | nil => rfl
  | append_singleton calls call ih =>
      rw [run_append_singleton, loadedFor_apply, EventMap.after_append_singleton,
        Function.update_apply, ih]
      split <;> rfl

/-- The runtime's table of configurations changes as the rows do. -/
theorem rows_of_runtime (s : DeviceRuntime) {table : DeviceTable}
    (h : table.rows = s.deviceTable.map DeviceConfig.toRow) :
    (∀ dev, (table.saveDevice dev).rows = (s.saveDevice dev).deviceTable.map DeviceConfig.toRow) ∧
      ∀ deviceId, (table.deleteDevice deviceId).rows =
        (s.deleteDevice deviceId).deviceTable.map DeviceConfig.toRow := by
  have hdelete (deviceId : String) : (table.delete deviceId).rows =
      (s.deleteDevice deviceId).deviceTable.map DeviceConfig.toRow := by
    rw [rows_delete, h, List.filter_map]
    rfl
  refine ⟨fun dev ↦ ?_, hdelete⟩
  rw [saveDevice, rows_replace, hdelete, DeviceRuntime.saveDevice, List.map_append]
  rfl

end DeviceTable

end VyuhHmi
