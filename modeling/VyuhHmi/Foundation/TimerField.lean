import Mathlib.Data.Int.Notation
import Mathlib.Data.List.Basic

/-!
# Fields that hold a timer

A program names a running timer by a field.  The field can be given another timer before the first
one is over, and the first one then runs on with nothing left that could cancel it.  `lost` holds
these timers; a program that always cancels before it starts has none.
-/

/-- A field for a timer, with the moments its timers are due. -/
structure TimerField where
  due : Option ℤ := none
  lost : List ℤ := []
deriving DecidableEq

namespace TimerField

variable (field : TimerField)

/-- The timers that will fire. -/
def running : List ℤ := field.due.toList ++ field.lost

def cancel : TimerField := { field with due := none }

def start (due : ℤ) : TimerField where
  due := some due
  lost := field.running

/-- A timer that has fired is over. -/
def finish (due : ℤ) : TimerField :=
  if field.due = some due then field.cancel else { field with lost := field.lost.erase due }

/-- A periodic timer that has fired is due again. -/
def again (due period : ℤ) : TimerField :=
  if field.due = some due then { field with due := some (due + period) }
  else { field with lost := (due + period) :: field.lost.erase due }

/-- The field names every timer of its own that runs. -/
def Sole : Prop := field.lost = []

@[simp] theorem cancel_due : field.cancel.due = none := rfl

@[simp] theorem start_due (due : ℤ) : (field.start due).due = some due := rfl

@[simp] theorem sole_empty : ({} : TimerField).Sole := rfl

variable {field}

@[simp] theorem sole_cancel : field.cancel.Sole ↔ field.Sole := Iff.rfl

theorem Sole.mem_running (h : field.Sole) {due : ℤ} : due ∈ field.running ↔ field.due = some due := by
  rw [running, show field.lost = [] from h, List.append_nil, Option.mem_toList]

theorem Sole.start (h : field.Sole) (hfree : field.due = none) (due : ℤ) : (field.start due).Sole := by
  rw [Sole, TimerField.start, running, hfree]
  exact h

theorem Sole.finish (h : field.Sole) {due : ℤ} (hdue : due ∈ field.running) :
    field.finish due = field.cancel := if_pos (h.mem_running.mp hdue)

theorem Sole.again (h : field.Sole) {due : ℤ} (hdue : due ∈ field.running) (period : ℤ) :
    field.again due period = { field with due := some (due + period) } :=
  if_pos (h.mem_running.mp hdue)

end TimerField
