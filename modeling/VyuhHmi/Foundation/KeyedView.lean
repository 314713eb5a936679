import Mathlib.Data.List.Induction
import Mathlib.Logic.Function.Basic

/-!
# One value for each key, and one of them on display

A system that keeps a value for every key and shows the value of one active key.  An event of a key
changes its value, and the display as well if the key is active; the display changes by itself, and
is set from the kept value only when another key becomes active.  What holds of the values that the
events of a key can make, in the kept value or on display, then holds of all of them, whatever
happened to the other keys.
-/

namespace KeyedView

variable {Key Event Value : Type*} [DecidableEq Key]

structure State (Key Value : Type*) where
  active : Key
  values : Key → Value
  display : Value

inductive Op (Key Event : Type*)
  | update (key : Key) (event : Event)
  | switch (key : Key)

/-- Every key has the initial value. -/
def init (active : Key) (initial : Value) : State Key Value where
  active := active
  values := fun _ ↦ initial
  display := initial

/-- `keep` is what an event does to the kept value, `shown` what it does to the display. -/
def apply (keep shown : Value → Event → Value) (s : State Key Value) :
    Op Key Event → State Key Value
  | .update key event =>
      { s with
        values := Function.update s.values key (keep (s.values key) event)
        display := if key = s.active then shown s.display event else s.display }
  | .switch key => if key = s.active then s else { s with active := key, display := s.values key }

/-- The events of a key. -/
def eventsOf (key : Key) (ops : List (Op Key Event)) : List Event :=
  ops.filterMap fun
    | .update key' event => if key' = key then some event else none
    | .switch _ => none

theorem eventsOf_update (key : Key) (ops : List (Op Key Event)) (key' : Key) (event : Event) :
    eventsOf key (ops ++ [.update key' event]) =
      eventsOf key ops ++ if key' = key then [event] else [] := by
  unfold eventsOf
  rw [List.filterMap_append]
  congr 1
  by_cases hkey : key' = key <;> simp [hkey]

theorem eventsOf_switch (key : Key) (ops : List (Op Key Event)) (key' : Key) :
    eventsOf key (ops ++ [.switch key']) = eventsOf key ops := by
  unfold eventsOf
  rw [List.filterMap_append]
  exact List.append_nil _

/-- Every kept value, and the display for the active key, is related to the key's events. -/
structure Related (R : List Event → Value → Prop) (ops : List (Op Key Event))
    (s : State Key Value) : Prop where
  values : ∀ key, R (eventsOf key ops) (s.values key)
  display : R (eventsOf s.active ops) s.display

variable {keep shown : Value → Event → Value} {R : List Event → Value → Prop}

/-- **Step lemma.** -/
theorem Related.apply (hkeep : ∀ events value event, R events value →
      R (events ++ [event]) (keep value event))
    (hshown : ∀ events value event, R events value → R (events ++ [event]) (shown value event))
    {ops : List (Op Key Event)} {s : State Key Value} (h : Related R ops s) (op : Op Key Event) :
    Related R (ops ++ [op]) (KeyedView.apply keep shown s op) := by
  cases op with
  | update key event =>
      refine ⟨fun key' ↦ ?_, ?_⟩
      · have hevents := eventsOf_update key' ops key event
        change R _ (Function.update s.values key (keep (s.values key) event) key')
        by_cases hkey : key' = key
        · subst hkey
          rw [hevents, if_pos rfl, Function.update_self]
          exact hkeep _ _ _ (h.values key')
        · rw [hevents, if_neg (Ne.symm hkey), List.append_nil, Function.update_of_ne hkey]
          exact h.values key'
      · have hevents := eventsOf_update s.active ops key event
        change R (eventsOf s.active _) (if key = s.active then shown s.display event else s.display)
        by_cases hkey : key = s.active
        · rw [hevents, if_pos hkey, if_pos hkey]
          exact hshown _ _ _ h.display
        · rw [hevents, if_neg hkey, if_neg hkey, List.append_nil]
          exact h.display
  | switch key =>
      have hevents (key' : Key) := eventsOf_switch key' ops key
      by_cases hkey : key = s.active
      · rw [KeyedView.apply, if_pos hkey]
        exact ⟨fun key' ↦ hevents key' ▸ h.values key', hevents s.active ▸ h.display⟩
      · rw [KeyedView.apply, if_neg hkey]
        exact ⟨fun key' ↦ hevents key' ▸ h.values key', hevents key ▸ h.values key⟩

/-- **Run lemma.** What both ways of taking an event in keep holds along every run. -/
theorem related_run {initial : Value} (hinitial : R [] initial)
    (hkeep : ∀ events value event, R events value → R (events ++ [event]) (keep value event))
    (hshown : ∀ events value event, R events value → R (events ++ [event]) (shown value event))
    (active : Key) (ops : List (Op Key Event)) :
    Related R ops (ops.foldl (apply keep shown) (init active initial)) := by
  induction ops using List.reverseRecOn with
  | nil => exact ⟨fun _ ↦ hinitial, hinitial⟩
  | append_singleton ops op ih =>
      rw [List.foldl_append]
      exact ih.apply hkeep hshown op

end KeyedView
