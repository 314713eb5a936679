import Mathlib.Data.List.Basic
import Mathlib.Logic.Function.Basic

/-!
# Maps given by their history

A map that events change one key at a time: an event on a key stores a value there or removes it.
The map after a history is decided by the last event on each key, which is how a statement about
what has happened is read off a table.
-/

namespace EventMap

variable {E K V : Type*} [DecidableEq K] {key : E → K} {value : E → Option V} {events : List E}

/-- The last event on a key. -/
def lastOn (key : E → K) (events : List E) (k : K) : Option E :=
  events.reverse.find? fun event ↦ key event = k

/-- The map that a history leaves. -/
def after (key : E → K) (value : E → Option V) (events : List E) : K → Option V :=
  fun k ↦ (lastOn key events k).bind value

theorem lastOn_append_singleton (events : List E) (event : E) (k : K) :
    lastOn key (events ++ [event]) k = if key event = k then some event else lastOn key events k := by
  by_cases hk : key event = k <;> simp [lastOn, hk]

theorem lastOn_eq_getLast? (events : List E) (k : K) :
    lastOn key events k = (events.filter fun event ↦ key event = k).getLast? := by
  rw [lastOn, List.getLast?_eq_head?_reverse, ← List.filter_reverse, List.head?_filter]

/-- One more event updates the map at its key. -/
theorem after_append_singleton (event : E) :
    after key value (events ++ [event]) =
      Function.update (after key value events) (key event) (value event) := by
  funext k
  rw [Function.update_apply, after, lastOn_append_singleton]
  by_cases hk : k = key event
  · rw [if_pos hk.symm, if_pos hk]
    rfl
  · rw [if_neg (Ne.symm hk), if_neg hk]
    rfl

/-- Further events update the map one after the other. -/
theorem foldl_update_after (earlier : List E) :
    events.foldl (fun map event ↦ Function.update map (key event) (value event))
        (after key value earlier) = after key value (earlier ++ events) := by
  induction events generalizing earlier with
  | nil => rw [List.append_nil, List.foldl_nil]
  | cons event events ih =>
      rw [List.foldl_cons, ← after_append_singleton, ih, List.append_assoc, List.singleton_append]

/-- The last event on a key splits the history. -/
theorem lastOn_eq_some_iff {k : K} {event : E} :
    lastOn key events k = some event ↔ ∃ earlier later, events = earlier ++ event :: later ∧
      key event = k ∧ ∀ other ∈ later, key other ≠ k := by
  rw [lastOn, List.find?_eq_some_iff_append]
  constructor
  · rintro ⟨hkey, before, behind, hsplit, hbefore⟩
    refine ⟨behind.reverse, before.reverse, ?_, by simpa using hkey, ?_⟩
    · rw [← List.reverse_reverse events, hsplit]
      simp
    · intro other hother
      simpa using hbefore other (List.mem_reverse.mp hother)
  · rintro ⟨earlier, later, rfl, hkey, hlater⟩
    refine ⟨by simpa using hkey, later.reverse, earlier.reverse, by simp, ?_⟩
    intro other hother
    simpa using hlater other (List.mem_reverse.mp hother)

theorem key_of_lastOn {k : K} {event : E} (h : lastOn key events k = some event) :
    key event = k :=
  of_decide_eq_true (List.find?_some (p := fun event ↦ decide (key event = k)) h)

/-- After an event, its key has a last event. -/
theorem exists_lastOn {earlier later : List E} {event : E}
    (hsplit : events = earlier ++ event :: later) :
    ∃ last, lastOn key events (key event) = some last ∧ (last = event ∨ last ∈ later) := by
  cases hlast : lastOn key later (key event) with
  | some last =>
      refine ⟨last, ?_, .inr (List.mem_reverse.mp (List.mem_of_find?_eq_some hlast))⟩
      rw [lastOn] at hlast ⊢
      simp [hsplit, hlast]
  | none =>
      refine ⟨event, ?_, .inl rfl⟩
      rw [lastOn] at hlast ⊢
      simp [hsplit, hlast]

end EventMap
