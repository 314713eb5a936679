import Mathlib.Data.List.DropRight

/-!
# Sliding windows

A list that is appended to and loses its first entry when it gets too long keeps the last entries of
everything that has been appended.
-/

namespace Window

variable {α : Type*}

/-- Append an entry, and drop the first one if there are then more than `size`. -/
def push (size : ℕ) (window : List α) (entry : α) : List α :=
  if size < (window ++ [entry]).length then (window ++ [entry]).tail else window ++ [entry]

theorem length_rtake (size : ℕ) (entries : List α) :
    (entries.rtake size).length = min size entries.length := by
  rw [List.rtake, List.length_drop]
  omega

theorem push_rtake (size : ℕ) (entries : List α) (entry : α) :
    push size (entries.rtake size) entry = (entries ++ [entry]).rtake size := by
  have hkeep : entries.rtake size ++ [entry] =
      (entries ++ [entry]).drop (entries.length - size) := by
    rw [List.rtake, List.drop_append_of_le_length (by omega)]
  unfold push
  rw [List.length_append, length_rtake, List.length_singleton, hkeep]
  split
  case isTrue hfull =>
      rw [List.tail_drop, List.rtake]
      congr 1
      simp only [List.length_append, List.length_singleton]
      omega
  case isFalse hroom =>
      rw [List.rtake]
      congr 1
      simp only [List.length_append, List.length_singleton]
      omega

/-- The last entries that meet a condition are the last ones if these all do. -/
theorem rtake_filter {size : ℕ} {entries : List α} {p : α → Bool}
    (h : ∀ entry ∈ entries.rtake size, p entry) :
    (entries.filter p).rtake size = entries.rtake size := by
  have hsplit : entries.filter p = (entries.take (entries.length - size)).filter p ++
      entries.rtake size := by
    rw [← List.filter_eq_self.mpr h, List.rtake, ← List.filter_append, List.take_append_drop]
  by_cases hfull : size ≤ entries.length
  · have hsize : (entries.rtake size).length = size := by
      rw [length_rtake]
      omega
    rw [List.rtake, hsplit, List.length_append, hsize, Nat.add_sub_cancel, List.drop_left]
  · have hall : entries.rtake size = entries := by
      rw [List.rtake, Nat.sub_eq_zero_of_le (by omega), List.drop_zero]
    rw [hall, List.filter_eq_self.mpr fun entry hentry ↦ h entry (by rwa [hall])]
    exact hall

theorem mem_rtake_of_getLast? {size : ℕ} (hsize : 0 < size) {entries : List α} {entry : α}
    (h : entries.getLast? = some entry) : entry ∈ entries.rtake size := by
  have hlength : 0 < entries.length := List.length_pos_of_mem (List.mem_of_getLast? h)
  apply List.mem_of_getLast?
  rw [List.rtake, List.getLast?_drop, if_neg (by omega)]
  exact h

end Window
