import Mathlib.Data.List.Basic

/-!
# Two records of one sequence

Entries go into two records in the same order, and now and then one record misses what the other
gets.  The records keep a common part in order, and each is this part interleaved with what the
other one misses.
-/

namespace CommonOrder

variable {α : Type*} {missed missed' first second : List α}

/-- The third list has the entries of the first two, those of each in their order. -/
inductive Interleaved : List α → List α → List α → Prop
  | nil : Interleaved [] [] []
  | left {xs ys zs : List α} (x : α) :
      Interleaved xs ys zs → Interleaved (xs ++ [x]) ys (zs ++ [x])
  | right {xs ys zs : List α} (y : α) :
      Interleaved xs ys zs → Interleaved xs (ys ++ [y]) (zs ++ [y])

/-- Nothing is between the entries of the first list. -/
theorem Interleaved.eq_left {xs ys zs : List α} (h : Interleaved xs ys zs) (hys : ys = []) :
    zs = xs := by
  induction h with
  | nil => rfl
  | left x _ ih => rw [ih hys]
  | right y _ _ => exact absurd hys (List.append_ne_nil_of_right_ne_nil _ (List.cons_ne_nil y []))

/-- The records have a common part: the first record is this part interleaved with what the second
one misses, and the second is this part interleaved with what the first one misses. -/
def InStep (missed missed' first second : List α) : Prop :=
  ∃ common : List α, Interleaved common missed first ∧ Interleaved common missed' second

theorem InStep.nil : InStep ([] : List α) [] [] [] := ⟨[], .nil, .nil⟩

/-- Both records get an entry. -/
theorem InStep.both (h : InStep missed missed' first second) (entry : α) :
    InStep missed missed' (first ++ [entry]) (second ++ [entry]) := by
  obtain ⟨common, hfirst, hsecond⟩ := h
  exact ⟨common ++ [entry], hfirst.left entry, hsecond.left entry⟩

/-- The second record misses an entry. -/
theorem InStep.onlyFirst (h : InStep missed missed' first second) (entry : α) :
    InStep (missed ++ [entry]) missed' (first ++ [entry]) second := by
  obtain ⟨common, hfirst, hsecond⟩ := h
  exact ⟨common, hfirst.right entry, hsecond⟩

/-- The first record misses an entry. -/
theorem InStep.onlySecond (h : InStep missed missed' first second) (entry : α) :
    InStep missed (missed' ++ [entry]) first (second ++ [entry]) := by
  obtain ⟨common, hfirst, hsecond⟩ := h
  exact ⟨common, hfirst, hsecond.right entry⟩

/-- If neither record misses an entry, they are the same. -/
theorem InStep.eq (h : InStep [] [] first second) : first = second := by
  obtain ⟨common, hfirst, hsecond⟩ := h
  rw [hfirst.eq_left rfl, hsecond.eq_left rfl]

end CommonOrder
