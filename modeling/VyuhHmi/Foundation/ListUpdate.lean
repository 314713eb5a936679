import Mathlib.Algebra.GroupWithZero.Nat
import Mathlib.Algebra.Order.BigOperators.Group.List
import Mathlib.Algebra.Order.Group.Nat

/-!
# Updating one entry of a list

A table of records addressed by position, of which a step rewrites one record.  The rules say what
the update does to a lookup, to a view of the records that it leaves alone, and to a total over the
records: the total changes by what the rewritten record contributes.
-/

namespace ListUpdate

variable {α β : Type*} {l : List α} {i j : ℕ} {a : α}

theorem getElem?_modify_of_some (h : l[i]? = some a) (f : α → α) :
    (l.modify i f)[j]? = if j = i then some (f a) else l[j]? := by
  by_cases hij : j = i
  · subst hij
    simp [h]
  · simp [hij, Ne.symm hij]

/-- **Rewriting a record.** What holds of every record by its position still holds after an update
if it holds of the rewritten record. -/
theorem forall_modify {P : ℕ → α → Prop} {f : α → α}
    (hother : ∀ j b, j ≠ i → l[j]? = some b → P j b) (hthis : ∀ a, l[i]? = some a → P i (f a)) :
    ∀ j b, (l.modify i f)[j]? = some b → P j b := by
  intro j b hj
  by_cases hij : i = j
  · subst hij
    rw [List.getElem?_modify_eq] at hj
    obtain ⟨a, ha, rfl⟩ := Option.map_eq_some_iff.mp hj
    exact hthis a ha
  · rw [List.getElem?_modify_ne f l hij] at hj
    exact hother j b (Ne.symm hij) hj

theorem getElem?_append_singleton (l : List α) (a : α) (j : ℕ) :
    (l ++ [a])[j]? = if j = l.length then some a else l[j]? := by
  by_cases hj : j = l.length
  · simp [hj]
  · rcases lt_or_gt_of_ne hj with hlt | hgt
    · rw [if_neg hj, List.getElem?_append_left hlt]
    · rw [if_neg hj, List.getElem?_eq_none hgt.le, List.getElem?_eq_none (by simp; omega)]

/-- **Adding a record.** -/
theorem forall_append_singleton {P : ℕ → α → Prop} (hold : ∀ j b, l[j]? = some b → P j b)
    (hnew : P l.length a) : ∀ j b, (l ++ [a])[j]? = some b → P j b := by
  intro j b hj
  rw [getElem?_append_singleton] at hj
  split at hj
  case isTrue hlast =>
      obtain rfl := Option.some.inj hj
      exact hlast ▸ hnew
  case isFalse => exact hold j b hj

/-- Updating the last entry. -/
@[simp] theorem modify_append_singleton (l : List α) (a : α) (f : α → α) :
    (l ++ [a]).modify l.length f = l ++ [f a] := by
  induction l with
  | nil => rfl
  | cons b l ih => simpa [List.modify_cons] using ih

/-- Appending to a list keeps its lookups. -/
theorem getElem?_of_prefix {l' : List α} (hpre : l <+: l') (h : l[i]? = some a) :
    l'[i]? = some a := by
  obtain ⟨rest, rfl⟩ := hpre
  rw [List.getElem?_append_left (List.getElem?_eq_some_iff.mp h).1]
  exact h

/-- The view of the entry that is rewritten. -/
theorem map_modify_of_some {g : α → β} {f : α → α} (h : l[i]? = some a) :
    (l.modify i f).map g = (l.map g).set i (g (f a)) := by
  apply List.ext_getElem?
  intro j
  have hlt : i < l.length := (List.getElem?_eq_some_iff.mp h).1
  rw [List.getElem?_map, getElem?_modify_of_some h, List.getElem?_set, List.length_map]
  by_cases hji : j = i
  · rw [if_pos hji, if_pos hji.symm, if_pos hlt, Option.map_some]
  · rw [if_neg hji, if_neg (Ne.symm hji), List.getElem?_map]

/-- A view that the update respects does not change. -/
theorem map_modify_of_forall {g : α → β} {f : α → α} (h : ∀ x, g (f x) = g x) :
    (l.modify i f).map g = l.map g := by
  apply List.ext_getElem?
  intro j
  simp only [List.getElem?_map, List.getElem?_modify, Option.map_eq_map, Option.map_map]
  congr 1
  funext x
  by_cases hij : i = j <;> simp [hij, h]

theorem map_mapIdx_of_forall {g : α → β} {f : ℕ → α → α} (h : ∀ k x, g (f k x) = g x) :
    (l.mapIdx f).map g = l.map g := by
  apply List.ext_getElem?
  intro j
  simp [Option.map_map, Function.comp_def, h]

/-- **Totals.** Rewriting one record changes the total by that record's contribution. -/
theorem sum_map_modify (h : l[i]? = some a) (f : α → α) (g : α → ℕ) :
    ((l.modify i f).map g).sum + g a = (l.map g).sum + g (f a) := by
  induction l generalizing i with
  | nil => simp at h
  | cons x xs ih =>
      cases i with
      | zero =>
          obtain rfl : x = a := by simpa using h
          simp only [List.modify_zero_cons, List.map_cons, List.sum_cons]
          omega
      | succ i =>
          have hrest := ih (i := i) (by simpa using h)
          simp only [List.modify_succ_cons, List.map_cons, List.sum_cons]
          omega

/-- A record's contribution is part of the total. -/
theorem le_sum_map (h : l[i]? = some a) (g : α → ℕ) : g a ≤ (l.map g).sum :=
  List.le_sum_of_mem (List.mem_map_of_mem (List.mem_of_getElem? h))

/-- Only the last element can count. -/
theorem countP_le_one_of_pairwise {α : Type*} {p : α → Bool} {l : List α}
    (h : l.Pairwise fun a _ ↦ p a = false) : l.countP p ≤ 1 := by
  induction l with
  | nil => exact Nat.zero_le 1
  | cons a l ih =>
      obtain ⟨hfirst, hrest⟩ := List.pairwise_cons.mp h
      cases l with
      | nil => exact List.countP_le_length
      | cons b l =>
          rw [List.countP_cons_of_neg (by simp [hfirst b List.mem_cons_self])]
          exact ih hrest

/-- A part of each record, where only one record has any. -/
theorem flatMap_of_forall {g : α → List β} (h : l[i]? = some a)
    (hother : ∀ j b, j ≠ i → l[j]? = some b → g b = []) : l.flatMap g = g a := by
  induction l generalizing i with
  | nil => simp at h
  | cons x xs ih =>
      rw [List.flatMap_cons]
      cases i with
      | zero =>
          obtain rfl : x = a := by simpa using h
          have hrest : xs.flatMap g = [] := by
            rw [List.flatMap_eq_nil_iff]
            intro b hb
            obtain ⟨j, hj⟩ := List.mem_iff_getElem?.mp hb
            exact hother (j + 1) b (Nat.succ_ne_zero j) (by simpa using hj)
          rw [hrest, List.append_nil]
      | succ i =>
          rw [hother 0 x (Nat.succ_ne_zero i).symm rfl, List.nil_append]
          exact ih (by simpa using h) fun j b hj hb ↦ hother (j + 1) b (by omega) (by simpa using hb)

theorem flatMap_modify_of_eq {f : α → α} {g : α → List β} (h : l[i]? = some a)
    (heq : g (f a) = g a) : (l.modify i f).flatMap g = l.flatMap g := by
  induction l generalizing i with
  | nil => simp at h
  | cons x xs ih =>
      cases i with
      | zero =>
          obtain rfl : x = a := by simpa using h
          rw [List.modify_zero_cons, List.flatMap_cons, List.flatMap_cons, heq]
      | succ i =>
          rw [List.modify_succ_cons, List.flatMap_cons, List.flatMap_cons, ih (by simpa using h)]

end ListUpdate
