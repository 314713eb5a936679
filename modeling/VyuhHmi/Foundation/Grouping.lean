import Mathlib.Algebra.Order.BigOperators.Group.List
import Mathlib.Algebra.Order.Field.Basic
import Mathlib.Data.List.Induction
import Mathlib.Data.List.Nodup

/-!
# Grouping by a key

A map that keeps its entries in the order in which their keys were first set, and the map that a
list leaves when each of its elements updates the entry of its key.  An entry depends only on the
elements with its key.  Averages over a group lie between two of its elements.
-/

namespace Grouping

variable {K V W α β : Type*} [DecidableEq K]

/-- Update the entry of a key, or add one at the end. -/
def upsert (f : Option V → V) (key : K) : List (K × V) → List (K × V)
  | [] => [(key, f none)]
  | (k, v) :: entries =>
      if k = key then (k, f (some v)) :: entries else (k, v) :: upsert f key entries

/-- The map left by updating the entry of each element's key in turn. -/
def group (key : α → K) (update : α → Option V → V) (elements : List α) : List (K × V) :=
  elements.foldl (fun entries element ↦ upsert (update element) (key element) entries) []

/-- The entry that a list of elements with one key leaves. -/
def entry (update : α → Option V → V) (elements : List α) : Option V :=
  elements.foldl (fun value element ↦ some (update element value)) none

theorem lookup_cons_eq_ite (k k' : K) (v : V) (entries : List (K × V)) :
    ((k', v) :: entries).lookup k = if k = k' then some v else entries.lookup k := by
  rw [List.lookup_cons]
  by_cases hk : k = k'
  · simp [hk]
  · rw [if_neg hk, beq_false_of_ne hk]

theorem lookup_upsert (f : Option V → V) (key k : K) (entries : List (K × V)) :
    (upsert f key entries).lookup k =
      if k = key then some (f (entries.lookup key)) else entries.lookup k := by
  induction entries with
  | nil => rw [upsert, lookup_cons_eq_ite]; rfl
  | cons first entries ih =>
      obtain ⟨k', v⟩ := first
      unfold upsert
      by_cases hkey : k' = key
      · subst hkey
        simp only [if_true, lookup_cons_eq_ite]
        split <;> rfl
      · rw [if_neg hkey, lookup_cons_eq_ite, ih, lookup_cons_eq_ite, lookup_cons_eq_ite,
          if_neg (Ne.symm hkey)]
        by_cases hk : k = k'
        · rw [if_pos hk, if_pos hk, if_neg (hk.trans_ne hkey)]
        · rw [if_neg hk, if_neg hk]

theorem keys_upsert (f : Option V → V) (key : K) (entries : List (K × V)) :
    (upsert f key entries).map Prod.fst =
      if key ∈ entries.map Prod.fst then entries.map Prod.fst
      else entries.map Prod.fst ++ [key] := by
  induction entries with
  | nil => rfl
  | cons first entries ih =>
      obtain ⟨k', v⟩ := first
      unfold upsert
      by_cases hkey : k' = key
      · simp [hkey]
      · rw [if_neg hkey, List.map_cons, ih]
        by_cases hmem : key ∈ entries.map Prod.fst
        · simp [hmem]
        · simp [hmem, Ne.symm hkey]

theorem nodup_keys_upsert {entries : List (K × V)} (h : (entries.map Prod.fst).Nodup)
    (f : Option V → V) (key : K) : ((upsert f key entries).map Prod.fst).Nodup := by
  rw [keys_upsert]
  split
  case isTrue => exact h
  case isFalse hfresh =>
      exact h.append (List.nodup_singleton key) (List.disjoint_singleton.mpr hfresh)

theorem mem_iff_lookup {entries : List (K × V)} (h : (entries.map Prod.fst).Nodup) {k : K} {v : V} :
    (k, v) ∈ entries ↔ entries.lookup k = some v := by
  induction entries with
  | nil => simp
  | cons first entries ih =>
      obtain ⟨k', v'⟩ := first
      rw [List.map_cons, List.nodup_cons] at h
      rw [List.mem_cons, Prod.mk.injEq, lookup_cons_eq_ite]
      by_cases hk : k = k'
      · subst hk
        have hfresh : (k, v) ∉ entries := fun hmem ↦ h.1 (List.mem_map.mpr ⟨(k, v), hmem, rfl⟩)
        simp [hfresh, eq_comm]
      · simp [hk, ih h.2]

/-! ## Groups -/

variable {key : α → K} {update : α → Option V → V}

theorem group_append_singleton (elements : List α) (element : α) :
    group key update (elements ++ [element]) =
      upsert (update element) (key element) (group key update elements) := by
  simp [group, List.foldl_append]

theorem entry_append_singleton (elements : List α) (element : α) :
    entry update (elements ++ [element]) = some (update element (entry update elements)) := by
  simp [entry, List.foldl_append]

theorem nodup_keys_group (elements : List α) :
    ((group key update elements).map Prod.fst).Nodup := by
  induction elements using List.reverseRecOn with
  | nil => exact List.nodup_nil
  | append_singleton elements element ih =>
      rw [group_append_singleton]
      exact nodup_keys_upsert ih _ _

/-- The entry of a key depends on the elements with this key only. -/
theorem lookup_group (elements : List α) (k : K) :
    (group key update elements).lookup k =
      entry update (elements.filter fun element ↦ key element = k) := by
  induction elements using List.reverseRecOn with
  | nil => rfl
  | append_singleton elements element ih =>
      rw [group_append_singleton, lookup_upsert, List.filter_append]
      by_cases hk : k = key element
      · subst hk
        simp [ih, entry_append_singleton]
      · simp [hk, Ne.symm hk, ih]

theorem mem_group_iff {elements : List α} {k : K} {v : V} :
    (k, v) ∈ group key update elements ↔
      entry update (elements.filter fun element ↦ key element = k) = some v := by
  rw [mem_iff_lookup (nodup_keys_group elements), lookup_group]

/-- A list in which there is an element leaves an entry. -/
theorem exists_entry {elements : List α} (h : elements ≠ []) :
    ∃ v, entry update elements = some v := by
  obtain ⟨earlier, last, rfl⟩ := (List.eq_nil_or_concat' elements).resolve_left h
  exact ⟨_, entry_append_singleton earlier last⟩

/-- What is read off an entry can be kept instead of it. -/
theorem map_group {key' : β → K} {update' : β → Option W → W} (f : V → W) (g : α → β)
    (hkey : ∀ element, key' (g element) = key element)
    (hupdate : ∀ element value, f (update element value) = update' (g element) (value.map f))
    (elements : List α) :
    (group key update elements).map (Prod.map id f) = group key' update' (elements.map g) := by
  have hupsert (element : α) (entries : List (K × V)) :
      (upsert (update element) (key element) entries).map (Prod.map id f) =
        upsert (update' (g element)) (key' (g element)) (entries.map (Prod.map id f)) := by
    induction entries with
    | nil => simp [upsert, hkey, hupdate]
    | cons first entries ih =>
        obtain ⟨k, v⟩ := first
        simp only [upsert, List.map_cons, Prod.map_apply, id_eq, hkey] at ih ⊢
        split
        · simp [hupdate]
        · simp [ih]
  induction elements using List.reverseRecOn with
  | nil => rfl
  | append_singleton elements element ih =>
      rw [group_append_singleton, List.map_append, List.map_singleton, group_append_singleton,
        hupsert, ih]

/-! ## Averages -/

section Average

variable {R : Type*} [Field R]

/-- The average of what the elements of a group hold. -/
def average (f : α → R) (elements : List α) : R :=
  elements.foldl (fun sum element ↦ sum + f element) 0 / elements.length

theorem average_eq_sum (f : α → R) (elements : List α) :
    average f elements = (elements.map f).sum / elements.length := by
  rw [average, List.sum_eq_foldl, List.foldl_map]

variable [LinearOrder R] [IsStrictOrderedRing R] {f : α → R} {elements : List α}

/-- As many times the average as there are elements. -/
theorem sum_map_average (h : elements ≠ []) :
    (elements.map fun _ ↦ average f elements).sum = (elements.map f).sum := by
  have hlength : (elements.length : R) ≠ 0 :=
    Nat.cast_ne_zero.mpr fun hzero ↦ h (List.eq_nil_of_length_eq_zero hzero)
  rw [List.map_const', List.sum_replicate, nsmul_eq_mul, average_eq_sum,
    mul_div_cancel₀ _ hlength]

theorem exists_le_average (h : elements ≠ []) :
    ∃ element ∈ elements, f element ≤ average f elements :=
  List.exists_le_of_sum_le h f (fun _ ↦ average f elements) (sum_map_average h).ge

theorem exists_average_le (h : elements ≠ []) :
    ∃ element ∈ elements, average f elements ≤ f element :=
  List.exists_le_of_sum_le h (fun _ ↦ average f elements) f (sum_map_average h).le

/-- One element below a bound on all of them takes the average below it. -/
theorem average_lt {bound : R} (hall : ∀ element ∈ elements, f element ≤ bound)
    (hone : ∃ element ∈ elements, f element < bound) : average f elements < bound := by
  have hpos : (0 : R) < elements.length := by
    obtain ⟨low, hlow, -⟩ := hone
    exact Nat.cast_pos.mpr (List.length_pos_of_mem hlow)
  have hsum := List.sum_lt_sum f (fun _ ↦ bound) hall hone
  rw [List.map_const', List.sum_replicate, nsmul_eq_mul] at hsum
  rw [average_eq_sum, div_lt_iff₀ hpos, mul_comm]
  exact hsum

end Average

end Grouping
