import Mathlib.Data.List.Sort
import Mathlib.Data.List.Range

/-!
# Readers of a bounded broadcast

A broadcast is a log that only grows and of which the last entries are kept.  A reader begins at the
end of the log, takes the entry at its cursor and goes on, and when that entry is no longer kept it
skips to the oldest one that is.  It takes every entry at most once and in the order of the log;
an entry that it passes over has been followed by at least as many entries as are kept.
-/

namespace BroadcastReader

/-- Where a reader began, where it is, and the positions it has taken. -/
structure Reader where
  start : ℕ
  cursor : ℕ
  taken : List ℕ
deriving DecidableEq

namespace Reader

/-- A reader that begins at the end of a log of this length. -/
def subscribe (length : ℕ) : Reader := ⟨length, length, []⟩

/-- Take the entry at the cursor. -/
def take (r : Reader) : Reader := ⟨r.start, r.cursor + 1, r.taken ++ [r.cursor]⟩

/-- Skip to the oldest entry that is kept. -/
def skip (r : Reader) (oldest : ℕ) : Reader := ⟨r.start, oldest, r.taken⟩

@[simp] theorem take_cursor (r : Reader) : r.take.cursor = r.cursor + 1 := rfl

@[simp] theorem take_taken (r : Reader) : r.take.taken = r.taken ++ [r.cursor] := rfl

@[simp] theorem take_start (r : Reader) : r.take.start = r.start := rfl

@[simp] theorem skip_cursor (r : Reader) (oldest : ℕ) : (r.skip oldest).cursor = oldest := rfl

@[simp] theorem skip_taken (r : Reader) (oldest : ℕ) : (r.skip oldest).taken = r.taken := rfl

@[simp] theorem skip_start (r : Reader) (oldest : ℕ) : (r.skip oldest).start = r.start := rfl

/-- What holds of a reader of a log of this length, of which `kept` entries are kept. -/
structure Sound (kept length : ℕ) (r : Reader) : Prop where
  increasing : r.taken.Pairwise (· < ·)
  taken_ge : ∀ position ∈ r.taken, r.start ≤ position
  taken_lt : ∀ position ∈ r.taken, position < r.cursor
  start_le : r.start ≤ r.cursor
  cursor_le : r.cursor ≤ length
  passed : ∀ position, r.start ≤ position → position < r.cursor → position ∉ r.taken →
    position + kept < length

variable {kept length length' oldest : ℕ} {r : Reader}

theorem Sound.subscribe (kept length : ℕ) : (subscribe length).Sound kept length where
  increasing := .nil
  taken_ge := nofun
  taken_lt := nofun
  start_le := le_refl length
  cursor_le := le_refl length
  passed := fun _ hge hlt ↦ absurd hlt (not_lt_of_ge hge)

/-- More entries are broadcast. -/
theorem Sound.grow (h : r.Sound kept length) (hle : length ≤ length') : r.Sound kept length' :=
  { h with
    cursor_le := h.cursor_le.trans hle
    passed := fun position hge hlt hnot ↦ (h.passed position hge hlt hnot).trans_le hle }

theorem Sound.take (h : r.Sound kept length) (hlt : r.cursor < length) :
    r.take.Sound kept length where
  increasing := by
    rw [take_taken, List.pairwise_append]
    refine ⟨h.increasing, List.pairwise_singleton _ _, fun position hposition last hlast ↦ ?_⟩
    obtain rfl := List.mem_singleton.mp hlast
    exact h.taken_lt position hposition
  taken_ge := by
    intro position hposition
    rcases List.mem_append.mp hposition with hbefore | hlast
    · exact h.taken_ge position hbefore
    · obtain rfl := List.mem_singleton.mp hlast
      exact h.start_le
  taken_lt := by
    intro position hposition
    rw [take_cursor]
    rcases List.mem_append.mp hposition with hbefore | hlast
    · exact (h.taken_lt position hbefore).trans (Nat.lt_succ_self _)
    · obtain rfl := List.mem_singleton.mp hlast
      exact Nat.lt_succ_self _
  start_le := h.start_le.trans (Nat.le_succ _)
  cursor_le := hlt
  passed := by
    intro position hge hlt' hnot
    rw [take_taken, List.mem_append, List.mem_singleton, not_or] at hnot
    rw [take_cursor] at hlt'
    exact h.passed position hge (lt_of_le_of_ne (Nat.le_of_lt_succ hlt') hnot.2) hnot.1

/-- The entries that are skipped are followed by at least as many as are kept. -/
theorem Sound.skip (h : r.Sound kept length) (hlt : r.cursor < oldest)
    (holdest : oldest + kept ≤ length) : (r.skip oldest).Sound kept length where
  increasing := h.increasing
  taken_ge := h.taken_ge
  taken_lt := fun position hposition ↦ (h.taken_lt position hposition).trans hlt
  start_le := h.start_le.trans hlt.le
  cursor_le := (Nat.le_add_right oldest kept).trans holdest
  passed := by
    intro position _ hbefore _
    rw [skip_cursor] at hbefore
    omega

/-! ## Gaps -/

/-- Every position from the start to the cursor has been taken. -/
def Complete (r : Reader) : Prop := r.taken = List.range' r.start (r.cursor - r.start)

/-- Fewer positions have been taken than there are from the start to the cursor. -/
def Gapped (r : Reader) : Prop := r.taken.length < r.cursor - r.start

theorem complete_subscribe (length : ℕ) : (subscribe length).Complete := by
  simp [Complete, subscribe]

theorem Complete.take (h : r.Complete) (hstart : r.start ≤ r.cursor) : r.take.Complete := by
  have hcount : r.cursor + 1 - r.start = r.cursor - r.start + 1 := by omega
  have hlast : r.start + 1 * (r.cursor - r.start) = r.cursor := by omega
  unfold Complete at h ⊢
  rw [take_taken, take_start, take_cursor, hcount, List.range'_concat, ← h, hlast]

theorem Gapped.take (h : r.Gapped) : r.take.Gapped := by
  unfold Gapped at h ⊢
  rw [take_taken, take_cursor, take_start, List.length_append, List.length_singleton]
  omega

theorem Complete.length_taken (h : r.Complete) : r.taken.length = r.cursor - r.start := by
  rw [h, List.length_range']

/-- Skipping leaves a gap. -/
theorem gapped_skip (h : r.Complete ∨ r.Gapped) (hstart : r.start ≤ r.cursor)
    (hlt : r.cursor < oldest) : (r.skip oldest).Gapped := by
  have hle : r.taken.length ≤ r.cursor - r.start := h.elim (fun hcomplete ↦ hcomplete.length_taken.le) le_of_lt
  unfold Gapped
  rw [skip_taken, skip_cursor, skip_start]
  omega

/-- While more entries are kept than have come since the reader began, it has taken every one that
it has passed. -/
theorem Sound.complete (h : r.Sound kept length) (hkept : length ≤ r.start + kept) :
    r.Complete := by
  have hrange : (List.range' r.start (r.cursor - r.start)).Pairwise (· < ·) :=
    List.pairwise_lt_range'
  refine List.Perm.eq_of_pairwise (fun a b _ _ hab hba ↦ absurd (hab.trans hba) (lt_irrefl a))
    h.increasing hrange ?_
  rw [List.perm_ext_iff_of_nodup (h.increasing.imp fun hlt ↦ hlt.ne) (hrange.imp fun hlt ↦ hlt.ne)]
  intro position
  have hstart := h.start_le
  rw [List.mem_range'_1]
  constructor
  · intro hposition
    have hge := h.taken_ge position hposition
    have hlt := h.taken_lt position hposition
    omega
  · intro hrange
    by_contra hnot
    have hpassed := h.passed position (by omega) (by omega) hnot
    omega

/-! ## Entries -/

/-- What is read of a log that grows at its end. -/
def entries {α : Type*} (log : List α) (r : Reader) : List (Option α) :=
  r.taken.map fun position ↦ log[position]?

theorem Sound.entries_append {α : Type*} {log : List α} (h : r.Sound kept log.length)
    (more : List α) : r.entries (log ++ more) = r.entries log := by
  refine List.map_congr_left fun position hposition ↦ ?_
  have hlt := (h.taken_lt position hposition).trans_le h.cursor_le
  exact List.getElem?_append_left hlt

theorem entries_take {α : Type*} (log : List α) (r : Reader) :
    r.take.entries log = r.entries log ++ [log[r.cursor]?] := by
  rw [entries, take_taken, List.map_append, List.map_singleton, entries]

/-- A reader without gaps has read a segment of the log. -/
theorem Complete.entries_eq {α : Type*} {log : List α} (h : r.Complete)
    (hcursor : r.cursor ≤ log.length) :
    r.entries log = ((log.take r.cursor).drop r.start).map some := by
  rw [entries, h]
  refine List.ext_getElem? fun i ↦ ?_
  rw [List.getElem?_map, List.getElem?_map, List.getElem?_drop, List.getElem?_take]
  by_cases hi : i < r.cursor - r.start
  · have hlt : r.start + i < r.cursor := by omega
    rw [List.getElem?_range' hi, if_pos hlt, Option.map_some, Nat.one_mul,
      List.getElem?_eq_getElem (hlt.trans_le hcursor), Option.map_some]
  · have hge : ¬r.start + i < r.cursor := by omega
    rw [if_neg hge, List.getElem?_eq_none (by rw [List.length_range']; omega)]
    rfl

end Reader

/-! ## The latest of the positions read -/

variable {β : Type*} {positions : List ℕ} {g : ℕ → Option β} {position later : ℕ}

/-- Of the positions that have something, the last one is no earlier than any other. -/
theorem exists_latest {b : β} (hincreasing : positions.Pairwise (· < ·))
    (hmem : position ∈ positions) (hb : g position = some b) :
    ∃ latest ∈ positions, ∃ b', position ≤ latest ∧ g latest = some b' ∧
      (positions.filterMap g).getLast? = some b' := by
  induction positions using List.reverseRecOn with
  | nil => cases hmem
  | append_singleton positions last ih =>
      rw [List.pairwise_append] at hincreasing
      rw [List.filterMap_append]
      rcases List.mem_append.mp hmem with hbefore | hlast
      · cases hg : g last with
        | none =>
            obtain ⟨latest, hlatest, b', hle, hb', heq⟩ := ih hincreasing.1 hbefore
            exact ⟨latest, List.mem_append_left _ hlatest, b', hle, hb', by simp [hg, heq]⟩
        | some b' =>
            have hlt := hincreasing.2.2 position hbefore last (List.mem_singleton_self last)
            exact ⟨last, List.mem_append_right _ (List.mem_singleton_self last), b', hlt.le, hg,
              by simp [hg]⟩
      · obtain rfl := List.mem_singleton.mp hlast
        exact ⟨position, hmem, b, le_refl position, hb, by simp [hb]⟩

/-- An increasing list begins with everything up to any of its entries. -/
theorem mem_take_of_le (hincreasing : positions.Pairwise (· < ·)) (hmem : position ∈ positions)
    {n : ℕ} (hlater : later ∈ positions.take n) (hle : position ≤ later) :
    position ∈ positions.take n := by
  rw [← List.take_append_drop n positions] at hincreasing hmem
  rcases List.mem_append.mp hmem with htake | hdrop
  · exact htake
  · have hlt := (List.pairwise_append.mp hincreasing).2.2 later hlater position hdrop
    omega

end BroadcastReader
