import Mathlib.Data.List.Basic
import Mathlib.Logic.Relation

/-!
# Lists that grow by descent

Entries are added one at a time, each by an entry that is there already.  Every entry then descends
from one of the first, and where none of the first can add an entry the list stays what it was.
-/

namespace Lineage

variable {α : Type*} {Parent Parent' : α → α → Prop} {initial entries : List α} {entry : α}

inductive Grown (Parent : α → α → Prop) (initial : List α) : List α → Prop
  | start : Grown Parent initial initial
  | add {entries : List α} {parent entry : α} (hbefore : Grown Parent initial entries)
      (hmem : parent ∈ entries) (hparent : Parent parent entry) :
      Grown Parent initial (entries ++ [entry])

/-- A chain of additions leads from one of the first entries to the entry. -/
def Descends (Parent : α → α → Prop) (initial : List α) (entry : α) : Prop :=
  ∃ root ∈ initial, Relation.ReflTransGen Parent root entry

theorem Grown.mono (h : Grown Parent initial entries)
    (hparent : ∀ parent entry, Parent parent entry → Parent' parent entry) :
    Grown Parent' initial entries := by
  induction h with
  | start => exact .start
  | add _ hmem hadd ih => exact .add ih hmem (hparent _ _ hadd)

theorem Descends.mono (h : Descends Parent initial entry)
    (hparent : ∀ parent entry, Parent parent entry → Parent' parent entry) :
    Descends Parent' initial entry := by
  obtain ⟨root, hroot, hchain⟩ := h
  exact ⟨root, hroot, Relation.ReflTransGen.mono hparent _ _ hchain⟩

/-- An entry of its own, or one that some root has led to. -/
theorem Descends.mem_or_parent (h : Descends Parent initial entry) :
    entry ∈ initial ∨ ∃ root ∈ initial, (∃ child, Parent root child) ∧
      Relation.TransGen Parent root entry := by
  obtain ⟨root, hroot, hchain⟩ := h
  rcases Relation.reflTransGen_iff_eq_or_transGen.mp hchain with rfl | hsteps
  · exact .inl hroot
  · obtain ⟨child, hchild, -⟩ := Relation.TransGen.head'_iff.mp hsteps
    exact .inr ⟨root, hroot, ⟨child, hchild⟩, hsteps⟩

theorem Grown.descends (h : Grown Parent initial entries) :
    ∀ entry ∈ entries, Descends Parent initial entry := by
  induction h with
  | start => exact fun entry hmem ↦ ⟨entry, hmem, .refl⟩
  | @add entries parent entry _ hparent hadd ih =>
      intro other hother
      rcases List.mem_append.mp hother with hold | hnew
      · exact ih other hold
      · obtain rfl := List.mem_singleton.mp hnew
        obtain ⟨root, hroot, hchain⟩ := ih parent hparent
        exact ⟨root, hroot, hchain.tail hadd⟩

/-- Without a parent among the first entries there are no others. -/
theorem Grown.eq_initial (h : Grown Parent initial entries)
    (hbarren : ∀ parent ∈ initial, ∀ entry, ¬Parent parent entry) : entries = initial := by
  induction h with
  | start => rfl
  | add _ hmem hadd ih =>
      subst ih
      exact absurd hadd (hbarren _ hmem _)

end Lineage
