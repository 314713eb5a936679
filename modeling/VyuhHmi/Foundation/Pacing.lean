import Mathlib.Data.List.Basic
import Mathlib.Data.List.Chain

/-!
# Phases that last a given time

A machine goes round a cycle of phases and counts how long it has been in the current one.  Its
history has one entry for each turn.  A block of equal entries is over when another entry follows;
the first block of a history began before it, so that only a block with another one before it shows
how long a phase lasts.
-/

variable {α : Type*} {next : α → α} {duration : α → Option ℕ}

/-- Phases follow each other in their order, and a phase of a given duration lasts exactly that. -/
structure InPhases (next : α → α) (duration : α → Option ℕ) (history : List α) : Prop where
  chain : history.IsChain fun a b ↦ b = a ∨ b = next a
  lasts : ∀ before a b c n after,
    history = before ++ a :: (List.replicate (n + 1) b ++ c :: after) → a ≠ b → c ≠ b →
      ∀ d ∈ duration b, n + 1 = d
  bounded : ∀ before a b n, history = before ++ a :: List.replicate (n + 1) b → a ≠ b →
    ∀ d ∈ duration b, n + 1 ≤ d

/-- An orderly history whose last block, if it began in it, is `timer` turns older than its first
entry. -/
structure Paced (next : α → α) (duration : α → Option ℕ) (history : List α) (timer : ℕ) : Prop
    extends InPhases next duration history where
  age : ∀ before a b n, history = before ++ a :: List.replicate (n + 1) b → a ≠ b → n = timer

namespace Paced

variable {history : List α} {timer : ℕ} {a : α}

theorem singleton (a : α) (timer : ℕ) : Paced next duration [a] timer := by
  have hshort : ∀ before c (b : α) n rest, [a] ≠ before ++ c :: (List.replicate (n + 1) b ++ rest) := by
    intro before c b n rest h
    have := congrArg List.length h
    simp at this
    omega
  refine ⟨⟨List.isChain_singleton _, fun before c b e n after h ↦ ?_, fun before c b n h ↦ ?_⟩,
    fun before c b n h ↦ ?_⟩
  · exact absurd h (hshort before c b n _)
  · exact absurd (by simpa using h) (hshort before c b n [])
  · exact absurd (by simpa using h) (hshort before c b n [])

theorem getLast?_block (before : List α) (c b : α) (n : ℕ) :
    (before ++ c :: List.replicate (n + 1) b).getLast? = some b := by
  rw [List.replicate_succ', ← List.cons_append, ← List.append_assoc, List.getLast?_concat]

/-- What the last block of a longer history was before its last entry. -/
theorem append_eq_replicate {before : List α} {b c e : α} {n : ℕ}
    (h : history ++ [e] = before ++ c :: List.replicate (n + 1) b) :
    e = b ∧ history = before ++ c :: List.replicate n b := by
  rw [List.replicate_succ', ← List.cons_append, ← List.append_assoc] at h
  obtain ⟨hinit, hlast⟩ := List.append_inj' h rfl
  exact ⟨List.singleton_inj.mp hlast, hinit⟩

/-- A block that is over in a longer history was over before, or is the last one, which the last
entry ends. -/
theorem append_eq_cases {before after : List α} {b c e f : α} {n : ℕ}
    (h : history ++ [e] = before ++ c :: (List.replicate (n + 1) b ++ f :: after)) :
    (∃ shorter, history = before ++ c :: (List.replicate (n + 1) b ++ f :: shorter)) ∨
      (e = f ∧ history = before ++ c :: List.replicate (n + 1) b) := by
  induction after using List.reverseRecOn with
  | nil =>
      rw [← List.cons_append, ← List.append_assoc] at h
      obtain ⟨hinit, hlast⟩ := List.append_inj' h rfl
      exact Or.inr ⟨List.singleton_inj.mp hlast, hinit⟩
  | append_singleton after g _ =>
      rw [← List.cons_append, ← List.append_assoc, ← List.cons_append, ← List.append_assoc] at h
      obtain ⟨hinit, -⟩ := List.append_inj' h rfl
      exact Or.inl ⟨after, by simpa using hinit⟩

/-- Another turn in the same phase. -/
theorem stay (h : Paced next duration history timer) (hlast : history.getLast? = some a)
    (hshort : (∃ b ∈ history, b ≠ a) → ∀ d ∈ duration a, timer + 2 ≤ d) :
    Paced next duration (history ++ [a]) (timer + 1) := by
  have hage : ∀ before c b n, history ++ [a] = before ++ c :: List.replicate (n + 1) b → c ≠ b →
      n = timer + 1 ∧ ∀ d ∈ duration b, n + 1 ≤ d := by
    intro before c b n hhistory hne
    obtain ⟨rfl, hhistory⟩ := append_eq_replicate hhistory
    cases n with
    | zero =>
        rw [hhistory] at hlast
        simp at hlast
        exact absurd hlast hne
    | succ n =>
        have := h.age before c a n hhistory hne
        refine ⟨by omega, fun d hd ↦ ?_⟩
        have := hshort ⟨c, by rw [hhistory]; simp, hne⟩ d hd
        omega
  refine ⟨⟨?_, fun before c b e n after hhistory hcb heb d hd ↦ ?_,
    fun before c b n hhistory hne ↦ (hage before c b n hhistory hne).2⟩,
    fun before c b n hhistory hne ↦ (hage before c b n hhistory hne).1⟩
  · refine List.isChain_append.mpr ⟨h.chain, List.isChain_singleton _, fun x hx y hy ↦ Or.inl ?_⟩
    rw [hlast] at hx
    exact (Option.some.inj hy).symm.trans (Option.some.inj hx)
  · rcases append_eq_cases hhistory with ⟨shorter, hbefore⟩ | ⟨rfl, hbefore⟩
    · exact h.lasts before c b e n shorter hbefore hcb heb d hd
    · rw [hbefore, getLast?_block] at hlast
      exact absurd (Option.some.inj hlast).symm heb

/-- A turn in the next phase. -/
theorem move (h : Paced next duration history timer) (hlast : history.getLast? = some a)
    (hne : next a ≠ a) (hover : ∀ d ∈ duration a, d ≤ timer + 1)
    (hpositive : ∀ d ∈ duration (next a), 0 < d) :
    Paced next duration (history ++ [next a]) 0 := by
  have hage : ∀ before c b n, history ++ [next a] = before ++ c :: List.replicate (n + 1) b →
      c ≠ b → n = 0 ∧ ∀ d ∈ duration b, n + 1 ≤ d := by
    intro before c b n hhistory hcb
    obtain ⟨rfl, hhistory⟩ := append_eq_replicate hhistory
    cases n with
    | zero => exact ⟨rfl, hpositive⟩
    | succ n =>
        rw [hhistory, getLast?_block] at hlast
        exact absurd (Option.some.inj hlast) hne
  refine ⟨⟨?_, fun before c b e n after hhistory hcb heb d hd ↦ ?_,
    fun before c b n hhistory hcb ↦ (hage before c b n hhistory hcb).2⟩,
    fun before c b n hhistory hcb ↦ (hage before c b n hhistory hcb).1⟩
  · refine List.isChain_append.mpr ⟨h.chain, List.isChain_singleton _, fun x hx y hy ↦ Or.inr ?_⟩
    rw [hlast] at hx
    rw [← Option.some.inj hx]
    exact (Option.some.inj hy).symm
  · rcases append_eq_cases hhistory with ⟨shorter, hbefore⟩ | ⟨rfl, hbefore⟩
    · exact h.lasts before c b e n shorter hbefore hcb heb d hd
    · rw [hbefore, getLast?_block] at hlast
      obtain rfl : b = a := Option.some.inj hlast
      have := h.age before c b n hbefore hcb
      have := h.bounded before c b n hbefore hcb d hd
      have := hover d hd
      omega

end Paced
