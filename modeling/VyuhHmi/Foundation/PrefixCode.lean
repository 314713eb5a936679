import Mathlib.Data.List.Basic

/-!
# Texts written symbol by symbol

Every symbol is written as a word, and a word tells where it ends.  A mark that begins no word then
ends a text, which reads back as the symbols it was written from.
-/

namespace PrefixCode

variable {α β : Type*} {code : α → List β} {stop : β}

/-- What a word is followed by does not change how it reads. -/
def Readable (code : α → List β) : Prop :=
  ∀ a b x y, code a ++ x = code b ++ y → a = b ∧ x = y

/-- A reader of one symbol. -/
theorem Readable.of_reader {read : List β → Option (α × List β)}
    (hread : ∀ a x, read (code a ++ x) = some (a, x)) : Readable code := by
  intro a b x y h
  have hsame : some (a, x) = some (b, y) := by rw [← hread a x, h, hread b y]
  exact Prod.mk.inj (Option.some.inj hsame)

/-- A text up to the mark, and what comes after it. -/
theorem Readable.flatMap_append_inj (hcode : Readable code)
    (hstop : ∀ a x y, code a ++ x ≠ stop :: y) {symbols symbols' : List α} {x y : List β}
    (h : symbols.flatMap code ++ stop :: x = symbols'.flatMap code ++ stop :: y) :
    symbols = symbols' ∧ x = y := by
  induction symbols generalizing symbols' with
  | nil =>
      cases symbols' with
      | nil => exact ⟨rfl, (List.cons.inj h).2⟩
      | cons b rest' =>
          rw [List.flatMap_cons, List.append_assoc] at h
          exact absurd h.symm (hstop b _ _)
  | cons a rest ih =>
      rw [List.flatMap_cons, List.append_assoc] at h
      cases symbols' with
      | nil => exact absurd h (hstop a _ _)
      | cons b rest' =>
          rw [List.flatMap_cons, List.append_assoc] at h
          obtain ⟨rfl, htail⟩ := hcode a b _ _ h
          obtain ⟨rfl, hrest⟩ := ih htail
          exact ⟨rfl, hrest⟩

end PrefixCode
