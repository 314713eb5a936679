import Mathlib.Algebra.Ring.Nat
import Mathlib.Data.List.Lex
import Mathlib.Tactic.Common

/-!
# Numbers of fixed width

Decimal numbers written with a fixed count of digits: their texts are in lexicographic order as the
numbers are.  Of two texts made of such fields, the first field that differs decides; a field may be
followed by anything, as long as what follows equal fields is compared in turn.  On ASCII texts the
order is that of the bytes.
-/

namespace FixedWidth

/-! ## Lexicographic order -/

section Lex

variable {α : Type*} [LT α]

/-- Texts of one length that differ decide whatever follows. -/
theorem append_lt_append {s t : List α} (hlength : s.length = t.length) (h : s < t)
    (u v : List α) : s ++ u < t ++ v := by
  induction s generalizing t with
  | nil =>
      cases t with
      | nil => exact absurd h (List.not_lt_nil [])
      | cons b t => cases hlength
  | cons a s ih =>
      cases t with
      | nil => exact absurd h (List.not_lt_nil (a :: s))
      | cons b t =>
          rw [List.cons_append, List.cons_append, List.cons_lt_cons_iff]
          rcases List.cons_lt_cons_iff.mp h with hhead | ⟨hhead, htail⟩
          · exact .inl hhead
          · exact .inr ⟨hhead, ih (Nat.succ.inj hlength) htail⟩

/-- A map that is monotone on the letters of two texts keeps their order. -/
theorem map_lt_map {β : Type*} [LT β] {f : α → β} {p : α → Prop}
    (hf : ∀ a b, p a → p b → a < b → f a < f b) {s t : List α} (hs : ∀ a ∈ s, p a)
    (ht : ∀ a ∈ t, p a) (h : s < t) : s.map f < t.map f := by
  induction s generalizing t with
  | nil =>
      cases t with
      | nil => exact absurd h (List.not_lt_nil [])
      | cons b t => exact List.nil_lt_cons _ _
  | cons a s ih =>
      cases t with
      | nil => exact absurd h (List.not_lt_nil (a :: s))
      | cons b t =>
          rw [List.map_cons, List.map_cons, List.cons_lt_cons_iff]
          rw [List.forall_mem_cons] at hs ht
          rcases List.cons_lt_cons_iff.mp h with hhead | ⟨rfl, htail⟩
          · exact .inl (hf a b hs.1 ht.1 hhead)
          · exact .inr ⟨rfl, ih hs.2 ht.2 htail⟩

end Lex

/-! ## Digits -/

/-- The last `width` decimal digits of a number. -/
def digits : ℕ → ℕ → List Char
  | 0, _ => []
  | width + 1, n => digits width (n / 10) ++ [Nat.digitChar (n % 10)]

@[simp] theorem length_digits (width n : ℕ) : (digits width n).length = width := by
  induction width generalizing n with
  | zero => rfl
  | succ width ih => rw [digits, List.length_append, ih, List.length_singleton]

theorem digitChar_lt_digitChar : ∀ d e : Fin 10, d < e → Nat.digitChar d < Nat.digitChar e := by
  decide

theorem isDigit_digitChar : ∀ d : Fin 10, (Nat.digitChar d).isDigit := by decide

theorem isDigit_of_mem_digits {width n : ℕ} {c : Char} (h : c ∈ digits width n) :
    c.isDigit := by
  induction width generalizing n with
  | zero => cases h
  | succ width ih =>
      rcases List.mem_append.mp h with hfirst | hlast
      · exact ih hfirst
      · rw [List.mem_singleton.mp hlast]
        exact isDigit_digitChar ⟨n % 10, Nat.mod_lt n (by decide)⟩

/-- **Order.** Digits are ordered as the numbers they are written for. -/
theorem digits_lt_digits {width n m : ℕ} (hlt : n < m) (hm : m < 10 ^ width) :
    digits width n < digits width m := by
  induction width generalizing n m with
  | zero => omega
  | succ width ih =>
      rw [digits, digits]
      rcases Nat.lt_or_ge (n / 10) (m / 10) with hfirst | hfirst
      · have hrest : m / 10 < 10 ^ width := by
          rw [Nat.div_lt_iff_lt_mul (by decide), ← Nat.pow_succ]
          exact hm
        exact append_lt_append (by rw [length_digits, length_digits]) (ih hfirst hrest) _ _
      · have hsame : n / 10 = m / 10 := by omega
        have hlast : n % 10 < m % 10 := by omega
        have hchar := digitChar_lt_digitChar ⟨n % 10, Nat.mod_lt n (by decide)⟩
          ⟨m % 10, Nat.mod_lt m (by decide)⟩ hlast
        rw [hsame]
        exact List.append_left_lt (List.cons_lt_cons_iff.mpr (.inl hchar))

/-- A field followed by a text. -/
theorem field_lt {width n m : ℕ} (hm : m < 10 ^ width) {u v : List Char}
    (h : n < m ∨ n = m ∧ u < v) : digits width n ++ u < digits width m ++ v := by
  rcases h with hlt | ⟨rfl, hrest⟩
  · exact append_lt_append (by rw [length_digits, length_digits]) (digits_lt_digits hlt hm) u v
  · exact List.append_left_lt hrest

/-- A field that is followed by a separator. -/
theorem field_sep_lt {width n m : ℕ} (hm : m < 10 ^ width) (sep : Char) {u v : List Char}
    (h : n < m ∨ n = m ∧ u < v) :
    digits width n ++ sep :: u < digits width m ++ sep :: v :=
  field_lt hm (h.imp_right fun ⟨hsame, hrest⟩ ↦
    ⟨hsame, List.cons_lt_cons_iff.mpr (.inr ⟨rfl, hrest⟩)⟩)

/-! ## Fractions -/

/-- A number below `1000 ^ groups`, in groups of three digits up to the last that is not zero. -/
def trimmed : ℕ → ℕ → List Char
  | 0, _ => []
  | groups + 1, n =>
      if n = 0 then [] else digits 3 (n / 1000 ^ groups) ++ trimmed groups (n % 1000 ^ groups)

/-- Trimmed numbers are ordered as the numbers, if what follows them comes before the digits. -/
theorem trimmed_lt_trimmed {groups n m : ℕ} (hlt : n < m) (hm : m < 1000 ^ groups) {stop : Char}
    (hstop : stop < '0') (u v : List Char) :
    trimmed groups n ++ stop :: u < trimmed groups m ++ stop :: v := by
  induction groups generalizing n m with
  | zero => omega
  | succ groups ih =>
      have hpos : 0 < 1000 ^ groups := Nat.pow_pos (by decide)
      have hfield : m / 1000 ^ groups < 10 ^ 3 := by
        rw [Nat.div_lt_iff_lt_mul hpos]
        calc
          m < 1000 ^ (groups + 1) := hm
          _ = 1000 ^ groups * 1000 := Nat.pow_succ _ _
          _ = 10 ^ 3 * 1000 ^ groups := Nat.mul_comm _ _
      rw [trimmed, trimmed, if_neg (Nat.ne_of_gt (Nat.zero_lt_of_lt hlt))]
      split
      case isTrue =>
          -- the shorter text goes on with the stop, the longer one with a digit
          have hlength := length_digits 3 (m / 1000 ^ groups)
          cases hdigits : digits 3 (m / 1000 ^ groups) with
          | nil =>
              rw [hdigits] at hlength
              cases hlength
          | cons c rest =>
              have hdigit : c.isDigit := by
                apply @isDigit_of_mem_digits 3 (m / 1000 ^ groups)
                rw [hdigits]
                exact List.mem_cons_self
              have hzero : '0' ≤ c := by
                simp only [Char.isDigit, Bool.and_eq_true, decide_eq_true_eq] at hdigit
                exact hdigit.1
              exact List.cons_lt_cons_iff.mpr (.inl (UInt32.lt_of_lt_of_le hstop hzero))
      case isFalse =>
          rw [List.append_assoc, List.append_assoc]
          refine field_lt hfield ?_
          rcases Nat.lt_or_ge (n / 1000 ^ groups) (m / 1000 ^ groups) with hfirst | hfirst
          · exact .inl hfirst
          · have hsame : n / 1000 ^ groups = m / 1000 ^ groups :=
              le_antisymm (Nat.div_le_div_right hlt.le) hfirst
            have hrest : n % 1000 ^ groups < m % 1000 ^ groups := by
              have hn := Nat.div_add_mod n (1000 ^ groups)
              have hm' := Nat.div_add_mod m (1000 ^ groups)
              rw [hsame] at hn
              omega
            exact .inr ⟨hsame, ih hrest (Nat.mod_lt m hpos)⟩

/-- Longer numbers are made of shorter ones. -/
theorem digits_add (width width' n : ℕ) :
    digits (width + width') n = digits width (n / 10 ^ width') ++ digits width' n := by
  induction width' generalizing n with
  | zero => simp [digits]
  | succ width' ih =>
      rw [← Nat.add_assoc, digits, digits, ih, List.append_assoc, Nat.div_div_eq_div_mul,
        Nat.pow_succ, Nat.mul_comm 10]

/-- Only the last digits of a number are written. -/
theorem digits_mod (width n : ℕ) : digits width (n % 10 ^ width) = digits width n := by
  induction width generalizing n with
  | zero => rfl
  | succ width ih =>
      have hfirst : n % 10 ^ (width + 1) / 10 = n / 10 % 10 ^ width := by
        rw [Nat.pow_succ, Nat.mul_comm, Nat.mod_mul_right_div_self]
      have hlast : n % 10 ^ (width + 1) % 10 = n % 10 :=
        Nat.mod_mod_of_dvd n (Nat.dvd_of_mod_eq_zero (by simp [Nat.pow_succ]))
      rw [digits, digits, hfirst, hlast, ih]

/-! ## Bytes -/

/-- The bytes of a text. -/
def bytes (text : String) : List UInt8 := text.toUTF8.data.toList

/-- A text of ASCII characters has one byte for each. -/
theorem bytes_ofList {text : List Char} (hascii : ∀ c ∈ text, c.val ≤ 127) :
    bytes (String.ofList text) = text.map fun c ↦ c.val.toUInt8 := by
  unfold bytes
  rw [String.toUTF8_eq_toByteArray, String.toByteArray_ofList, List.utf8Encode,
    List.toList_data_toByteArray]
  induction text with
  | nil => rfl
  | cons c text ih =>
      rw [List.forall_mem_cons] at hascii
      rw [List.flatMap_cons, List.map_cons, ih hascii.2,
        String.utf8EncodeChar_eq_singleton (Char.utf8Size_eq_one_iff.mpr hascii.1)]
      rfl

/-- ASCII texts are in the order of their bytes as of their characters. -/
theorem bytes_lt_bytes {text text' : List Char} (hascii : ∀ c ∈ text, c.val ≤ 127)
    (hascii' : ∀ c ∈ text', c.val ≤ 127) (h : text < text') :
    bytes (String.ofList text) < bytes (String.ofList text') := by
  rw [bytes_ofList hascii, bytes_ofList hascii']
  refine map_lt_map (p := fun c ↦ c.val ≤ 127) ?_ hascii hascii' h
  intro c d hc hd hlt
  have hcd : c.val.toNat < d.val.toNat := hlt
  have hc' : c.val.toNat ≤ 127 := hc
  have hd' : d.val.toNat ≤ 127 := hd
  rw [UInt8.lt_iff_toNat_lt, UInt32.toNat_toUInt8, UInt32.toNat_toUInt8]
  omega

end FixedWidth
