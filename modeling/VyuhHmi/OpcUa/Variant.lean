import Mathlib.Algebra.Order.Floor.Ring
import Mathlib.Data.Rat.Floor

/-!
# OPC UA values

The values that an OPC UA server can give for a node, and their conversion to a register value.
Rust's `as` wraps from one integer type to another, and saturates from a floating-point number.
-/

namespace VyuhHmi

/-- A floating-point number, as far as a conversion to an integer looks at it. -/
inductive FloatValue
  | nan
  | infinite (negative : Bool)
  | finite (value : ℚ)
deriving DecidableEq

/-- `as u16` of a number of another integer type. -/
def wrapU16 (n : ℤ) : UInt16 := UInt16.ofNat (n % 2 ^ 16).toNat

/-- `as u16` of a floating-point number: towards zero, and to the nearest end of the range. -/
def FloatValue.toU16 : FloatValue → UInt16
  | .nan => 0
  | .infinite negative => if negative then 0 else UInt16.ofNat (2 ^ 16 - 1)
  | .finite value =>
      if value ≤ 0 then 0 else UInt16.ofNat (min ⌊value⌋.toNat (2 ^ 16 - 1))

/-- `opcua::types::Variant`; `other` are all those that hold no number. -/
inductive Variant
  | uint16 (value : UInt16)
  | int16 (value : Int16)
  | uint32 (value : UInt32)
  | int32 (value : Int32)
  | float (value : FloatValue)
  | double (value : FloatValue)
  | byte (value : UInt8)
  | sbyte (value : Int8)
  | uint64 (value : UInt64)
  | int64 (value : Int64)
  | other
deriving DecidableEq

/-- The variant holds a number. -/
def Variant.isNumeric : Variant → Bool
  | .other => false
  | _ => true

/-- Convert an OPC UA Variant to u16 — handles all common numeric types. -/
def variantToU16 : Option Variant → UInt16
  | some (.uint16 value) => value
  | some (.int16 value) => wrapU16 value.toInt
  | some (.uint32 value) => wrapU16 value.toNat
  | some (.int32 value) => wrapU16 value.toInt
  | some (.float value) => value.toU16
  | some (.double value) => value.toU16
  | some (.byte value) => wrapU16 value.toNat
  | some (.sbyte value) => wrapU16 value.toInt
  | some (.uint64 value) => wrapU16 value.toNat
  | some (.int64 value) => wrapU16 value.toInt
  | _ => 0

/-- What holds no number converts to zero. -/
theorem variantToU16_of_not_numeric {value : Option Variant}
    (h : value.any Variant.isNumeric = false) : variantToU16 value = 0 := by
  cases value with
  | none => rfl
  | some variant =>
      cases variant with
      | other => rfl
      | _ => cases h

/-! ## Out of range -/

/-- The variant holds exactly this integer. -/
def Variant.Holds (n : ℤ) : Variant → Prop
  | .uint16 value => value.toNat = n
  | .int16 value => value.toInt = n
  | .uint32 value => value.toNat = n
  | .int32 value => value.toInt = n
  | .float value => value = .finite n
  | .double value => value = .finite n
  | .byte value => value.toNat = n
  | .sbyte value => value.toInt = n
  | .uint64 value => value.toNat = n
  | .int64 value => value.toInt = n
  | .other => False

/-- The variant holds a floating-point number. -/
def Variant.isFloating : Variant → Bool
  | .float _ => true
  | .double _ => true
  | _ => false

/-- The nearest value of a register. -/
def clampU16 (n : ℤ) : UInt16 := UInt16.ofNat (min n.toNat (2 ^ 16 - 1))

/-- The low sixteen bits are the nearest value of a register: in its range, and outside of it for
one number out of each 2^16. -/
def WrapsToNearest (n : ℤ) : Prop :=
  0 ≤ n ∧ n < 2 ^ 16 ∨ n < 0 ∧ n % 2 ^ 16 = 0 ∨ 2 ^ 16 ≤ n ∧ n % 2 ^ 16 = 2 ^ 16 - 1

instance (n : ℤ) : Decidable (WrapsToNearest n) := inferInstanceAs (Decidable (_ ∨ _))

theorem toNat_wrapU16 (n : ℤ) : (wrapU16 n).toNat = (n % 2 ^ 16).toNat := by
  rw [wrapU16, UInt16.toNat_ofNat']
  omega

theorem toNat_clampU16 (n : ℤ) : (clampU16 n).toNat = min n.toNat (2 ^ 16 - 1) := by
  rw [clampU16, UInt16.toNat_ofNat']
  omega

theorem wrapU16_eq_clampU16_iff (n : ℤ) : wrapU16 n = clampU16 n ↔ WrapsToNearest n := by
  rw [← UInt16.toNat_inj, toNat_wrapU16, toNat_clampU16]
  unfold WrapsToNearest
  omega

/-- A conversion from a floating-point number saturates. -/
theorem FloatValue.toU16_finite_intCast (n : ℤ) : (FloatValue.finite n).toU16 = clampU16 n := by
  rw [FloatValue.toU16, Int.floor_intCast]
  split
  · next hle =>
      have hle' : n ≤ 0 := by exact_mod_cast hle
      rw [clampU16, Int.toNat_of_nonpos hle']
      rfl
  · rfl

/-- **A reading is clamped to the register's range** exactly when the variant is a floating-point
one, or wrapping leaves the number where clamping does. -/
theorem variantToU16_eq_clampU16_iff {variant : Variant} {n : ℤ} (h : variant.Holds n) :
    variantToU16 (some variant) = clampU16 n ↔
      variant.isFloating = true ∨ WrapsToNearest n := by
  cases variant with
  | other => exact h.elim
  | float value =>
      cases h
      simp [variantToU16, Variant.isFloating, FloatValue.toU16_finite_intCast]
  | double value =>
      cases h
      simp [variantToU16, Variant.isFloating, FloatValue.toU16_finite_intCast]
  | uint16 value =>
      cases h
      have hlt := value.toNat_lt
      have hvalue : variantToU16 (some (.uint16 value)) = wrapU16 value.toNat := by
        rw [← UInt16.toNat_inj, toNat_wrapU16]
        simp only [variantToU16]
        omega
      rw [hvalue, wrapU16_eq_clampU16_iff]
      simp [Variant.isFloating]
  | _ =>
      cases h
      simp [variantToU16, Variant.isFloating, wrapU16_eq_clampU16_iff]

/-- A floating-point number beyond the range is clamped. -/
theorem variantToU16_eq_clampU16_float :
    variantToU16 (some (.float (.finite 70000))) = clampU16 70000 :=
  (variantToU16_eq_clampU16_iff (n := 70000) (by simp [Variant.Holds])).mpr (.inl rfl)

/-- Minus one, in an `Int16`, becomes the largest register value. -/
theorem variantToU16_minus_one_is_largest :
    Variant.Holds (-1) (.int16 (-1)) ∧
      variantToU16 (some (.int16 (-1))) ≠ clampU16 (-1) :=
  ⟨rfl, by decide⟩

end VyuhHmi
