import Mathlib.Data.List.Nodup
import VyuhHmi.Models

/-!
# The users table

The column `username` is `UNIQUE` and `id` is the primary key: the table carries both as fields, so
a lookup by name finds the only row there is.
-/

namespace VyuhHmi

/-- User record from the database. -/
structure User where
  id : String
  username : String
  passwordHash : String
  role : String
  createdAt : Instant
  isActive : Bool
deriving DecidableEq

structure CreateUserRequest where
  username : String
  password : String
  role : String
deriving DecidableEq

/-- The `users` table. -/
structure UserTable where
  rows : List User
  uniqueId : (rows.map User.id).Nodup
  uniqueUsername : (rows.map User.username).Nodup

theorem nodup_map_append_singleton {α β : Type} {f : α → β} {rows : List α} {row : α}
    (hrows : (rows.map f).Nodup) (hfresh : f row ∉ rows.map f) :
    ((rows ++ [row]).map f).Nodup := by
  rw [List.map_append, List.nodup_append]
  refine ⟨hrows, List.nodup_singleton _, fun taken htaken added hadded ↦ ?_⟩
  rw [List.map_singleton, List.mem_singleton] at hadded
  rintro rfl
  exact hfresh (hadded ▸ htaken)

namespace UserTable

def empty : UserTable := ⟨[], List.nodup_nil, List.nodup_nil⟩

/-- `SELECT ... FROM users WHERE username = ?`. -/
def byUsername (users : UserTable) (username : String) : Option User :=
  users.rows.find? fun user ↦ user.username == username

/-- The row breaks a uniqueness constraint. -/
def conflicts (users : UserTable) (user : User) : Bool :=
  users.rows.any fun row ↦ row.id == user.id || row.username == user.username

/-- `INSERT INTO users`, with an id and a name that are not taken. -/
def insertFresh (users : UserTable) (user : User) (hfresh : users.conflicts user = false) :
    UserTable where
  rows := users.rows ++ [user]
  uniqueId := by
    refine nodup_map_append_singleton users.uniqueId fun hmem ↦ ?_
    obtain ⟨row, hrow, hid⟩ := List.mem_map.mp hmem
    have hnone := List.any_eq_false.mp hfresh row hrow
    simp [hid] at hnone
  uniqueUsername := by
    refine nodup_map_append_singleton users.uniqueUsername fun hmem ↦ ?_
    obtain ⟨row, hrow, hname⟩ := List.mem_map.mp hmem
    have hnone := List.any_eq_false.mp hfresh row hrow
    simp [hname] at hnone

@[simp] theorem rows_insertFresh (users : UserTable) (user : User)
    (hfresh : users.conflicts user = false) :
    (users.insertFresh user hfresh).rows = users.rows ++ [user] := rfl

end UserTable

/-! ## Passwords -/

/-- Minimum password length for new users, in bytes. -/
def minPasswordLength : ℕ := 8

/-- Unicode's upper case and lower case letters. -/
structure CharClasses where
  isUppercase : Char → Bool
  isLowercase : Char → Bool

/-- Validate password meets 21 CFR Part 11 complexity requirements. -/
def validatePasswordComplexity (classes : CharClasses) (password : String) : Except String Unit :=
  if password.utf8ByteSize < minPasswordLength then
    .error ("Password must be at least " ++ toString minPasswordLength ++ " characters")
  else
    let hasUpper := password.toList.any classes.isUppercase
    let hasLower := password.toList.any classes.isLowercase
    let hasDigit := password.toList.any Char.isDigit
    if !hasUpper || !hasLower || !hasDigit then
      .error "Password must contain uppercase, lowercase, and a digit"
    else .ok ()

/-- The characters that a password needs. -/
def hasRequiredClasses (classes : CharClasses) (password : String) : Bool :=
  password.toList.any classes.isUppercase && password.toList.any classes.isLowercase &&
    password.toList.any Char.isDigit

/-- The requirements as the error messages state them: the length is in characters. -/
def MeetsComplexity (classes : CharClasses) (password : String) : Prop :=
  minPasswordLength ≤ password.length ∧ hasRequiredClasses classes password = true

instance (classes : CharClasses) (password : String) :
    Decidable (MeetsComplexity classes password) :=
  inferInstanceAs (Decidable (_ ∧ _))

theorem validatePasswordComplexity_eq_ok_iff (classes : CharClasses) (password : String) :
    validatePasswordComplexity classes password = .ok () ↔
      minPasswordLength ≤ password.utf8ByteSize ∧
        hasRequiredClasses classes password = true := by
  simp only [validatePasswordComplexity, hasRequiredClasses]
  split
  · next hshort => simp [Nat.not_le.mpr hshort]
  · next hlong =>
      cases password.toList.any classes.isUppercase <;>
        cases password.toList.any classes.isLowercase <;>
        cases password.toList.any Char.isDigit <;>
        simp [Nat.le_of_not_lt hlong]

/-- Every character takes at least one byte. -/
theorem length_le_utf8ByteSize (text : String) : text.length ≤ text.utf8ByteSize := by
  induction text using String.push_induction with
  | empty => exact Nat.le_refl 0
  | push text last hle =>
      have hlast := last.utf8Size_pos
      rw [String.length_push, String.utf8ByteSize_push]
      omega

/-- **The length check agrees with its message** unless a password of fewer characters than the
minimum, with all the required ones among them, is long enough in bytes. -/
theorem validatePasswordComplexity_meets_iff (classes : CharClasses) (password : String) :
    (validatePasswordComplexity classes password = .ok () ↔ MeetsComplexity classes password) ↔
      minPasswordLength ≤ password.length ∨ password.utf8ByteSize < minPasswordLength ∨
        hasRequiredClasses classes password = false := by
  have hle := length_le_utf8ByteSize password
  rw [validatePasswordComplexity_eq_ok_iff]
  unfold MeetsComplexity
  cases hasRequiredClasses classes password with
  | false => simp
  | true => simp only [and_true, reduceCtorEq, or_false]; omega

/-- Unicode's classes on the characters of `"Aäöüx1"`. -/
def sampleClasses : CharClasses where
  isUppercase := Char.isUpper
  isLowercase letter := letter.isLower || letter == 'ä' || letter == 'ö' || letter == 'ü'

/-- Six characters, three of them of two bytes, pass. -/
theorem validatePasswordComplexity_accepts_six_characters :
    ¬(validatePasswordComplexity sampleClasses "Aäöüx1" = .ok () ↔
      MeetsComplexity sampleClasses "Aäöüx1") := by
  decide

end VyuhHmi
