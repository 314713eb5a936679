import Mathlib.Algebra.Ring.Nat
import Mathlib.Data.Int.Notation
import Mathlib.Data.Nat.Notation

/-!
# The Gregorian calendar

Days are counted from the first of January of the year zero, and years before it are negative.  The
year of a day is guessed from the mean length of a year and corrected by one; the month follows from
the lengths of the months.  Dates are in the order of their days.
-/

namespace Calendar

/-- The days before the first of January of a year. -/
def daysBefore (year : ℤ) : ℤ := 365 * year + (year + 3) / 4 - (year + 99) / 100 + (year + 399) / 400

def isLeap (year : ℤ) : Bool := year % 4 = 0 && (year % 100 ≠ 0 || year % 400 = 0)

/-- The year that a day falls into. -/
def yearOf (day : ℤ) : ℤ :=
  let guess := 400 * day / 146097
  if day < daysBefore guess then guess - 1
  else if day < daysBefore (guess + 1) then guess
  else guess + 1

/-- The lengths of the months. -/
def monthLengths (leap : Bool) : List ℕ :=
  [31, if leap then 29 else 28, 31, 30, 31, 30, 31, 31, 30, 31, 30, 31]

/-- The month and the day of the month, both counted from one, of the day of a year counted from
zero. -/
def monthDay : List ℕ → ℕ → ℕ × ℕ
  | [], dayOfYear => (1, dayOfYear + 1)
  | length :: lengths, dayOfYear =>
      if dayOfYear < length then (1, dayOfYear + 1)
      else ((monthDay lengths (dayOfYear - length)).1 + 1, (monthDay lengths (dayOfYear - length)).2)

/-- A date of the calendar. -/
structure Date where
  year : ℤ
  month : ℕ
  day : ℕ
deriving DecidableEq

/-- The day of its year, counted from zero. -/
def dayOfYear (day : ℤ) : ℕ := (day - daysBefore (yearOf day)).toNat

def dateOf (day : ℤ) : Date :=
  let (month, dayOfMonth) := monthDay (monthLengths (isLeap (yearOf day))) (dayOfYear day)
  ⟨yearOf day, month, dayOfMonth⟩

/-! ## Years -/

theorem daysBefore_succ (year : ℤ) :
    daysBefore (year + 1) = daysBefore year + 365 + if isLeap year then 1 else 0 := by
  have hleap : isLeap year = true ↔ year % 4 = 0 ∧ (year % 100 ≠ 0 ∨ year % 400 = 0) := by
    simp [isLeap]
  unfold daysBefore
  split
  case isTrue h =>
      have hyear := hleap.mp h
      omega
  case isFalse h =>
      have hyear := mt hleap.mpr h
      omega

theorem daysBefore_lt_iff {year year' : ℤ} : daysBefore year < daysBefore year' ↔ year < year' := by
  unfold daysBefore
  omega

/-- A day falls between the beginnings of its year and the next. -/
theorem yearOf_spec (day : ℤ) :
    daysBefore (yearOf day) ≤ day ∧ day < daysBefore (yearOf day + 1) := by
  unfold yearOf
  simp only
  split
  case isTrue hbefore =>
      rw [Int.sub_add_cancel]
      refine ⟨?_, hbefore⟩
      unfold daysBefore
      omega
  case isFalse hbefore =>
      split
      case isTrue hwithin => exact ⟨Int.not_lt.mp hbefore, hwithin⟩
      case isFalse hwithin =>
          refine ⟨Int.not_lt.mp hwithin, ?_⟩
          unfold daysBefore
          omega

theorem yearOf_mono {day day' : ℤ} (h : day ≤ day') : yearOf day ≤ yearOf day' := by
  have hlt : daysBefore (yearOf day) < daysBefore (yearOf day' + 1) :=
    Int.lt_of_le_of_lt (Int.le_trans (yearOf_spec day).1 h) (yearOf_spec day').2
  exact Int.lt_add_one_iff.mp (daysBefore_lt_iff.mp hlt)

/-! ## Months -/

theorem monthDay_bounds {lengths : List ℕ} (hlengths : ∀ length ∈ lengths, length ≤ 31) {n : ℕ}
    (hn : n < lengths.sum) :
    (monthDay lengths n).1 ≤ lengths.length ∧ (monthDay lengths n).2 ≤ 31 := by
  induction lengths generalizing n with
  | nil => cases hn
  | cons length lengths ih =>
      rw [List.forall_mem_cons] at hlengths
      rw [List.sum_cons] at hn
      rw [monthDay, List.length_cons]
      split
      case isTrue hwithin => exact ⟨Nat.succ_le_succ (Nat.zero_le _), by omega⟩
      case isFalse =>
          obtain ⟨hmonth, hday⟩ := @ih hlengths.2 (n - length) (by omega)
          exact ⟨Nat.succ_le_succ hmonth, hday⟩

theorem one_le_month (lengths : List ℕ) (n : ℕ) : 1 ≤ (monthDay lengths n).1 := by
  cases lengths with
  | nil => exact Nat.le_refl 1
  | cons length lengths =>
      rw [monthDay]
      split
      · exact Nat.le_refl 1
      · exact Nat.succ_le_succ (Nat.zero_le _)

/-- A later day of a year has a later month, or a later day of the same month. -/
theorem monthDay_lt {n m : ℕ} (h : n < m) (lengths : List ℕ) :
    (monthDay lengths n).1 < (monthDay lengths m).1 ∨
      (monthDay lengths n).1 = (monthDay lengths m).1 ∧
        (monthDay lengths n).2 < (monthDay lengths m).2 := by
  induction lengths generalizing n m with
  | nil => exact .inr ⟨rfl, Nat.succ_lt_succ h⟩
  | cons length lengths ih =>
      rw [monthDay, monthDay]
      split
      case isTrue hn =>
          split
          case isTrue => exact .inr ⟨rfl, Nat.succ_lt_succ h⟩
          case isFalse => exact .inl (Nat.succ_lt_succ (one_le_month lengths (m - length)))
      case isFalse hn =>
          rw [if_neg (by omega : ¬m < length)]
          rcases @ih (n - length) (m - length) (by omega) with hmonth | ⟨hmonth, hday⟩
          · exact .inl (Nat.succ_lt_succ hmonth)
          · exact .inr ⟨congrArg (· + 1) hmonth, hday⟩

/-! ## Dates -/

/-- One date comes before another. -/
def Date.Before (date date' : Date) : Prop :=
  date.year < date'.year ∨ date.year = date'.year ∧
    (date.month < date'.month ∨ date.month = date'.month ∧ date.day < date'.day)

/-- **Order.** A later day has a later date. -/
theorem dateOf_before {day day' : ℤ} (h : day < day') : (dateOf day).Before (dateOf day') := by
  rcases Int.lt_or_eq_of_le (yearOf_mono (Int.le_of_lt h)) with hyear | hyear
  · exact .inl hyear
  · refine .inr ⟨hyear, ?_⟩
    have hday : dayOfYear day < dayOfYear day' := by
      have hbegin := (yearOf_spec day).1
      unfold dayOfYear
      rw [← hyear]
      omega
    have hlater := monthDay_lt hday (monthLengths (isLeap (yearOf day)))
    unfold dateOf
    rw [← hyear]
    exact hlater

theorem dateOf_bounds (day : ℤ) : (dateOf day).month ≤ 12 ∧ (dateOf day).day ≤ 31 := by
  have hlengths (leap : Bool) : ∀ length ∈ monthLengths leap, length ≤ 31 := by
    cases leap <;> decide
  have hsum : (monthLengths (isLeap (yearOf day))).sum =
      365 + if isLeap (yearOf day) then 1 else 0 := by
    cases isLeap (yearOf day) <;> decide
  have hday : dayOfYear day < (monthLengths (isLeap (yearOf day))).sum := by
    obtain ⟨hbegin, hend⟩ := yearOf_spec day
    have hsucc := daysBefore_succ (yearOf day)
    unfold dayOfYear
    rw [hsum]
    split at hsucc
    case isTrue hleap =>
        rw [if_pos hleap]
        omega
    case isFalse hleap =>
        rw [if_neg hleap]
        omega
  exact monthDay_bounds (hlengths _) hday

end Calendar
