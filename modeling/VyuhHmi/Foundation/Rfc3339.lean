import VyuhHmi.Foundation.Calendar
import VyuhHmi.Foundation.FixedWidth

/-!
# RFC 3339 texts

A UTC instant is written as its date, its time of day and the offset `+00:00`.  The seconds have a
fraction of three, six or nine digits, the fewest that are exact, or none.  For the years that are
written with four digits the texts are in the order of the instants, byte for byte: the fields are
of fixed width up to the fraction, and both the sign of the offset and the point sort below the
digits.
-/

namespace Rfc3339

open FixedWidth

/-- A UTC instant in nanoseconds since the Unix epoch, also before it. -/
abbrev Instant := ℤ

def nanosPerSecond : ℕ := 1000000000

def nanosPerDay : ℕ := 86400 * nanosPerSecond

/-- The first of January 1970. -/
def epochDay : ℤ := 719528

/-- The calendar day of an instant. -/
def dayOf (t : Instant) : ℤ := epochDay + t / nanosPerDay

/-- The nanoseconds of the day. -/
def timeOf (t : Instant) : ℕ := (t % nanosPerDay).toNat

/-- Four digits, or a sign and at least four. -/
def yearText (year : ℤ) : List Char :=
  if 0 ≤ year ∧ year ≤ 9999 then digits 4 year.toNat
  else
    let number := Nat.toDigits 10 year.natAbs
    (if year < 0 then '-' else '+') :: (List.replicate (4 - number.length) '0' ++ number)

/-- The fraction of a second: as many groups of three digits as it takes. -/
def fraction (nanos : ℕ) : List Char :=
  if nanos = 0 then []
  else if nanos % 1000000 = 0 then '.' :: digits 3 (nanos / 1000000)
  else if nanos % 1000 = 0 then '.' :: digits 6 (nanos / 1000)
  else '.' :: digits 9 nanos

def dateText (date : Calendar.Date) : List Char :=
  yearText date.year ++ '-' :: (digits 2 date.month ++ '-' :: digits 2 date.day)

/-- The time of a day in nanoseconds. -/
def timeText (time : ℕ) : List Char :=
  let seconds := time / nanosPerSecond
  digits 2 (seconds / 3600) ++ ':' :: (digits 2 (seconds / 60 % 60) ++ ':' ::
    (digits 2 (seconds % 60) ++ fraction (time % nanosPerSecond)))

def text (t : Instant) : List Char :=
  dateText (Calendar.dateOf (dayOf t)) ++ 'T' :: (timeText (timeOf t) ++ "+00:00".toList)

/-- `DateTime::<Utc>::to_rfc3339`. -/
def toRfc3339 (t : Instant) : String := String.ofList (text t)

/-- The year has four digits. -/
def FourDigitYear (t : Instant) : Prop :=
  0 ≤ Calendar.yearOf (dayOf t) ∧ Calendar.yearOf (dayOf t) ≤ 9999

instance (t : Instant) : Decidable (FourDigitYear t) := inferInstanceAs (Decidable (_ ∧ _))

/-- The instants that have a value of type `DateTime<Utc>`. -/
def InRange (t : Instant) : Prop :=
  -262143 ≤ Calendar.yearOf (dayOf t) ∧ Calendar.yearOf (dayOf t) ≤ 262142

instance (t : Instant) : Decidable (InRange t) := inferInstanceAs (Decidable (_ ∧ _))

example : toRfc3339 1705314600120000000 = "2024-01-15T10:30:00.120+00:00" := by decide

/-! ## Times of the day -/

theorem fraction_eq (nanos : ℕ) :
    fraction nanos = if nanos = 0 then [] else '.' :: trimmed 3 nanos := by
  unfold fraction
  split
  case isTrue => rfl
  case isFalse hpos =>
      have hsix : digits 6 (nanos / 1000) =
          digits 3 (nanos / 1000000) ++ digits 3 (nanos % 1000000 / 1000) := by
        rw [digits_add 3 3, Nat.div_div_eq_div_mul, ← digits_mod 3 (nanos / 1000)]
        congr 2
        omega
      have hnine : digits 9 nanos =
          digits 3 (nanos / 1000000) ++
            (digits 3 (nanos % 1000000 / 1000) ++ digits 3 (nanos % 1000000 % 1000)) := by
        rw [← List.append_assoc, ← hsix, digits_add 6 3, ← digits_mod 3 nanos]
        congr 2
        omega
      simp only [trimmed, hpos, if_false, Nat.reducePow, Nat.div_one]
      by_cases hmillis : nanos % 1000000 = 0
      · simp [hmillis]
      · by_cases hmicros : nanos % 1000 = 0
        · have hlast : nanos % 1000000 % 1000 = 0 := by omega
          simp [hmillis, hmicros, hlast, hsix]
        · simp [hmillis, hmicros, hnine]

/-- A longer fraction of the same beginning comes later. -/
theorem fraction_lt {n m : ℕ} (hlt : n < m) (hm : m < 1000 ^ 3) (u v : List Char) :
    fraction n ++ '+' :: u < fraction m ++ '+' :: v := by
  rw [fraction_eq, fraction_eq, if_neg (Nat.ne_of_gt (Nat.zero_lt_of_lt hlt))]
  split
  case isTrue => exact List.cons_lt_cons_iff.mpr (.inl (by decide))
  case isFalse =>
      exact List.cons_lt_cons_iff.mpr (.inr ⟨rfl, trimmed_lt_trimmed hlt hm (by decide) u v⟩)

/-- **Times of one day.** -/
theorem timeText_lt {n m : ℕ} (hlt : n < m) (hm : m < nanosPerDay) (u v : List Char) :
    timeText n ++ '+' :: u < timeText m ++ '+' :: v := by
  have hsecond (time : ℕ) : time % nanosPerSecond < 1000 ^ 3 := Nat.mod_lt time (by decide)
  have hhour : m / nanosPerSecond / 3600 < 10 ^ 2 := by
    simp only [nanosPerDay, nanosPerSecond] at hm ⊢
    omega
  have hminute : m / nanosPerSecond / 60 % 60 < 10 ^ 2 := by omega
  have hsec : m / nanosPerSecond % 60 < 10 ^ 2 := by omega
  -- the first field that differs
  have horder : n / nanosPerSecond < m / nanosPerSecond ∨ n / nanosPerSecond = m / nanosPerSecond ∧
      n % nanosPerSecond < m % nanosPerSecond := by
    simp only [nanosPerSecond]
    omega
  simp only [timeText, List.append_assoc, List.cons_append]
  refine field_sep_lt hhour ':' ?_
  rcases horder with hseconds | ⟨hseconds, hnanos⟩
  · generalize n / nanosPerSecond = second at hseconds ⊢
    generalize m / nanosPerSecond = second' at hseconds hminute hsec ⊢
    have hfields : second / 3600 < second' / 3600 ∨ second / 3600 = second' / 3600 ∧
        (second / 60 % 60 < second' / 60 % 60 ∨ second / 60 % 60 = second' / 60 % 60 ∧
          second % 60 < second' % 60) := by omega
    refine hfields.imp_right fun ⟨hsame, hrest⟩ ↦ ⟨hsame, field_sep_lt hminute ':' ?_⟩
    exact hrest.imp_right fun ⟨hsame, hrest⟩ ↦ ⟨hsame, field_lt hsec (.inl hrest)⟩
  · rw [hseconds]
    refine .inr ⟨rfl, field_sep_lt hminute ':' (.inr ⟨rfl, field_lt hsec (.inr ⟨rfl, ?_⟩)⟩)⟩
    exact fraction_lt hnanos (hsecond m) u v

/-! ## Instants -/

theorem dateText_lt {date date' : Calendar.Date} (h : date.Before date') (hyear : 0 ≤ date.year)
    (hyear' : date'.year ≤ 9999) (hmonth : date'.month ≤ 12) (hday : date'.day ≤ 31)
    (u v : List Char) : dateText date ++ 'T' :: u < dateText date' ++ 'T' :: v := by
  have hle : date.year ≤ date'.year := h.elim Int.le_of_lt fun hsame ↦ Int.le_of_eq hsame.1
  have htext : yearText date.year = digits 4 date.year.toNat :=
    if_pos ⟨hyear, Int.le_trans hle hyear'⟩
  have htext' : yearText date'.year = digits 4 date'.year.toNat :=
    if_pos ⟨Int.le_trans hyear hle, hyear'⟩
  have hwidth : date'.year.toNat < 10 ^ 4 := by omega
  simp only [dateText, htext, htext', List.append_assoc, List.cons_append]
  refine field_sep_lt hwidth '-' ?_
  rcases h with hearlier | ⟨hsame, hrest⟩
  · exact .inl (by omega)
  · refine .inr ⟨congrArg Int.toNat hsame, field_sep_lt (by omega) '-' ?_⟩
    refine hrest.imp_right fun ⟨hmonths, hdays⟩ ↦ ⟨hmonths, ?_⟩
    exact field_sep_lt (by omega) 'T' (.inl hdays)

/-- A later instant is on a later day, or later on the same day. -/
theorem dayOf_lt_or {t t' : ℤ} (h : t < t') :
    dayOf t < dayOf t' ∨ dayOf t = dayOf t' ∧ timeOf t < timeOf t' := by
  unfold dayOf timeOf
  simp only [nanosPerDay, nanosPerSecond]
  omega

theorem timeOf_lt (t : Instant) : timeOf t < nanosPerDay := by
  unfold timeOf
  simp only [nanosPerDay, nanosPerSecond]
  omega

/-- **Order of the texts.** -/
theorem text_lt {t t' : Instant} (hyear : FourDigitYear t) (hyear' : FourDigitYear t')
    (h : t < t') : text t < text t' := by
  obtain ⟨hmonth, hday⟩ := Calendar.dateOf_bounds (dayOf t')
  unfold text
  rcases dayOf_lt_or h with hearlier | ⟨hsame, htime⟩
  · exact dateText_lt (Calendar.dateOf_before hearlier) hyear.1 hyear'.2 hmonth hday _ _
  · rw [hsame]
    refine List.append_left_lt (List.cons_lt_cons_iff.mpr (.inr ⟨rfl, ?_⟩))
    exact timeText_lt htime (timeOf_lt t') _ _

/-- A year before the year 0 has a sign, which sorts below the digits. -/
theorem text_lt_of_year_neg {t t' : Instant} (hneg : Calendar.yearOf (dayOf t) < 0)
    (hyear' : FourDigitYear t') : text t < text t' := by
  have hdate : (Calendar.dateOf (dayOf t)).year < 0 := hneg
  have hsign : text t = '-' :: (text t).tail := by
    unfold text dateText yearText
    rw [if_neg fun h ↦ absurd h.1 (Int.not_le.mpr hdate), if_pos hdate]
    rfl
  have hdate' : 0 ≤ (Calendar.dateOf (dayOf t')).year ∧ (Calendar.dateOf (dayOf t')).year ≤ 9999 :=
    hyear'
  have htext' : ∃ rest, text t' =
      digits 4 (Calendar.dateOf (dayOf t')).year.toNat ++ rest := by
    unfold text dateText yearText
    rw [if_pos hdate', List.append_assoc]
    exact ⟨_, rfl⟩
  obtain ⟨rest, htext'⟩ := htext'
  cases hdigits : digits 4 (Calendar.dateOf (dayOf t')).year.toNat with
  | nil =>
      have hlength := length_digits 4 (Calendar.dateOf (dayOf t')).year.toNat
      rw [hdigits] at hlength
      cases hlength
  | cons c cs =>
      have hdigit : c.isDigit := by
        have hmem : c ∈ digits 4 (Calendar.dateOf (dayOf t')).year.toNat := by
          rw [hdigits]
          exact List.mem_cons_self
        exact isDigit_of_mem_digits hmem
      rw [hsign, htext', hdigits, List.cons_append]
      refine List.cons_lt_cons_iff.mpr (.inl ?_)
      simp only [Char.isDigit, Bool.and_eq_true, decide_eq_true_eq] at hdigit
      exact UInt32.lt_of_lt_of_le (by decide) hdigit.1

/-! ## Bytes -/

theorem isAscii_of_isDigit {c : Char} (h : c.isDigit) : c.val ≤ 127 := by
  simp only [Char.isDigit, Bool.and_eq_true, decide_eq_true_eq] at h
  exact UInt32.le_trans h.2 (by decide)

theorem isAscii_of_mem_digits {width n : ℕ} {c : Char} (h : c ∈ digits width n) : c.val ≤ 127 :=
  isAscii_of_isDigit (isDigit_of_mem_digits h)

theorem isAscii_of_mem_yearText {year : ℤ} {c : Char} (h : c ∈ yearText year) : c.val ≤ 127 := by
  unfold yearText at h
  split at h
  case isTrue => exact isAscii_of_mem_digits h
  case isFalse =>
      rcases List.mem_cons.mp h with rfl | h
      · split <;> decide
      · rcases List.mem_append.mp h with h | h
        · rw [(List.mem_replicate.mp h).2]
          decide
        · exact isAscii_of_isDigit (Nat.isDigit_of_mem_toDigits (by decide) (by decide) h)

theorem isAscii_of_mem_fraction {nanos : ℕ} {c : Char} (h : c ∈ fraction nanos) :
    c.val ≤ 127 := by
  unfold fraction at h
  split at h
  · cases h
  · split at h
    · rcases List.mem_cons.mp h with rfl | h
      · decide
      · exact isAscii_of_mem_digits h
    · split at h
      all_goals
        rcases List.mem_cons.mp h with rfl | h
        · decide
        · exact isAscii_of_mem_digits h

theorem isAscii_of_mem_text {t : Instant} {c : Char} (h : c ∈ text t) : c.val ≤ 127 := by
  simp only [text, dateText, timeText, List.mem_append, List.mem_cons] at h
  rcases h with (h | rfl | h | rfl | h) | rfl | (h | rfl | h | rfl | h | h) | h
  case inl.inl => exact isAscii_of_mem_yearText h
  case inr.inr.inl.inr.inr.inr.inr.inr => exact isAscii_of_mem_fraction h
  case inr.inr.inr =>
      have hoffset : ("+00:00".toList.all fun c ↦ decide (c.val ≤ 127)) = true := by decide
      exact of_decide_eq_true (List.all_eq_true.mp hoffset c h)
  all_goals
    first
    | decide
    | exact isAscii_of_mem_digits h

/-- **Order.** Byte for byte, texts of four-digit years are in the order of their instants. -/
theorem bytes_toRfc3339_lt_iff {t t' : Instant} (hyear : FourDigitYear t)
    (hyear' : FourDigitYear t') : bytes (toRfc3339 t) < bytes (toRfc3339 t') ↔ t < t' := by
  have hlt {u u' : Instant} (hu : FourDigitYear u) (hu' : FourDigitYear u') (h : u < u') :
      bytes (toRfc3339 u) < bytes (toRfc3339 u') :=
    bytes_lt_bytes (fun _ ↦ isAscii_of_mem_text) (fun _ ↦ isAscii_of_mem_text) (text_lt hu hu' h)
  refine ⟨fun hbytes ↦ ?_, hlt hyear hyear'⟩
  rcases Int.lt_trichotomy t t' with hbefore | rfl | hafter
  · exact hbefore
  · exact absurd hbytes (List.lt_irrefl _)
  · exact absurd hbytes (List.lt_asymm (hlt hyear' hyear hafter))

/-- The same against an instant that may also lie before the year 0. -/
theorem bytes_toRfc3339_lt_iff_of_le {t t' : Instant} (hyear : FourDigitYear t)
    (hyear' : Calendar.yearOf (dayOf t') ≤ 9999) :
    bytes (toRfc3339 t) < bytes (toRfc3339 t') ↔ t < t' := by
  by_cases hneg : Calendar.yearOf (dayOf t') < 0
  · have hbytes : bytes (toRfc3339 t') < bytes (toRfc3339 t) :=
      bytes_lt_bytes (fun _ ↦ isAscii_of_mem_text) (fun _ ↦ isAscii_of_mem_text)
        (text_lt_of_year_neg hneg hyear)
    have hlater : ¬ t < t' := by
      intro hlt
      have hday : dayOf t ≤ dayOf t' := (dayOf_lt_or hlt).elim Int.le_of_lt fun h ↦ Int.le_of_eq h.1
      exact absurd (Int.le_trans hyear.1 (Calendar.yearOf_mono hday)) (Int.not_le.mpr hneg)
    exact iff_of_false (List.lt_asymm hbytes) hlater
  · exact bytes_toRfc3339_lt_iff hyear ⟨Int.not_lt.mp hneg, hyear'⟩

end Rfc3339
