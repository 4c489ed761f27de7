import FormChain.Calendar.Date
import Mathlib.Algebra.Order.Ring.Int
import Mathlib.Data.Nat.Find

/-!
# Counting days

The number of a day counts the days of the calendar: the day after a day has the next number
(`FormChain.Date.next_spec`), over the ends of months and years, so that later days have greater
numbers (`FormChain.Date.dayNumber_lt`). What carries this is that a month begins when the one
before it is over (`FormChain.Date.monthStart_succ`), and a year when the one before it is
(`FormChain.Date.monthStart_next_year`).

The other way round, a number is the number of its day (`FormChain.Date.dayNumber_ofDayNumber`).
The year is found by a division that would be right if all years had as many days; before it, the
days of an era are evened (`FormChain.Date.evened`), and that this leaves each of its four hundred
years where it is is seen at the first day and the last one of each.
-/

namespace FormChain

namespace Date

/-! ### Days in a row -/

/-- **The day after a day.** -/
def next (d : Date) : Date :=
  if d.day < daysInMonth d.year d.month then { d with day := d.day + 1 }
  else if d.month < 12 then ⟨d.year, d.month + 1, 1⟩
  else ⟨d.year + 1, 1, 1⟩

section Counting

variable {d d' : Date} {y y' : Int} {m m' : Nat} {n : Int}

theorem isValid_iff : d.isValid = true ↔
    1 ≤ d.month ∧ d.month ≤ 12 ∧ 1 ≤ d.day ∧ d.day ≤ daysInMonth d.year d.month := by
  simp [isValid, and_assoc]

theorem isLeapYear_iff : isLeapYear y = true ↔ y % 4 = 0 ∧ (y % 100 ≠ 0 ∨ y % 400 = 0) := by
  simp [isLeapYear]

theorem daysBeforeMarch_eq (y : Int) : daysBeforeMarch y = 365 * y + y / 4 - y / 100 + y / 400 := by
  rw [daysBeforeMarch, Int.fdiv_eq_ediv_of_nonneg _ (by decide),
    Int.fdiv_eq_ediv_of_nonneg _ (by decide), Int.fdiv_eq_ediv_of_nonneg _ (by decide)]

/-- A year that begins in March has one day more if the next calendar year is a leap year. -/
theorem daysBeforeMarch_succ (y : Int) : daysBeforeMarch (y + 1) =
    daysBeforeMarch y + if isLeapYear (y + 1) then 366 else 365 := by
  simp only [daysBeforeMarch_eq, isLeapYear_iff]
  split <;> omega

/-- The month of the calendar that is so many months behind March. -/
def behindMarch (k : Nat) : Nat :=
  if k < 10 then k + 3 else k - 9

/-- In a year that begins in March, a month ends where the next one begins. Only the last month,
February, ends with its year. -/
theorem daysBeforeMonth_succ : ∀ k < 11,
    daysBeforeMonth (k + 1) = daysBeforeMonth k + daysInMonth 1 (behindMarch k) := by
  decide

/-- January and February are of the next year of the calendar. -/
theorem behindMarch_spec : ∀ k < 12, (behindMarch k + 9) % 12 = k ∧
    (behindMarch k ≤ 2 ↔ ¬ k < 10) ∧ 1 ≤ behindMarch k ∧ behindMarch k ≤ 12 := by
  decide

theorem daysInMonth_eq (y y' : Int) (h : m ≠ 2) : daysInMonth y m = daysInMonth y' m := by
  rw [daysInMonth, daysInMonth, if_neg h, if_neg h]

/-- The number of the first day of a month. -/
def monthStart (y : Int) (m : Nat) : Int :=
  dayNumber ⟨y, m, 1⟩

theorem monthStart_eq (y : Int) (m : Nat) : monthStart y m =
    daysBeforeMarch (if m ≤ 2 then y - 1 else y) + daysBeforeMonth ((m + 9) % 12) - 719468 := by
  simp only [monthStart, dayNumber, Int.ofNat_eq_natCast]
  omega

theorem dayNumber_eq (d : Date) : d.dayNumber = monthStart d.year d.month + d.day - 1 := by
  simp only [monthStart_eq, dayNumber, Int.ofNat_eq_natCast]
  omega

/-- **A month begins when the one before it is over.** -/
theorem monthStart_succ (y : Int) (h : 1 ≤ m) (h' : m < 12) :
    monthStart y (m + 1) = monthStart y m + daysInMonth y m := by
  rcases eq_or_ne m 2 with rfl | hm
  · -- the end of February is the one of its year
    have hyear := daysBeforeMarch_succ (y - 1)
    have hlength : daysInMonth y 2 = if isLeapYear y then 29 else 28 := rfl
    have hmarch : daysBeforeMonth ((2 + 1 + 9) % 12) = 0 := rfl
    have hfebruary : daysBeforeMonth ((2 + 9) % 12) = 337 := rfl
    rw [Int.sub_add_cancel] at hyear
    rw [monthStart_eq, monthStart_eq, hmarch, hfebruary, hlength, if_neg (by decide),
      if_pos (Nat.le_refl 2), hyear]
    split <;> omega
  · have hbehind : behindMarch ((m + 9) % 12) = m := by
      rw [behindMarch]
      split <;> omega
    have hnext : (m + 1 + 9) % 12 = (m + 9) % 12 + 1 := by omega
    have hend := daysBeforeMonth_succ ((m + 9) % 12) (by omega)
    rw [hbehind, daysInMonth_eq 1 y hm] at hend
    have hyear : (m + 1 ≤ 2) = (m ≤ 2) := propext (by omega)
    rw [monthStart_eq, monthStart_eq, hnext, hend]
    simp only [hyear]
    omega

/-- **A year begins when the one before it is over.** -/
theorem monthStart_next_year (y : Int) : monthStart (y + 1) 1 = monthStart y 12 + 31 := by
  have hjanuary : daysBeforeMonth ((1 + 9) % 12) = 306 := rfl
  have hdecember : daysBeforeMonth ((12 + 9) % 12) = 275 := rfl
  rw [monthStart_eq, monthStart_eq, hjanuary, hdecember, if_pos (by decide), if_neg (by decide),
    Int.add_sub_cancel]
  omega

theorem monthStart_le (h : 1 ≤ m) (hm : m ≤ m') (h' : m' ≤ 12) :
    monthStart y m ≤ monthStart y m' := by
  induction m', hm using Nat.le_induction with
  | base => exact Int.le_refl _
  | succ k hk ih =>
    have hstep := monthStart_succ y (Nat.le_trans h hk) h'
    have := ih (Nat.le_of_succ_le h')
    omega

theorem yearStart_le (h : y ≤ y') : monthStart y 1 ≤ monthStart y' 1 := by
  induction y', h using Int.leInduction with
  | base => exact Int.le_refl _
  | succ k hk ih =>
    have hyear := monthStart_next_year k
    have hmonth : monthStart k 1 ≤ monthStart k 12 :=
      monthStart_le (by decide) (by decide) (by decide)
    omega

/-- A day lies in its month. -/
theorem dayNumber_bounds (h : d.isValid = true) : monthStart d.year d.month ≤ d.dayNumber ∧
    d.dayNumber < monthStart d.year d.month + daysInMonth d.year d.month := by
  obtain ⟨-, -, hday, hday'⟩ := isValid_iff.mp h
  rw [dayNumber_eq]
  omega

theorem monthEnd_le (h : 1 ≤ m) (h' : m ≤ 12) :
    monthStart y m + daysInMonth y m ≤ monthStart (y + 1) 1 := by
  rcases Nat.lt_or_eq_of_le h' with hlt | rfl
  · rw [← monthStart_succ y h hlt, monthStart_next_year]
    have hlast : monthStart y (m + 1) ≤ monthStart y 12 := monthStart_le (by omega) hlt (by decide)
    omega
  · rw [monthStart_next_year]
    exact Int.le_refl _

/-- **Later days have greater numbers.** -/
theorem dayNumber_lt (hd : d.isValid = true) (hd' : d'.isValid = true)
    (h : d.year < d'.year ∨ d.year = d'.year ∧
      (d.month < d'.month ∨ d.month = d'.month ∧ d.day < d'.day)) :
    d.dayNumber < d'.dayNumber := by
  obtain ⟨hm, hm', -, -⟩ := isValid_iff.mp hd
  obtain ⟨hn, hn', -, -⟩ := isValid_iff.mp hd'
  have hin := (dayNumber_bounds hd).2
  have hin' := (dayNumber_bounds hd').1
  rcases h with hyear | ⟨hyear, hmonth | ⟨hmonth, hday⟩⟩
  · calc d.dayNumber < monthStart d.year d.month + daysInMonth d.year d.month := hin
      _ ≤ monthStart (d.year + 1) 1 := monthEnd_le hm hm'
      _ ≤ monthStart d'.year 1 := yearStart_le hyear
      _ ≤ monthStart d'.year d'.month := monthStart_le (Nat.le_refl 1) hn hn'
      _ ≤ d'.dayNumber := hin'
  · calc d.dayNumber < monthStart d.year d.month + daysInMonth d.year d.month := hin
      _ = monthStart d.year (d.month + 1) := (monthStart_succ _ hm (by omega)).symm
      _ ≤ monthStart d.year d'.month := monthStart_le (by omega) hmonth hn'
      _ ≤ d'.dayNumber := hyear ▸ hin'
  · rw [dayNumber_eq, dayNumber_eq, hyear, hmonth]
    omega

/-- **The day after a day** is a day of the calendar, and has the next number. -/
theorem next_spec (h : d.isValid = true) :
    d.next.isValid = true ∧ d.next.dayNumber = d.dayNumber + 1 := by
  obtain ⟨y, m, k⟩ := d
  simp only [isValid_iff] at h
  obtain ⟨hm, hm', hday, hday'⟩ := h
  have hone (y : Int) (m : Nat) : 1 ≤ daysInMonth y m := by
    simp only [daysInMonth]
    split <;> split <;> omega
  simp only [next]
  split
  case isTrue hlt =>
    simp only [isValid_iff, dayNumber_eq]
    exact ⟨⟨hm, hm', by omega, hlt⟩, by omega⟩
  case isFalse hlast =>
    split
    case isTrue hmonth =>
      have hstart := monthStart_succ y hm hmonth
      simp only [isValid_iff, dayNumber_eq]
      exact ⟨⟨by omega, hmonth, Nat.le_refl 1, hone ..⟩, by omega⟩
    case isFalse hyear =>
      obtain rfl : m = 12 := by omega
      have hstart := monthStart_next_year y
      have hlength : daysInMonth y 12 = 31 := rfl
      simp only [isValid_iff, dayNumber_eq]
      exact ⟨⟨Nat.le_refl 1, by decide, Nat.le_refl 1, hone ..⟩, by omega⟩

/-- The day after a day is one of the same year or of the next. -/
theorem year_next (d : Date) : d.next.year = d.year ∨ d.next.year = d.year + 1 := by
  rw [next]
  split
  · exact .inl rfl
  · split
    · exact .inl rfl
    · exact .inr rfl

end Counting

/-! ### The day of a number -/

/-- The days before a year of an era. -/
def daysBeforeYear (y : Nat) : Nat :=
  365 * y + y / 4 - y / 100 + y / 400

/-- The days of an era, made as many for every year. -/
def evened (e : Nat) : Nat :=
  e - e / 1460 + e / 36524 - e / 146096

section Eras

variable {e e' y : Nat} {n : Int}

theorem evened_le_evened (h : e ≤ e') : evened e ≤ evened e' := by
  simp only [evened]
  omega

/-- What is evened keeps its year, on the first day of a year and on its last. -/
theorem evened_daysBeforeYear : ∀ y < 400, 365 * y ≤ evened (daysBeforeYear y) ∧
    evened (daysBeforeYear (y + 1) - 1) < 365 * (y + 1) := by
  decide +kernel

/-- A day of an era lies in one of its years. -/
theorem exists_yearOfEra (h : e < 146097) :
    ∃ y < 400, daysBeforeYear y ≤ e ∧ e < daysBeforeYear (y + 1) := by
  -- the first year that ends behind the day
  have hend : ∃ y, e < daysBeforeYear (y + 1) := ⟨399, h⟩
  have hle : Nat.find hend ≤ 399 := Nat.find_min' hend h
  refine ⟨Nat.find hend, by omega, ?_, Nat.find_spec hend⟩
  cases hy : Nat.find hend with
  | zero => exact Nat.zero_le _
  | succ y =>
    have hbefore : ¬ e < daysBeforeYear (y + 1) := Nat.find_min hend (by omega)
    exact Nat.le_of_not_lt hbefore

/-- **The year of a day in its era.** -/
theorem evened_div (hy : y < 400) (h : daysBeforeYear y ≤ e) (h' : e < daysBeforeYear (y + 1)) :
    evened e / 365 = y := by
  obtain ⟨hfirst, hlast⟩ := evened_daysBeforeYear y hy
  have hlow := evened_le_evened h
  have hhigh : evened e ≤ evened (daysBeforeYear (y + 1) - 1) := evened_le_evened (by omega)
  omega

theorem daysBeforeMarch_era (era : Int) (hy : y ≤ 400) :
    daysBeforeMarch (y + era * 400) = era * 146097 + daysBeforeYear y := by
  simp only [daysBeforeMarch_eq, daysBeforeYear]
  omega

/-- The month of a year that begins in March, and the days before it. -/
theorem month_spec {r : Nat} (hr : r < 366) : (5 * r + 2) / 153 < 12 ∧
    daysBeforeMonth ((5 * r + 2) / 153) ≤ r ∧ r < daysBeforeMonth ((5 * r + 2) / 153 + 1) := by
  simp only [daysBeforeMonth]
  omega

/-- The steps in which the day of a number is found. -/
theorem ofDayNumber_steps {era : Int} {r m month : Nat}
    (hera : (n + 719468).fdiv daysInEra = era) (he : (n + 719468 - era * daysInEra).toNat = e)
    (hy : evened e / 365 = y) (hr : e - (365 * y + y / 4 - y / 100) = r)
    (hm : (5 * r + 2) / 153 = m) (hmonth : behindMarch m = month) :
    ofDayNumber n = ⟨if month ≤ 2 then Int.ofNat y + era * 400 + 1 else Int.ofNat y + era * 400,
      month, r - daysBeforeMonth m + 1⟩ := by
  subst hmonth hm hr hy he hera
  rfl

/-- **What the day of a number is**: a day of a year that begins in March. -/
theorem exists_ofDayNumber (n : Int) : ∃ (year : Int) (m r : Nat), m < 12 ∧
    n + 719468 = daysBeforeMarch year + r ∧ n + 719468 < daysBeforeMarch (year + 1) ∧
    daysBeforeMonth m ≤ r ∧ r < daysBeforeMonth (m + 1) ∧
    ofDayNumber n = ⟨if m < 10 then year else year + 1, behindMarch m,
      r - daysBeforeMonth m + 1⟩ := by
  obtain ⟨era, hera⟩ : ∃ era, (n + 719468).fdiv daysInEra = era := ⟨_, rfl⟩
  obtain ⟨e, he⟩ : ∃ e, (n + 719468 - era * daysInEra).toNat = e := ⟨_, rfl⟩
  have hdiv : (n + 719468) / 146097 = era := by
    rw [← hera, Int.fdiv_eq_ediv_of_nonneg _ (by decide)]
    rfl
  have hrest : n + 719468 = era * 146097 + e ∧ e < 146097 := by
    rw [← he, daysInEra]
    omega
  obtain ⟨y, hy, hstart, hend⟩ := exists_yearOfEra hrest.2
  have hbefore : 365 * y + y / 4 - y / 100 = daysBeforeYear y := by
    rw [daysBeforeYear]
    omega
  obtain ⟨r, hr⟩ : ∃ r, e - daysBeforeYear y = r := ⟨_, rfl⟩
  have hmarch := daysBeforeMarch_era era (Nat.le_of_lt hy)
  have hnext : daysBeforeMarch (y + era * 400 + 1) = era * 146097 + daysBeforeYear (y + 1) := by
    rw [Int.add_right_comm, ← Int.natCast_succ, daysBeforeMarch_era era hy]
  have hlength : daysBeforeMarch (y + era * 400 + 1) ≤ daysBeforeMarch (y + era * 400) + 366 := by
    rw [daysBeforeMarch_succ]
    split <;> omega
  obtain ⟨hmonth, hlow, hhigh⟩ := month_spec (r := r) (by omega)
  obtain ⟨m, hm⟩ : ∃ m, (5 * r + 2) / 153 = m := ⟨_, rfl⟩
  rw [hm] at hmonth hlow hhigh
  refine ⟨y + era * 400, m, r, hmonth, by omega, by omega, hlow, hhigh, ?_⟩
  rw [ofDayNumber_steps hera he (evened_div hy hstart hend) (hbefore ▸ hr) hm rfl]
  simp only [(behindMarch_spec m hmonth).2.1, ite_not]
  rfl

/-- **The day of a number has that number.** -/
theorem dayNumber_ofDayNumber (n : Int) : (ofDayNumber n).dayNumber = n := by
  obtain ⟨year, m, r, hm, hn, -, hlow, -, heq⟩ := exists_ofDayNumber n
  obtain ⟨hmonth, hwraps, -⟩ := behindMarch_spec m hm
  have hyear : (if ¬ m < 10 then (if m < 10 then year else year + 1) - 1 else
      if m < 10 then year else year + 1) = year := by by_cases hlt : m < 10 <;> simp [hlt]
  rw [heq, dayNumber]
  simp only [hwraps, hmonth, hyear, Int.ofNat_eq_natCast]
  omega

/-- The day of a number is a day of the calendar. -/
theorem isValid_ofDayNumber (n : Int) : (ofDayNumber n).isValid = true := by
  obtain ⟨year, m, r, hm, hn, hnext, hlow, hhigh, heq⟩ := exists_ofDayNumber n
  obtain ⟨hmonth, -, hfirst, hlast⟩ := behindMarch_spec m hm
  have hday : r - daysBeforeMonth m + 1 ≤
      daysInMonth (if m < 10 then year else year + 1) (behindMarch m) := by
    rcases Nat.lt_or_eq_of_le (Nat.le_of_lt_succ hm) with hlt | rfl
    · have hend := daysBeforeMonth_succ m hlt
      rw [daysInMonth_eq 1 (if m < 10 then year else year + 1) (by omega)] at hend
      omega
    · -- February ends with its year
      have hstart : daysBeforeMonth 11 = 337 := rfl
      have hlength : daysInMonth (year + 1) 2 = if isLeapYear (year + 1) then 29 else 28 := rfl
      rw [daysBeforeMarch_succ] at hnext
      change r - daysBeforeMonth 11 + 1 ≤ daysInMonth (year + 1) 2
      rw [hstart, hlength]
      split at hnext <;> split <;> omega
  rw [heq, isValid_iff]
  exact ⟨hfirst, hlast, Nat.le_add_left .., hday⟩

end Eras
end Date

end FormChain
