import PropertyTemplates.Proofs.Instant.Text
import PropertyTemplates.Run.Record

namespace PropertyTemplates

def daysInYear (year : Int) : Nat := if isLeapYear year then 366 else 365

-- The leap years from the year 1 up to a year.
def leapYears (year : Int) : Int := year / 4 - year / 100 + year / 400

-- The days from the start of 1970 to the start of a year.
def yearStart (year : Int) : Int :=
  365 * (year - 1970) + leapYears (year - 1) - leapYears 1969

-- The days of a year before a month.
def daysBefore (year : Int) : Nat → Nat
  | 0 => 0
  | 1 => 0
  | month + 2 => daysBefore year (month + 1) + daysInMonth year (month + 1)

theorem yearStart_succ (year : Int) : yearStart (year + 1) = yearStart year + daysInYear year := by
  have hleap : leapYears year = leapYears (year - 1) + if isLeapYear year then 1 else 0 := by
    simp only [leapYears, isLeapYear, Bool.or_eq_true, Bool.and_eq_true, beq_iff_eq, bne_iff_ne]
    split <;> omega
  have hbefore : year + 1 - 1 = year := by omega
  rw [yearStart, hbefore, hleap, yearStart, daysInYear]
  split <;> omega

theorem daysBefore_succ (year : Int) {month : Nat} (h : 1 ≤ month) :
    daysBefore year (month + 1) = daysBefore year month + daysInMonth year month := by
  obtain ⟨m, rfl⟩ := Nat.exists_eq_add_of_le' h
  rw [daysBefore]

-- The months of a year have all of its days.
theorem daysBefore_december (year : Int) :
    daysBefore year 12 + daysInMonth year 12 = daysInYear year := by
  cases h : isLeapYear year <;> simp [daysBefore, daysInMonth, daysInYear, h]

namespace Day

-- How many days after the start of 1970 a day is.
def number (d : Day) : Int := yearStart d.year + daysBefore d.year d.month + (d.day - 1)

-- A day that is in the calendar, whatever its year.
structure InCalendar (d : Day) : Prop where
  month : 1 ≤ d.month ∧ d.month ≤ 12
  day : 1 ≤ d.day ∧ d.day ≤ daysInMonth d.year d.month

variable {d : Day}

theorem one_le_daysInMonth (year : Int) (month : Nat) : 1 ≤ daysInMonth year month := by
  unfold daysInMonth
  repeat' split
  all_goals decide

theorem next_of_lt (h : d.day < daysInMonth d.year d.month) :
    d.next = ⟨d.year, d.month, d.day + 1⟩ := if_pos h

theorem next_of_month (hday : ¬d.day < daysInMonth d.year d.month) (h : d.month < 12) :
    d.next = ⟨d.year, d.month + 1, 1⟩ := (if_neg hday).trans (if_pos h)

theorem next_of_year (hday : ¬d.day < daysInMonth d.year d.month) (h : ¬d.month < 12) :
    d.next = ⟨d.year + 1, 1, 1⟩ := (if_neg hday).trans (if_neg h)

theorem InCalendar.next (h : d.InCalendar) : d.next.InCalendar := by
  obtain ⟨⟨hfirst, hlast⟩, hday, -⟩ := h
  by_cases hlt : d.day < daysInMonth d.year d.month
  · rw [next_of_lt hlt]
    exact ⟨⟨hfirst, hlast⟩, Nat.le_add_left _ _, hlt⟩
  · by_cases hmonth : d.month < 12
    · rw [next_of_month hlt hmonth]
      exact ⟨⟨Nat.le_add_left _ _, hmonth⟩, Nat.le_refl _, one_le_daysInMonth _ _⟩
    · rw [next_of_year hlt hmonth]
      exact ⟨⟨Nat.le_refl _, Nat.le_add_left _ _⟩, Nat.le_refl _, one_le_daysInMonth _ _⟩

-- The next day is one day later, also at the end of a month and at the end of a year.
theorem number_next (h : d.InCalendar) : d.next.number = d.number + 1 := by
  obtain ⟨⟨hfirst, hlast⟩, hday, hend⟩ := h
  by_cases hlt : d.day < daysInMonth d.year d.month
  · rw [next_of_lt hlt]
    simp only [number]
    omega
  · have hlastDay : d.day = daysInMonth d.year d.month := by omega
    by_cases hmonth : d.month < 12
    · have hdays := daysBefore_succ d.year hfirst
      rw [next_of_month hlt hmonth]
      simp only [number, hlastDay, hdays]
      omega
    · have hdecember : d.month = 12 := by omega
      have hdays := daysBefore_december d.year
      have hjanuary : daysBefore (d.year + 1) 1 = 0 := rfl
      rw [next_of_year hlt hmonth]
      simp only [number, hlastDay, hdecember, hjanuary, yearStart_succ]
      omega

theorem le_year_next (d : Day) : d.year ≤ d.next.year := by
  unfold next
  split
  · exact Int.le_refl _
  · split
    · exact Int.le_refl _
    · exact Int.le.intro 1 rfl

theorem after_succ (days : Nat) : after (days + 1) = (after days).next := rfl

theorem inCalendar_after (days : Nat) : (after days).InCalendar := by
  induction days with
  | zero => exact ⟨by decide, by decide⟩
  | succ days ih => exact after_succ days ▸ ih.next

theorem number_after (days : Nat) : (after days).number = days := by
  induction days with
  | zero => rfl
  | succ days ih =>
      rw [after_succ, number_next (inCalendar_after days), ih]
      rfl

theorem le_year_after (days : Nat) : 1970 ≤ (after days).year := by
  induction days with
  | zero => decide
  | succ days ih => exact Int.le_trans ih (le_year_next _)

theorem valid_after {days : Nat} (h : (after days).year ≤ 262142) : (after days).Valid := by
  obtain ⟨⟨hfirst, hlast⟩, hday, hend⟩ := inCalendar_after days
  have hyear := le_year_after days
  exact ⟨by omega, h, hfirst, hlast, hday, hend⟩

end Day

theorem TimeOfDay.valid_ofSeconds {seconds nano : Nat} (h : seconds < secondsPerDay)
    (hnano : nano < nanosPerSecond) : (TimeOfDay.ofSeconds seconds nano).Valid := by
  simp only [secondsPerDay] at h
  exact ⟨by simp only [ofSeconds]; omega, by simp only [ofSeconds]; omega,
    by simp only [ofSeconds]; omega, hnano⟩

namespace Instant

-- The nanoseconds since the start of 1970 in UTC.
def sinceEpoch (i : Instant) : Int :=
  (i.date.number * secondsPerDay + i.time.hour * 3600 + i.time.minute * 60 + i.time.second) *
    nanosPerSecond + i.time.nano

variable {nanos other : Nat}

-- The calendar covers the day of a point in time.
def Covered (nanos : Nat) : Prop :=
  (Day.after (nanos / nanosPerSecond / secondsPerDay)).year ≤ 262142

-- What a clock shows is read as the instant that it was asked at.
theorem parse_clockReading (h : Covered nanos) :
    ∃ i, parse (clockReading nanos) = some i ∧ i.sinceEpoch = nanos := by
  have hseconds : nanos / nanosPerSecond % secondsPerDay < secondsPerDay :=
    Nat.mod_lt _ (by decide)
  have hnano : nanos % nanosPerSecond < nanosPerSecond := Nat.mod_lt _ (by decide)
  let i : Instant := ⟨_, _, Day.valid_after h, TimeOfDay.valid_ofSeconds hseconds hnano⟩
  have hread : clockReading nanos = i.toText := rfl
  refine ⟨i, hread ▸ parse_toText i, ?_⟩
  simp only [i, sinceEpoch, Day.number_after, TimeOfDay.ofSeconds, secondsPerDay, nanosPerSecond]
  omega

-- Clocks that show the same are asked at the same time.
theorem clockReading_injOn (h : Covered nanos) (h' : Covered other)
    (heq : clockReading nanos = clockReading other) : nanos = other := by
  obtain ⟨i, hi, hnanos⟩ := parse_clockReading h
  obtain ⟨j, hj, hother⟩ := parse_clockReading h'
  rw [heq, hj] at hi
  cases hi
  omega

end Instant

end PropertyTemplates
