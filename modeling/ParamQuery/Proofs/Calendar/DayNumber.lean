import ParamQuery.Calendar.Moment

/-!
# Days and microseconds are found again

The date of a day number has this day number, for all days of the calendar (`Date.exists_ofDayNumber?`), and there
are no others (`Date.dayNumber_lt`).  So a clock of offset 0 shows every microsecond of the years 1 to 9999, and none
beyond (`Moment.exists_ofMicros?`, `Moment.exists_micros_iff`).
-/

namespace ParamQuery.Calendar

/-- Whole periods of 400, 100, 4 and 1 years, and the days left over.  Only the last year of four has a day 365, and of
the years that close a century only the last of four has one. -/
theorem yearOfDay_spec (n : Nat) :
    ∃ cycles centuries fours years, centuries ≤ 3 ∧ fours ≤ 24 ∧ years ≤ 3 ∧
      (yearOfDay n).1 = 400 * cycles + 100 * centuries + 4 * fours + years + 1 ∧
      n = 146097 * cycles + 36524 * centuries + 1461 * fours + 365 * years + (yearOfDay n).2 ∧
      (yearOfDay n).2 ≤ 365 ∧ ((yearOfDay n).2 = 365 → years = 3 ∧ (fours = 24 → centuries = 3)) := by
  let inCycle := n % 146097
  let centuries := min (inCycle / 36524) 3
  let inCentury := inCycle - centuries * 36524
  let years := min (inCentury % 1461 / 365) 3
  have hcycle : n = 146097 * (n / 146097) + inCycle := (Nat.div_add_mod n 146097).symm
  have hcycle_lt : inCycle < 146097 := Nat.mod_lt _ (by decide)
  have hcentury : inCycle = 36524 * centuries + inCentury ∧ inCentury ≤ 36524 ∧
      (inCentury = 36524 → centuries = 3) := by omega
  have hfours : inCentury = 1461 * (inCentury / 1461) + inCentury % 1461 := (Nat.div_add_mod _ _).symm
  have hfours_lt : inCentury % 1461 < 1461 := Nat.mod_lt _ (by decide)
  have hyears : inCentury % 1461 = 365 * years + (inCentury % 1461 - years * 365) ∧
      inCentury % 1461 - years * 365 ≤ 365 ∧
      (inCentury % 1461 - years * 365 = 365 → years = 3 ∧ inCentury % 1461 = 1460) := by omega
  refine ⟨n / 146097, centuries, inCentury / 1461, years, by omega, by omega, by omega, rfl, ?_, hyears.2.1, ?_⟩
  · show n = _ + (inCentury % 1461 - years * 365)
    omega
  · intro hlast
    obtain ⟨hyears, hlast⟩ := hyears.2.2 hlast
    exact ⟨hyears, by omega⟩

theorem daysBeforeYear_periods (cycles : Nat) {centuries fours years : Nat} (hcenturies : centuries ≤ 3)
    (hfours : fours ≤ 24) (hyears : years ≤ 3) :
    daysBeforeYear (400 * cycles + 100 * centuries + 4 * fours + years + 1) =
      146097 * cycles + 36524 * centuries + 1461 * fours + 365 * years := by
  let past := 400 * cycles + 100 * centuries + 4 * fours + years
  have hfour : past / 4 = 100 * cycles + 25 * centuries + fours := by omega
  have hcentury : past / 100 = 4 * cycles + centuries := by omega
  have hcycle : past / 400 = cycles := by omega
  show 365 * past + past / 4 - past / 100 + past / 400 = _
  omega

theorem isLeap_of_fourth (cycles centuries : Nat) {fours : Nat} (hfours : fours ≤ 24)
    (hlast : fours = 24 → centuries = 3) :
    isLeap (400 * cycles + 100 * centuries + 4 * fours + 3 + 1) = true := by
  unfold isLeap
  rw [decide_eq_true_iff]
  omega

theorem daysInMonths_twelve (year : Nat) : daysInMonths year 12 = if isLeap year then 366 else 365 := by
  unfold daysInMonths
  simp only [daysInMonths, daysInMonth]
  split <;> rfl

/-- The days of a year are those of the years before it and less than a year. -/
theorem daysBeforeYear_yearOfDay (n : Nat) :
    1 ≤ (yearOfDay n).1 ∧ daysBeforeYear (yearOfDay n).1 + (yearOfDay n).2 = n ∧
      (yearOfDay n).2 < daysInMonths (yearOfDay n).1 12 := by
  obtain ⟨cycles, centuries, fours, years, hcenturies, hfours, hyears, hyear, hn, hrest, hlast⟩ := yearOfDay_spec n
  refine ⟨by omega, ?_, ?_⟩
  · rw [hyear, daysBeforeYear_periods cycles hcenturies hfours hyears]
    omega
  · rw [daysInMonths_twelve]
    rcases Nat.lt_or_eq_of_le hrest with hlt | heq
    · split <;> omega
    · obtain ⟨rfl, hclose⟩ := hlast heq
      rw [hyear, isLeap_of_fourth cycles centuries hfours hclose, if_pos rfl]
      omega

/-- By induction on the months left: the days before the month and within it stay together. -/
theorem monthOfDay_spec (year : Nat) {months month n : Nat} (hmonth : 1 ≤ month) (htwelve : month + months = 12)
    (hn : daysInMonths year (month - 1) + n < daysInMonths year 12) :
    (1 ≤ (monthOfDay year months month n).1 ∧ (monthOfDay year months month n).1 ≤ 12) ∧
      (monthOfDay year months month n).2 < daysInMonth year (monthOfDay year months month n).1 ∧
      daysInMonths year ((monthOfDay year months month n).1 - 1) + (monthOfDay year months month n).2 =
        daysInMonths year (month - 1) + n := by
  have hsucc : ∀ k, 1 ≤ k → daysInMonths year (k - 1) + daysInMonth year k = daysInMonths year k := by
    intro k hk
    obtain ⟨k, rfl⟩ := Nat.exists_eq_add_of_le' hk
    rfl
  induction months generalizing month n with
  | zero =>
    obtain rfl : month = 12 := htwelve
    have htotal := hsucc 12 (by decide)
    exact ⟨⟨hmonth, Nat.le_refl _⟩, by simp only [monthOfDay]; omega, rfl⟩
  | succ months ih =>
    have htotal := hsucc month hmonth
    unfold monthOfDay
    split
    · next hlt => exact ⟨⟨hmonth, by omega⟩, hlt, rfl⟩
    · have hnext := ih (n := n - daysInMonth year month) (Nat.le_add_left 1 month) (by omega)
        (by rw [Nat.add_sub_cancel]; omega)
      rw [Nat.add_sub_cancel] at hnext
      refine ⟨hnext.1, hnext.2.1, hnext.2.2.trans ?_⟩
      omega

namespace Date

/-- The days of the years 1 to 9999. -/
def dayCount : Nat := 3652059

/-- The last day of the year 9999 is the last one. -/
theorem lt_dayCount_iff {year inYear : Nat} (hyear : 1 ≤ year) (h : inYear < daysInMonths year 12) :
    daysBeforeYear year + inYear < dayCount ↔ year ≤ 9999 := by
  rw [daysInMonths_twelve] at h
  unfold daysBeforeYear dayCount
  simp only
  rcases Nat.lt_trichotomy year 9999 with hlt | rfl | hgt
  · have hleap : (if isLeap year then 366 else 365) ≤ 366 := by split <;> decide
    omega
  · have hcommon : isLeap 9999 = false := by decide
    simp only [hcommon, Bool.false_eq_true, ↓reduceIte] at h
    omega
  · rcases Nat.lt_or_eq_of_le hgt with hlt | rfl <;> omega

theorem ofDayNumber?_of_eq {n year rest month day : Nat} (hyear : yearOfDay n = (year, rest))
    (hmonth : monthOfDay year 11 1 rest = (month, day)) : ofDayNumber? n = of? year month (day + 1) := by
  unfold ofDayNumber?
  rw [hyear]
  dsimp only
  rw [hmonth]

/-- A day of the calendar has a date. -/
theorem exists_ofDayNumber? {n : Nat} (h : n < dayCount) : ∃ d, ofDayNumber? n = some d ∧ d.dayNumber = n := by
  obtain ⟨hfirst, hdays, hinYear⟩ := daysBeforeYear_yearOfDay n
  rcases hyear : yearOfDay n with ⟨year, rest⟩
  rw [hyear] at hfirst hdays hinYear
  have hlast : year ≤ 9999 := (lt_dayCount_iff hfirst hinYear).1 (by rwa [hdays])
  have hzero : daysInMonths year (1 - 1) + rest = rest := Nat.zero_add rest
  obtain ⟨htwelve, hday, hinMonth⟩ := monthOfDay_spec year (Nat.le_refl 1) (rfl : 1 + 11 = 12) (n := rest)
    (by rwa [hzero])
  rcases hmonth : monthOfDay year 11 1 rest with ⟨month, day⟩
  rw [hmonth] at htwelve hday hinMonth
  have hvalid : IsDate year month (day + 1) := ⟨⟨hfirst, hlast⟩, htwelve, Nat.le_add_left 1 day, hday⟩
  rw [ofDayNumber?_of_eq hyear hmonth]
  refine ⟨⟨year, month, day + 1, hvalid⟩, dif_pos hvalid, ?_⟩
  simp only at hdays hinMonth
  simp only [dayNumber, Nat.add_sub_cancel]
  omega

theorem ofDayNumber?_eq_none {n : Nat} (h : dayCount ≤ n) : ofDayNumber? n = none := by
  obtain ⟨hfirst, hdays, hinYear⟩ := daysBeforeYear_yearOfDay n
  rcases hyear : yearOfDay n with ⟨year, rest⟩
  rw [hyear] at hfirst hdays hinYear
  have hlate : ¬ year ≤ 9999 := by
    rw [← lt_dayCount_iff hfirst hinYear, hdays]
    exact Nat.not_lt.2 h
  rcases hmonth : monthOfDay year 11 1 rest with ⟨month, day⟩
  rw [ofDayNumber?_of_eq hyear hmonth]
  exact dif_neg fun hvalid => hlate hvalid.1.2

theorem daysInMonths_le (year : Nat) {j k : Nat} (h : j ≤ k) : daysInMonths year j ≤ daysInMonths year k := by
  induction k with
  | zero =>
    obtain rfl : j = 0 := Nat.le_zero.1 h
    exact Nat.le_refl _
  | succ k ih =>
    rcases Nat.lt_or_eq_of_le h with hlt | rfl
    · exact Nat.le_trans (ih (Nat.le_of_lt_succ hlt)) (Nat.le_add_right _ _)
    · exact Nat.le_refl _

theorem dayNumber_lt (d : Date) : d.dayNumber < dayCount := by
  obtain ⟨⟨hfirst, hlast⟩, ⟨hmonth, htwelve⟩, hday, hdays⟩ := d.valid
  have hinYear : daysInMonths d.year (d.month - 1) + (d.day - 1) < daysInMonths d.year 12 := by
    have hle := daysInMonths_le d.year htwelve
    obtain ⟨k, hk⟩ := Nat.exists_eq_add_of_le' hmonth
    rw [hk] at hdays hle ⊢
    have hsucc : daysInMonths d.year (k + 1) = daysInMonths d.year k + daysInMonth d.year (k + 1) := rfl
    rw [Nat.add_sub_cancel]
    omega
  unfold dayNumber
  rw [Nat.add_assoc]
  exact (lt_dayCount_iff hfirst hinYear).2 hlast

end Date

namespace Moment

/-- The first microsecond of the year 1, and the one after the last of the year 9999. -/
def firstMicro : Int := -62135596800000000

@[inherit_doc firstMicro]
def endMicro : Int := 253402300800000000

variable {n : Int}

theorem exists_ofMicros? (hfirst : firstMicro ≤ n) (hend : n < endMicro) :
    ∃ m, ofMicros? n = some m ∧ m.offset = 0 ∧ m.micros = n := by
  have hdiv : microsPerDay * (n / microsPerDay) + n % microsPerDay = n := Int.mul_ediv_add_emod n microsPerDay
  have hrest : 0 ≤ n % microsPerDay ∧ n % microsPerDay < microsPerDay :=
    ⟨Int.emod_nonneg _ (by decide), Int.emod_lt_of_pos _ (by decide)⟩
  unfold microsPerDay at hdiv hrest
  unfold firstMicro at hfirst
  unfold endMicro at hend
  have hday : 0 ≤ n / microsPerDay + epochDay ∧ n / microsPerDay + epochDay < 3652059 := by
    unfold microsPerDay epochDay
    omega
  obtain ⟨d, hd, hnumber⟩ := Date.exists_ofDayNumber? (n := (n / microsPerDay + epochDay).toNat)
    (by unfold Date.dayCount; omega)
  refine ⟨⟨d, .ofMicros (n % microsPerDay).toNat, 0⟩, ?_, rfl, ?_⟩
  · unfold ofMicros?
    simp only
    rw [if_neg (by omega), hd]
    rfl
  · have htime : (Time.ofMicros (n % microsPerDay).toNat).micros = (n % microsPerDay).toNat :=
      Time.micros_ofMicros (by unfold microsPerDay; omega)
    simp only [micros, htime, hnumber]
    unfold microsPerDay epochDay at *
    omega

theorem ofMicros?_eq_none (h : n < firstMicro ∨ endMicro ≤ n) : ofMicros? n = none := by
  unfold firstMicro endMicro at h
  unfold ofMicros? microsPerDay epochDay
  simp only
  split
  · rfl
  · rw [Date.ofDayNumber?_eq_none (by unfold Date.dayCount; omega)]
    rfl

/-- The microseconds that a clock of offset 0 shows are those of the calendar. -/
theorem exists_micros_iff : (∃ m : Moment, m.offset = 0 ∧ m.micros = n) ↔ firstMicro ≤ n ∧ n < endMicro := by
  constructor
  · rintro ⟨m, hoffset, rfl⟩
    have hday := m.date.dayNumber_lt
    have htime := m.time.micros_lt
    unfold micros microsPerDay epochDay firstMicro endMicro
    unfold Date.dayCount at hday
    rw [hoffset]
    omega
  · rintro ⟨hfirst, hend⟩
    obtain ⟨m, -, hoffset, hmicros⟩ := exists_ofMicros? hfirst hend
    exact ⟨m, hoffset, hmicros⟩

end Moment

end ParamQuery.Calendar
