import RecordCheck.Calendar.Date

/-!
# Dates and the numbers of their days

The days of the calendar are numbered from the first on without gaps: no two dates have the same number, and
each number below `dayCount` is that of a date, which is found from it.  The year of a day is found by
cycles of 400, 100, 4 and 1 years, the month by going through the months of the year.
-/

set_option autoImplicit false

namespace RecordCheck.Calendar

/-! ## Years -/

/-- The number of days of a year. -/
def daysInYear (year : Nat) : Nat := if isLeap year then 366 else 365

theorem isLeap_iff (year : Nat) :
    isLeap year = true ↔ year % 4 = 0 ∧ (year % 100 ≠ 0 ∨ year % 400 = 0) := by
  simp [isLeap]

/-- The number of leap years among the first `n` years. -/
def leapDays (n : Nat) : Nat := n / 4 - n / 100 + n / 400

theorem leapDays_succ (n : Nat) :
    leapDays (n + 1) = leapDays n + if isLeap (n + 1) then 1 else 0 := by
  unfold leapDays
  by_cases hfour : (n + 1) % 4 = 0
  · by_cases hcentury : (n + 1) % 100 = 0
    · by_cases hcycle : (n + 1) % 400 = 0
      · rw [if_pos ((isLeap_iff _).mpr ⟨hfour, .inr hcycle⟩)]
        omega
      · rw [if_neg fun h => ((isLeap_iff _).mp h).2.elim (· hcentury) hcycle]
        omega
    · rw [if_pos ((isLeap_iff _).mpr ⟨hfour, .inl hcentury⟩)]
      omega
  · have hsame : (n + 1) / 4 = n / 4 := by omega
    have hcentury : (n + 1) / 100 = n / 100 := by omega
    have hcycle : (n + 1) / 400 = n / 400 := by omega
    rw [if_neg fun h => hfour ((isLeap_iff _).mp h).1, hsame, hcentury, hcycle, Nat.add_zero]

theorem daysBeforeYear_eq (n : Nat) : daysBeforeYear (n + 1) = 365 * n + leapDays n := by
  unfold daysBeforeYear leapDays
  dsimp only
  omega

/-- A year ends where the next one begins. -/
theorem daysBeforeYear_succ {year : Nat} (h : 1 ≤ year) :
    daysBeforeYear (year + 1) = daysBeforeYear year + daysInYear year := by
  obtain ⟨n, rfl⟩ : ∃ n, year = n + 1 := ⟨year - 1, by omega⟩
  rw [daysBeforeYear_eq, daysBeforeYear_eq, leapDays_succ, daysInYear]
  split <;> omega

theorem daysBeforeYear_mono {year other : Nat} (hyear : 1 ≤ year) (h : year ≤ other) :
    daysBeforeYear year ≤ daysBeforeYear other := by
  induction h with
  | refl => exact Nat.le_refl _
  | step hle ih =>
    rw [Nat.succ_eq_add_one, daysBeforeYear_succ (Nat.le_trans hyear hle)]
    omega

/-- The days before a year that is given by its place in the cycles. -/
theorem daysBeforeYear_of_cycles (cycle : Nat) {century four one : Nat} (hcentury : century ≤ 3)
    (hfour : four ≤ 24) (hone : one ≤ 3) :
    daysBeforeYear (400 * cycle + 100 * century + 4 * four + one + 1) =
      146097 * cycle + 36524 * century + 1461 * four + 365 * one := by
  unfold daysBeforeYear
  dsimp only
  omega

/-- A day lies in its year. -/
theorem yearOf_spec (day : Nat) :
    1 ≤ Date.yearOf day ∧ daysBeforeYear (Date.yearOf day) ≤ day ∧
      day < daysBeforeYear (Date.yearOf day + 1) := by
  unfold Date.yearOf
  dsimp only
  generalize hcycle : day / 146097 = cycle
  generalize hcentury : min (day % 146097 / 36524) 3 = century
  generalize hc : day % 146097 - century * 36524 = c
  generalize hone : min (c % 1461 / 365) 3 = one
  have hstart := daysBeforeYear_of_cycles cycle (by omega : century ≤ 3) (by omega : c / 1461 ≤ 24)
    (by omega : one ≤ 3)
  have hnext : daysBeforeYear (400 * cycle + 100 * century + 4 * (c / 1461) + one + 1 + 1) =
      daysBeforeYear (400 * cycle + 100 * century + 4 * (c / 1461) + one + 1) +
        daysInYear (400 * cycle + 100 * century + 4 * (c / 1461) + one + 1) :=
    daysBeforeYear_succ (by omega)
  refine ⟨by omega, by omega, ?_⟩
  rw [hnext, hstart]
  -- Only the last year of a cycle of four years has a day 366, unless it ends a century that is no cycle.
  unfold daysInYear
  split
  · omega
  · rename_i hleap
    rw [isLeap_iff] at hleap
    omega

/-! ## Months -/

theorem daysBeforeMonth_succ (year : Nat) {month : Nat} (h : 1 ≤ month) :
    daysBeforeMonth year (month + 1) = daysBeforeMonth year month + daysInMonth year month := by
  cases month with
  | zero => omega
  | succ month => rfl

theorem daysBeforeMonth_mono (year : Nat) {month other : Nat} (hmonth : 1 ≤ month) (h : month ≤ other) :
    daysBeforeMonth year month ≤ daysBeforeMonth year other := by
  induction h with
  | refl => exact Nat.le_refl _
  | step hle ih =>
    rw [Nat.succ_eq_add_one, daysBeforeMonth_succ year (Nat.le_trans hmonth hle)]
    omega

/-- The months of a year make up the year. -/
theorem daysBeforeMonth_thirteen (year : Nat) : daysBeforeMonth year 13 = daysInYear year := by
  simp only [daysBeforeMonth, daysInMonth, daysInYear]
  cases isLeap year <;> rfl

/-- The month found for a day holds it. -/
theorem monthFrom_spec {year month count rest : Nat} (hmonth : 1 ≤ month) (hlast : month + count = 12)
    (hrest : daysBeforeMonth year month + rest < daysInYear year) :
    ∃ m d, Date.monthFrom year month count rest = (m, d) ∧ (1 ≤ m ∧ m ≤ 12) ∧
      (1 ≤ d ∧ d ≤ daysInMonth year m) ∧
      daysBeforeMonth year m + (d - 1) = daysBeforeMonth year month + rest := by
  induction count generalizing month rest with
  | zero =>
    have hend := daysBeforeMonth_succ year hmonth
    obtain rfl : month = 12 := by omega
    rw [daysBeforeMonth_thirteen] at hend
    exact ⟨12, rest + 1, rfl, by omega, by omega, by omega⟩
  | succ count ih =>
    rw [Date.monthFrom]
    split
    · exact ⟨month, rest + 1, rfl, by omega, by omega, by omega⟩
    · have hnext := daysBeforeMonth_succ year hmonth
      have hafter : daysBeforeMonth year (month + 1) + (rest - daysInMonth year month) <
          daysInYear year := by omega
      obtain ⟨m, d, hfound, hm, hd, hsum⟩ := ih (Nat.le_add_left 1 month) (by omega) hafter
      exact ⟨m, d, hfound, hm, hd, by omega⟩

/-! ## Days -/

/-- The number of days of the calendar. -/
def dayCount : Nat := daysBeforeYear (lastYear + 1)

namespace Date

theorem ofParts?_eq_some_iff {year month day : Nat} {d : Date} :
    ofParts? year month day = some d ↔ d.year = year ∧ d.month = month ∧ d.day = day := by
  unfold ofParts?
  split
  · rw [Option.some.injEq]
    constructor
    · rintro rfl
      exact ⟨rfl, rfl, rfl⟩
    · rintro ⟨rfl, rfl, rfl⟩
      rfl
  · rename_i hnot
    constructor
    · intro h
      cases h
    · rintro ⟨rfl, rfl, rfl⟩
      exact absurd ⟨d.year_mem, d.month_mem, d.day_mem⟩ hnot

/-- A date is found from its parts. -/
theorem ofParts?_self (d : Date) : ofParts? d.year d.month d.day = some d :=
  ofParts?_eq_some_iff.mpr ⟨rfl, rfl, rfl⟩

/-- The days of a year before a date are fewer than the year has. -/
theorem dayOfYear_lt (d : Date) :
    daysBeforeMonth d.year d.month + (d.day - 1) < daysInYear d.year := by
  have hmonth := d.month_mem
  have hday := d.day_mem
  have hnext := daysBeforeMonth_succ d.year hmonth.1
  have hlast : d.month + 1 ≤ 13 := by omega
  have hend := daysBeforeMonth_mono d.year (Nat.le_add_left 1 d.month) hlast
  rw [daysBeforeMonth_thirteen] at hend
  omega

/-- A date lies in its year. -/
theorem dayNumber_lt (d : Date) : d.dayNumber < daysBeforeYear (d.year + 1) := by
  have hday := d.dayOfYear_lt
  rw [daysBeforeYear_succ d.year_mem.1, dayNumber]
  omega

theorem dayNumber_lt_dayCount (d : Date) : d.dayNumber < dayCount := by
  have hyear := d.year_mem
  exact Nat.lt_of_lt_of_le d.dayNumber_lt (daysBeforeYear_mono (by omega) (by omega))

/-- Dates of the same day are in the same year. -/
theorem year_le_of_dayNumber {d e : Date} (h : d.dayNumber = e.dayNumber) : d.year ≤ e.year := by
  refine Nat.not_lt.mp fun hlater => ?_
  have hmono := daysBeforeYear_mono (Nat.le_add_left 1 e.year) hlater
  have hbefore := e.dayNumber_lt
  unfold dayNumber at h hbefore
  omega

/-- Days of the same number in one year are in the same month. -/
theorem month_le_of_dayOfYear {d e : Date} (hyear : d.year = e.year)
    (h : daysBeforeMonth d.year d.month + (d.day - 1) =
      daysBeforeMonth e.year e.month + (e.day - 1)) : d.month ≤ e.month := by
  refine Nat.not_lt.mp fun hlater => ?_
  have hmonth := e.month_mem
  have hday := e.day_mem
  have hmono := daysBeforeMonth_mono e.year (Nat.le_add_left 1 e.month) hlater
  rw [daysBeforeMonth_succ e.year hmonth.1] at hmono
  rw [hyear] at h
  omega

/-- Different dates have different days. -/
theorem dayNumber_injective {d e : Date} (h : d.dayNumber = e.dayNumber) : d = e := by
  have hyear : d.year = e.year :=
    Nat.le_antisymm (year_le_of_dayNumber h) (year_le_of_dayNumber h.symm)
  have hrest : daysBeforeMonth d.year d.month + (d.day - 1) =
      daysBeforeMonth e.year e.month + (e.day - 1) := by
    unfold dayNumber at h
    rw [hyear] at h ⊢
    omega
  have hmonth : d.month = e.month :=
    Nat.le_antisymm (month_le_of_dayOfYear hyear hrest) (month_le_of_dayOfYear hyear.symm hrest.symm)
  have hday : d.day = e.day := by
    have hfirst := d.day_mem
    have hsecond := e.day_mem
    rw [hyear, hmonth] at hrest
    omega
  rw [← Option.some.injEq, ← ofParts?_self d, ofParts?_eq_some_iff]
  exact ⟨hyear.symm, hmonth.symm, hday.symm⟩

/-- The year of a day is one of the calendar just when the day is. -/
theorem yearOf_le_lastYear_iff {day : Nat} : yearOf day ≤ lastYear ↔ day < dayCount := by
  obtain ⟨hfirst, hfrom, hto⟩ := yearOf_spec day
  constructor
  · intro h
    exact Nat.lt_of_lt_of_le hto (daysBeforeYear_mono (by omega) (by omega))
  · intro h
    refine Nat.not_lt.mp fun hlater => ?_
    have hmono := daysBeforeYear_mono (Nat.le_add_left 1 lastYear) hlater
    unfold dayCount at h
    omega

/-- Every number below that of the end of the calendar is the number of a day of it. -/
theorem exists_ofDayNumber? {day : Nat} (h : day < dayCount) :
    ∃ d, ofDayNumber? day = some d ∧ d.dayNumber = day := by
  obtain ⟨hfirst, hfrom, hto⟩ := yearOf_spec day
  have hlast := yearOf_le_lastYear_iff.mpr h
  rw [daysBeforeYear_succ hfirst] at hto
  have hrest : daysBeforeMonth (yearOf day) 1 + (day - daysBeforeYear (yearOf day)) <
      daysInYear (yearOf day) := by
    rw [daysBeforeMonth]
    omega
  obtain ⟨m, dayOfMonth, hfound, hm, hd, hsum⟩ := monthFrom_spec (Nat.le_refl 1) (Nat.add_comm 1 11) hrest
  have hmem : (1 ≤ yearOf day ∧ yearOf day ≤ lastYear) ∧ (1 ≤ m ∧ m ≤ 12) ∧
      (1 ≤ dayOfMonth ∧ dayOfMonth ≤ daysInMonth (yearOf day) m) := ⟨⟨hfirst, hlast⟩, hm, hd⟩
  refine ⟨⟨yearOf day, m, dayOfMonth, hmem.1, hmem.2.1, hmem.2.2⟩, ?_, ?_⟩
  · rw [ofDayNumber?, if_neg (by omega)]
    dsimp only
    rw [Int.toNat_natCast, hfound]
    dsimp only
    rw [ofParts?, dif_pos hmem]
  · rw [daysBeforeMonth] at hsum
    simp only [dayNumber]
    omega

/-- A number for which a date is found is that of a day of the calendar. -/
theorem mem_of_ofDayNumber? {day : Int} {d : Date} (h : ofDayNumber? day = some d) :
    0 ≤ day ∧ day < dayCount := by
  by_cases hneg : day < 0
  · rw [ofDayNumber?, if_pos hneg] at h
    cases h
  · rw [ofDayNumber?, if_neg hneg] at h
    dsimp only at h
    have hyear := (ofParts?_eq_some_iff.mp h).1
    have hlast : yearOf day.toNat ≤ lastYear := hyear ▸ d.year_mem.2
    have hday := yearOf_le_lastYear_iff.mp hlast
    omega

/-- A date is found from the number of its day, and from no other. -/
theorem ofDayNumber?_eq_some_iff {day : Int} {d : Date} :
    ofDayNumber? day = some d ↔ (d.dayNumber : Int) = day := by
  constructor
  · intro h
    obtain ⟨hfirst, hlast⟩ := mem_of_ofDayNumber? h
    obtain ⟨n, rfl⟩ := Int.eq_ofNat_of_zero_le hfirst
    obtain ⟨e, he, hday⟩ := exists_ofDayNumber? (Int.ofNat_lt.mp hlast)
    rw [he] at h
    cases h
    rw [hday]
  · rintro rfl
    obtain ⟨e, he, hday⟩ := exists_ofDayNumber? d.dayNumber_lt_dayCount
    rw [he, dayNumber_injective hday]

end Date

end RecordCheck.Calendar
