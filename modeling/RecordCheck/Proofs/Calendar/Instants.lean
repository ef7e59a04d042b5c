import RecordCheck.Calendar.DateTime
import RecordCheck.Proofs.Calendar.Days

/-!
# Instants

The microseconds of the calendar are numbered as its days are.  Each of them is the instant of exactly one
date and time in UTC.  What an aware value becomes in UTC is therefore told by its instant alone, and there
is something that it becomes just when the instant lies in the calendar.
-/

set_option autoImplicit false

namespace RecordCheck.Calendar

/-! ## Times of day -/

namespace TimeOfDay

theorem micros_lt (t : TimeOfDay) : t.micros < dayLength := by
  have hhour := t.hour_lt
  have hminute := t.minute_lt
  have hsecond := t.second_lt
  have hmicro := t.micro_lt
  unfold micros dayLength
  omega

/-- A time of day is told by the microseconds since midnight. -/
theorem micros_ofMicros {n : Nat} (h : n < dayLength) : (ofMicros n).micros = n := by
  have hminutes : n / 3600000000 = n / 60000000 / 60 := by omega
  have hseconds : n / 60000000 = n / 1000000 / 60 := by omega
  unfold dayLength at h
  simp only [micros, ofMicros]
  omega

/-- The microseconds since midnight are those of one time of day. -/
theorem ofMicros_micros (t : TimeOfDay) : ofMicros t.micros = t := by
  obtain ⟨hour, minute, second, micro, hhour, hminute, hsecond, hmicro⟩ := t
  simp only [ofMicros, micros, TimeOfDay.mk.injEq]
  omega

end TimeOfDay

/-! ## Instants of the calendar -/

/-- Whether an instant lies in the years of the calendar. -/
def InCalendar (micros : Int) : Prop := 0 ≤ micros ∧ micros < (dayCount * dayLength : Nat)

instance (micros : Int) : Decidable (InCalendar micros) := inferInstanceAs (Decidable (_ ∧ _))

namespace DateTime

variable {t u : DateTime} {micros : Int}

theorem instant_of_naive (h : t.offset = none) : t.instant = t.localMicros := by
  rw [instant, h]
  exact Int.sub_zero _

theorem instant_of_aware {o : Offset} (h : t.offset = some o) :
    t.instant = t.localMicros - o.micros := by
  rw [instant, h]

theorem instant_of_utc (h : t.offset = some .utc) : t.instant = t.localMicros := by
  rw [instant_of_aware h]
  exact Int.sub_zero _

theorem localMicros_nonneg (t : DateTime) : 0 ≤ t.localMicros := by
  unfold localMicros
  exact Int.add_nonneg (Int.mul_nonneg (Int.natCast_nonneg _) (Int.natCast_nonneg _))
    (Int.natCast_nonneg _)

/-- The local time of a value lies in the calendar. -/
theorem inCalendar_localMicros (t : DateTime) : InCalendar t.localMicros := by
  refine ⟨t.localMicros_nonneg, ?_⟩
  have htime := t.time.micros_lt
  have hday := t.date.dayNumber_lt_dayCount
  have hwhole : (t.date.dayNumber + 1) * dayLength ≤ dayCount * dayLength :=
    Nat.mul_le_mul_right _ hday
  rw [Nat.add_mul, Nat.one_mul] at hwhole
  have hlocal : t.localMicros = (t.date.dayNumber * dayLength + t.time.micros : Nat) := by
    simp [localMicros]
  rw [hlocal]
  omega

/-- The date and the time of day are told by the local time. -/
theorem fdiv_fmod_localMicros (t : DateTime) :
    t.localMicros.fdiv dayLength = t.date.dayNumber ∧
      t.localMicros.fmod dayLength = t.time.micros := by
  have htime := t.time.micros_lt
  rw [Int.fdiv_eq_ediv_of_nonneg _ (Int.natCast_nonneg _),
    Int.fmod_eq_emod_of_nonneg _ (Int.natCast_nonneg _),
    Int.ediv_emod_unique (by decide), localMicros]
  refine ⟨?_, Int.natCast_nonneg _, Int.ofNat_lt.mpr htime⟩
  rw [Int.add_comm, Int.mul_comm]

/-- A value in UTC is made of its instant, and no other is. -/
theorem ofInstant?_eq_some_iff :
    ofInstant? micros = some u ↔ u.offset = some .utc ∧ u.instant = micros := by
  constructor
  · intro h
    obtain ⟨date, hdate, rfl⟩ := Option.map_eq_some_iff.mp h
    refine ⟨rfl, ?_⟩
    have hpositive : (0 : Int) < dayLength := by decide
    have hnonneg := Int.fmod_nonneg_of_pos micros hpositive
    have hlt := Int.fmod_lt_of_pos micros hpositive
    have hparts := Int.mul_fdiv_add_fmod micros dayLength
    rw [instant_of_utc rfl, localMicros, Date.ofDayNumber?_eq_some_iff.mp hdate,
      TimeOfDay.micros_ofMicros (by omega), Int.toNat_of_nonneg hnonneg, Int.mul_comm]
    exact hparts
  · rintro ⟨hoffset, rfl⟩
    obtain ⟨hday, htime⟩ := u.fdiv_fmod_localMicros
    rw [instant_of_utc hoffset, ofInstant?, hday, htime, Date.ofDayNumber?_eq_some_iff.mpr rfl,
      Int.toNat_natCast, TimeOfDay.ofMicros_micros, ← hoffset]
    rfl

/-- Values in UTC of the same instant are the same. -/
theorem eq_of_instant (ht : t.offset = some .utc) (hu : u.offset = some .utc)
    (h : t.instant = u.instant) : t = u := by
  have hfirst := ofInstant?_eq_some_iff.mpr ⟨ht, h⟩
  have hsecond := ofInstant?_eq_some_iff.mpr ⟨hu, rfl⟩
  rw [hfirst] at hsecond
  exact Option.some.inj hsecond

/-- The instants of values in UTC are those of the calendar. -/
theorem exists_utc_iff :
    (∃ u : DateTime, u.offset = some .utc ∧ u.instant = micros) ↔ InCalendar micros := by
  constructor
  · rintro ⟨u, hoffset, rfl⟩
    rw [instant_of_utc hoffset]
    exact u.inCalendar_localMicros
  · rintro ⟨hfirst, hlast⟩
    obtain ⟨n, rfl⟩ := Int.eq_ofNat_of_zero_le hfirst
    have hday : n / dayLength < dayCount := by
      rw [Nat.div_lt_iff_lt_mul (by decide)]
      exact Int.ofNat_lt.mp hlast
    obtain ⟨date, hdate, -⟩ := Date.exists_ofDayNumber? hday
    refine ⟨⟨date, TimeOfDay.ofMicros (n % dayLength), some .utc⟩, ?_⟩
    rw [← ofInstant?_eq_some_iff, ofInstant?, ← Int.ofNat_fdiv, ← Int.ofNat_fmod, hdate,
      Int.toNat_natCast]
    rfl

/-! ## Values in UTC -/

/-- In UTC a value is the one with its instant. -/
theorem toUtc?_eq_some_iff :
    t.toUtc? = some u ↔ u.offset = some .utc ∧ u.instant = t.instant := by
  unfold toUtc?
  split
  · rename_i hnaive
    have hsame : ({ t with offset := some .utc } : DateTime).instant = t.instant := by
      rw [instant_of_utc rfl, instant_of_naive hnaive]
      rfl
    rw [Option.some.injEq]
    constructor
    · rintro rfl
      exact ⟨rfl, hsame⟩
    · rintro ⟨hoffset, hinstant⟩
      exact eq_of_instant rfl hoffset (hsame.trans hinstant.symm)
  · rename_i o haware
    split
    · rename_i hutc
      rw [hutc] at haware
      rw [Option.some.injEq]
      constructor
      · rintro rfl
        exact ⟨haware, rfl⟩
      · rintro ⟨hoffset, hinstant⟩
        exact eq_of_instant haware hoffset hinstant.symm
    · exact ofInstant?_eq_some_iff

/-- A value has a counterpart in UTC just when its instant lies in the calendar. -/
theorem exists_toUtc?_iff : (∃ u, t.toUtc? = some u) ↔ InCalendar t.instant := by
  simp only [toUtc?_eq_some_iff, exists_utc_iff]

end DateTime

end RecordCheck.Calendar
