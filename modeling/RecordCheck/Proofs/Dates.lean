import RecordCheck.Coercion.Basic
import RecordCheck.Proofs.Attempt
import RecordCheck.Proofs.Calendar.Reading

/-!
# Texts of dates

A text that denotes a date and time becomes the value in UTC of the same instant, and a text that denotes none
is rejected.  A date and time whose instant lies outside the years of the calendar is the exception: it is
neither accepted nor rejected, but refused with a fault.

What is written for a date, or for a date and time, is read as it, or as its counterpart in UTC, with blanks
around it or without.  An offset of less than a second is the exception here: the text shows it, but it is
read as none.
-/

set_option autoImplicit false

namespace RecordCheck.Coercion

open Calendar Text

/-! ## What a text denotes -/

/-- Whether a text denotes a date and time, blanks around it ignored. -/
def Denotes (s : List Char) (t : DateTime) : Prop := readDateTime? (spellOutZulu (trim s)) = some t

/-- In UTC a value is the one with its instant, or out of the range of dates. -/
theorem normalizeToUtc_eq (t : DateTime) :
    normalizeToUtc t = match t.toUtc? with
      | some u => .ok u
      | none => .error (.operation .dateRange) := by
  unfold normalizeToUtc DateTime.toUtc?
  cases t.offset with
  | none => rfl
  | some o => rfl

theorem normalizeToUtc_eq_ok_iff {t u : DateTime} :
    normalizeToUtc t = .ok u ↔ u.offset = some .utc ∧ u.instant = t.instant := by
  rw [← DateTime.toUtc?_eq_some_iff, normalizeToUtc_eq]
  cases t.toUtc? <;> simp

theorem normalizeToUtc_eq_error_iff {t : DateTime} {fault : Fault} :
    normalizeToUtc t = .error fault ↔ fault = .operation .dateRange ∧ ¬ InCalendar t.instant := by
  rw [← DateTime.exists_toUtc?_iff, normalizeToUtc_eq]
  cases t.toUtc? <;> simp [eq_comm]

section

variable {s : List Char}

theorem parseDateTime_of_denotes {t : DateTime} (h : Denotes s t) :
    parseDateTime s = some <$> normalizeToUtc t := by
  unfold parseDateTime
  rw [h]
  exact bind_pure_comp some _

/-- A text that denotes nothing is no date. -/
theorem parseDateTime_eq_none_iff : parseDateTime s = .ok none ↔ ∀ t, ¬ Denotes s t := by
  constructor
  · intro h t ht
    rw [parseDateTime_of_denotes ht, Attempt.map_eq_ok_iff] at h
    obtain ⟨u, -, hu⟩ := h
    cases hu
  · intro h
    unfold parseDateTime
    cases hread : readDateTime? (spellOutZulu (trim s)) with
    | none => rfl
    | some t => exact absurd hread (h t)

/-- What a text is read as is in UTC, and of the instant that the text denotes. -/
theorem parseDateTime_eq_some_iff {u : DateTime} :
    parseDateTime s = .ok (some u) ↔
      ∃ t, Denotes s t ∧ u.offset = some .utc ∧ u.instant = t.instant := by
  constructor
  · intro h
    by_cases hnone : ∀ t, ¬ Denotes s t
    · rw [parseDateTime_eq_none_iff.mpr hnone] at h
      cases h
    · obtain ⟨t, ht⟩ := Classical.not_forall_not.mp hnone
      rw [parseDateTime_of_denotes ht, Attempt.map_eq_ok_iff] at h
      obtain ⟨v, hv, huv⟩ := h
      cases huv
      exact ⟨t, ht, normalizeToUtc_eq_ok_iff.mp hv⟩
  · rintro ⟨t, ht, hu⟩
    rw [parseDateTime_of_denotes ht, normalizeToUtc_eq_ok_iff.mpr hu]
    rfl

/-- Reading a text fails just when the instant that it denotes is outside the calendar. -/
theorem parseDateTime_eq_error_iff {fault : Fault} :
    parseDateTime s = .error fault ↔
      fault = .operation .dateRange ∧ ∃ t, Denotes s t ∧ ¬ InCalendar t.instant := by
  constructor
  · intro h
    by_cases hnone : ∀ t, ¬ Denotes s t
    · rw [parseDateTime_eq_none_iff.mpr hnone] at h
      cases h
    · obtain ⟨t, ht⟩ := Classical.not_forall_not.mp hnone
      rw [parseDateTime_of_denotes ht] at h
      cases hnormal : normalizeToUtc t with
      | ok u =>
        rw [hnormal] at h
        cases h
      | error other =>
        rw [hnormal] at h
        cases h
        obtain ⟨hfault, houtside⟩ := normalizeToUtc_eq_error_iff.mp hnormal
        exact ⟨hfault, t, ht, houtside⟩
  · rintro ⟨rfl, t, ht, houtside⟩
    rw [parseDateTime_of_denotes ht, normalizeToUtc_eq_error_iff.mpr ⟨rfl, houtside⟩]
    rfl

end

/-! ## Texts under a date rule -/

/-- The error of a value that is no date. -/
def notDate : Entry := ⟨.text "date", .text "must be a valid ISO8601 date", []⟩

/-- A text under a date rule, where values are converted, is what it is read as. -/
theorem ensureDate_text {value : Value} {s : String} (h : value.text? = some s) :
    ensureDate true value = do
      match ← parseDateTime s.toList with
      | some t => return .accept (.dateTime t)
      | none => return .reject value [notDate] := by
  have hread : ensureDate true value =
      (parseDateTime s.toList >>= fun read => match read with
        | some t => pure (.accept (.dateTime t))
        | none => Outcome.rejectFor value .date []) := by
    cases value with
    | text other | textMember other =>
      cases h
      refine bind_congr fun read => ?_
      cases read <;> rfl
    | _ => cases h
  rw [hread]
  refine bind_congr fun read => ?_
  cases read <;> rfl

/-- Where values are converted, a date rule answers a text that denotes an instant of the calendar with the
date and time in UTC of that instant, and a text that denotes none with a single error.  A text that denotes
an instant before or after the calendar is not answered. -/
theorem coerce_date_of_text {value : Value} {s : String} (htext : value.text? = some s) (common : Common)
    (context : Context) (hconvert : context.convert = true) :
    (∃ t u, Denotes s.toList t ∧ u.offset = some .utc ∧ u.instant = t.instant ∧
        parseDateTime s.toList = .ok (some u) ∧
        coerce (.date common) value context = .ok (.accept (.dateTime u))) ∨
      ((∀ t, ¬ Denotes s.toList t) ∧ parseDateTime s.toList = .ok none ∧
        coerce (.date common) value context = .ok (.reject value [notDate])) ∨
      ((∃ t, Denotes s.toList t ∧ ¬ InCalendar t.instant) ∧
        parseDateTime s.toList = .error (.operation .dateRange) ∧
        coerce (.date common) value context = .error (.operation .dateRange)) := by
  rw [coerce, hconvert, ensureDate_text htext]
  cases hparse : parseDateTime s.toList with
  | error fault =>
    obtain ⟨rfl, houtside⟩ := parseDateTime_eq_error_iff.mp hparse
    exact .inr (.inr ⟨houtside, rfl, rfl⟩)
  | ok read =>
    cases read with
    | none => exact .inr (.inl ⟨parseDateTime_eq_none_iff.mp hparse, rfl, rfl⟩)
    | some u =>
      obtain ⟨t, ht, hoffset, hinstant⟩ := parseDateTime_eq_some_iff.mp hparse
      exact .inl ⟨t, u, ht, hoffset, hinstant, rfl, rfl⟩

namespace Sample

/-- Three months before the end of a leap year, two hours east of UTC. -/
def eastern : String := " 2024-10-01T01:30:00+02:00"

/-- The last half hour of September in UTC. -/
def septemberEnd : DateTime :=
  ⟨(Date.ofParts? 2024 9 30).get rfl, (TimeOfDay.ofParts? 23 30 0 0).get rfl, some .utc⟩

/-- The first midnight of the calendar, one hour east of UTC. -/
def beforeCalendar : String := "0001-01-01T00:00:00+01:00"

end Sample

open Coercion.Sample in
/-- A time on the first of October is one on the last of September in UTC. -/
theorem coerce_date_of_text_sample :
    coerce (.date ⟨.bool true, none, .null⟩) (.text eastern) ⟨[], true, []⟩ =
      .ok (.accept (.dateTime septemberEnd)) := by
  have hparse : parseDateTime eastern.toList = .ok (some septemberEnd) := by rfl
  have htext : (Value.text eastern).text? = some eastern := rfl
  have h := coerce_date_of_text htext ⟨.bool true, none, .null⟩ ⟨[], true, []⟩ rfl
  rw [hparse] at h
  rcases h with ⟨t, u, -, -, -, hread, hcoerce⟩ | ⟨-, hread, -⟩ | ⟨-, hread, -⟩
  · cases hread
    exact hcoerce
  · cases hread
  · cases hread

open Coercion.Sample in
/-- There is a text of a date and time that is neither one in UTC nor an error. -/
theorem not_parseDateTime_total :
    ¬ ∀ s : List Char, parseDateTime s = .ok none ∨
      ∃ u : DateTime, u.offset = some .utc ∧ parseDateTime s = .ok (some u) := by
  intro hall
  have hfault : parseDateTime beforeCalendar.toList = .error (.operation .dateRange) := by rfl
  have h := hall beforeCalendar.toList
  rw [hfault] at h
  rcases h with hread | ⟨u, -, hread⟩
  · cases hread
  · cases hread

/-! ## Blanks, and the letter of UTC -/

section

variable {s : List Char}

/-- Blanks around a text are nothing to what it is read as. -/
theorem parseDateTime_blanks {before after : List Char} (hbefore : ∀ c ∈ before, isBlank c = true)
    (hafter : ∀ c ∈ after, isBlank c = true) :
    parseDateTime (before ++ s ++ after) = parseDateTime s := by
  rw [parseDateTime, parseDateTime, trim_append hbefore hafter]

theorem spellOutZulu_append (z : Char) (hz : z = 'Z' ∨ z = 'z') :
    spellOutZulu (s ++ [z]) = s ++ "+00:00".toList := by
  rw [spellOutZulu, List.getLast?_concat, List.dropLast_concat]
  rcases hz with rfl | rfl <;> rfl

theorem spellOutZulu_eq_self (h : ∀ c ∈ s.getLast?, c.isDigit = true) : spellOutZulu s = s := by
  unfold spellOutZulu
  split
  · rename_i hlast
    cases h 'Z' hlast
  · rename_i hlast
    cases h 'z' hlast
  · rfl

/-- The letter of UTC at the end of a text stands for the offset zero, whatever comes before it. -/
theorem parseDateTime_zulu (z : Char) (hz : z = 'Z' ∨ z = 'z') :
    parseDateTime (s ++ [z]) = parseDateTime (s ++ "+00:00".toList) := by
  have hletter : IsWord [z] := by
    refine ⟨List.cons_ne_nil _ _, fun c hc => ?_⟩
    rw [List.mem_singleton.mp hc]
    rcases hz with rfl | rfl <;> decide
  have hnotBlank : "+00:00".toList.all (fun c => !isBlank c) = true := by decide
  have hoffset : IsWord "+00:00".toList :=
    ⟨by decide, fun c hc => by simpa using List.all_eq_true.mp hnotBlank c hc⟩
  have hdigit : ∀ c ∈ (trimLeft s ++ "+00:00".toList).getLast?, c.isDigit = true := by
    intro c hc
    rw [List.getLast?_append] at hc
    cases hc
    rfl
  rw [parseDateTime, parseDateTime, trim_append_word s hletter, trim_append_word s hoffset,
    spellOutZulu_append z hz, spellOutZulu_eq_self hdigit]

/-- A text that begins and ends with a digit denotes what it is read as. -/
theorem denotes_of_isDigit {t : DateTime} (hfirst : ∀ c ∈ s.head?, c.isDigit = true)
    (hlast : ∀ c ∈ s.getLast?, c.isDigit = true) (h : Iso.dateTime? s = some t) : Denotes s t := by
  have htrim : trim s = s := trim_eq_self (fun c hc => isBlank_of_isDigit (hfirst c hc))
    fun c hc => isBlank_of_isDigit (hlast c hc)
  rw [Denotes, htrim, spellOutZulu_eq_self hlast, readDateTime?, h]

end

/-! ## Texts that are written for dates and times -/

/-- Whether a text ends with the padded digits of a number. -/
def EndsInNumber (s : List Char) : Prop := ∃ before width n, s = before ++ paddedDigits width n

namespace EndsInNumber

theorem of_digits (before : List Char) (width n : Nat) :
    EndsInNumber (before ++ paddedDigits width n) := ⟨before, width, n, rfl⟩

theorem append {s : List Char} (h : EndsInNumber s) (before : List Char) : EndsInNumber (before ++ s) := by
  obtain ⟨others, width, n, rfl⟩ := h
  rw [← List.append_assoc]
  exact of_digits _ width n

theorem cons {s : List Char} (h : EndsInNumber s) (c : Char) : EndsInNumber (c :: s) := h.append [c]

/-- What follows a number, if anything does, may end in one in its place. -/
theorem append_ite {s rest : List Char} (p : Prop) [Decidable p] (hs : EndsInNumber s)
    (hrest : EndsInNumber rest) : EndsInNumber (s ++ if p then [] else rest) := by
  split
  · rwa [List.append_nil]
  · exact hrest.append s

theorem isDigit {s : List Char} (h : EndsInNumber s) : ∀ c ∈ s.getLast?, c.isDigit = true := by
  obtain ⟨before, width, n, rfl⟩ := h
  intro c hc
  rw [List.getLast?_append_of_ne_nil _ (paddedDigits_ne_nil width n)] at hc
  exact isDigit_of_mem_paddedDigits (List.mem_of_getLast? hc)

theorem secondsText (second micro : Nat) : EndsInNumber (Iso.secondsText second micro) :=
  append_ite _ (of_digits [] 2 second) (.cons (of_digits [] 6 micro) '.')

theorem date (d : Date) : EndsInNumber d.text := by
  rw [Date.text]
  exact .append (.cons (of_digits [] 2 d.day) '-') _

theorem timeText (t : TimeOfDay) : EndsInNumber (DateTime.timeText t) := by
  rw [Iso.timeText_eq]
  exact .append (.cons (.append (.cons (secondsText t.second t.micro) ':') _) ':') _

theorem offsetText (o : Offset) : EndsInNumber (DateTime.offsetText o) := by
  unfold DateTime.offsetText
  refine append_ite _ ?_ (.cons (secondsText _ _) ':')
  exact .append (.cons (of_digits [] 2 _) ':') _

theorem dateTime (t : DateTime) : EndsInNumber t.text := by
  unfold DateTime.text DateTime.textWith
  cases t.offset with
  | none =>
    rw [Option.map_none, Option.getD_none, List.append_nil]
    exact .append (.cons (timeText t.time) 'T') _
  | some o => exact .append (offsetText o) _

end EndsInNumber

theorem isDigit_of_mem_head?_date (d : Date) (rest : List Char) :
    ∀ c ∈ (d.text ++ rest).head?, c.isDigit = true := by
  intro c hc
  obtain ⟨others, hothers⟩ := List.head?_eq_some_iff.mp hc
  rw [Iso.text_append] at hothers
  exact Iso.isDigit_of_paddedDigits_append hothers

/-- What is written for a date denotes its midnight. -/
theorem denotes_date (d : Date) : Denotes d.text ⟨d, .midnight, none⟩ := by
  have hfirst := isDigit_of_mem_head?_date d []
  have hread := Iso.dateTime?_text d []
  rw [List.append_nil] at hfirst hread
  exact denotes_of_isDigit hfirst (EndsInNumber.date d).isDigit hread

/-- What is written for a date and time denotes it, but for an offset below a second. -/
theorem denotes_dateTime (t : DateTime) : Denotes t.text { t with offset := t.offset.map Iso.readBack } := by
  refine denotes_of_isDigit ?_ (EndsInNumber.dateTime t).isDigit (Iso.dateTime?_text_eq t)
  rw [DateTime.text, DateTime.textWith, List.append_assoc]
  exact isDigit_of_mem_head?_date t.date _

section

variable {s : List Char} {t : DateTime}

/-- A text that denotes a naive date and time is read as the same in UTC. -/
theorem parseDateTime_of_denotes_naive (h : Denotes s t) (hnaive : t.offset = none) :
    parseDateTime s = .ok (some { t with offset := some .utc }) := by
  rw [parseDateTime_of_denotes h, normalizeToUtc, hnaive]
  rfl

/-- A text that denotes a date and time in UTC is read as it. -/
theorem parseDateTime_of_denotes_utc (h : Denotes s t) (hutc : t.offset = some .utc) :
    parseDateTime s = .ok (some t) := parseDateTime_eq_some_iff.mpr ⟨t, h, hutc, rfl⟩

/-- A text that denotes a date and time is read as the one in UTC of its instant, if there is one. -/
theorem exists_parseDateTime_of_denotes (h : Denotes s t) (hin : InCalendar t.instant) :
    ∃ u : DateTime, u.offset = some .utc ∧ u.instant = t.instant ∧ parseDateTime s = .ok (some u) := by
  obtain ⟨u, hoffset, hinstant⟩ := DateTime.exists_utc_iff.mpr hin
  exact ⟨u, hoffset, hinstant, parseDateTime_eq_some_iff.mpr ⟨t, h, hoffset, hinstant⟩⟩

end

/-- The offset zero is written out at the end. -/
theorem text_of_utc {t : DateTime} (h : t.offset = none) :
    ({ t with offset := some .utc } : DateTime).text = t.text ++ "+00:00".toList := by
  have hoffset : DateTime.offsetText .utc = "+00:00".toList := by
    simp [DateTime.offsetText, Offset.utc, paddedDigits, digits_of_lt, digitChar]
  simp only [DateTime.text, DateTime.textWith, h, Option.map_none, Option.getD_none, List.append_nil,
    Option.map_some, Option.getD_some, hoffset]

/-- What a reader makes of the texts that are written for dates and for dates and times. -/
structure ReadsWritten (read : List Char → Attempt (Option DateTime)) : Prop where
  /-- a date is its midnight in UTC -/
  date : ∀ d : Date, read d.text = .ok (some ⟨d, .midnight, some .utc⟩)
  /-- a naive date and time is the same in UTC -/
  naive : ∀ t : DateTime, t.offset = none → read t.text = .ok (some { t with offset := some .utc })
  /-- an aware one is the date and time in UTC of the same instant, if the calendar has it -/
  aware : ∀ (t : DateTime) (o : Offset), t.offset = some o → o = .utc ∨ 1000000 ≤ o.micros.natAbs →
    InCalendar t.instant →
      ∃ u : DateTime, u.offset = some .utc ∧ u.instant = t.instant ∧ read t.text = .ok (some u)
  /-- but an offset below a second is passed over -/
  belowSecond : ∀ (t : DateTime) (o : Offset), t.offset = some o → o.micros.natAbs < 1000000 →
    read t.text = .ok (some { t with offset := some .utc })
  /-- blanks around a text change nothing -/
  blanks : ∀ before s after : List Char, (∀ c ∈ before, isBlank c = true) →
    (∀ c ∈ after, isBlank c = true) → read (before ++ s ++ after) = read s
  /-- the offset zero may be written as a letter -/
  zulu : ∀ (t : DateTime) (z : Char), t.offset = none → z = 'Z' ∨ z = 'z' →
    read (t.text ++ [z]) = read ({ t with offset := some .utc } : DateTime).text

/-- Dates and times are read as they are written. -/
theorem readsWritten_parseDateTime : ReadsWritten parseDateTime where
  date d := parseDateTime_of_denotes_naive (denotes_date d) rfl
  naive t hnaive := by
    have hdenotes := denotes_dateTime t
    rw [hnaive, Option.map_none, ← hnaive] at hdenotes
    exact parseDateTime_of_denotes_naive hdenotes hnaive
  aware t o ho hlength hin := by
    have hdenotes := denotes_dateTime t
    rw [ho, Option.map_some, Iso.readBack_of_utc_or_le o hlength, ← ho] at hdenotes
    exact exists_parseDateTime_of_denotes hdenotes hin
  belowSecond t o ho hlength := by
    have hdenotes := denotes_dateTime t
    rw [ho, Option.map_some, Iso.readBack, if_pos hlength] at hdenotes
    exact parseDateTime_of_denotes_utc hdenotes rfl
  blanks before s after hbefore hafter := parseDateTime_blanks hbefore hafter
  zulu t z hnaive hz := by
    rw [text_of_utc hnaive]
    exact parseDateTime_zulu z hz

namespace Sample

/-- The second of January 2024 at ten, with an offset. -/
def januaryMorning (offset : Offset) : DateTime :=
  ⟨(Date.ofParts? 2024 1 2).get rfl, (TimeOfDay.ofParts? 10 0 0 0).get rfl, some offset⟩

/-- The evening before, in UTC. -/
def januaryEvening : DateTime :=
  ⟨(Date.ofParts? 2024 1 1).get rfl, (TimeOfDay.ofParts? 22 0 0 0).get rfl, some .utc⟩

/-- Half a second east of UTC. -/
def halfSecond : Offset := ⟨500000, by decide⟩

/-- Half a day east of UTC. -/
def halfDay : Offset := ⟨43200000000, by decide⟩

end Sample

open Coercion.Sample in
/-- The morning half a day east of UTC is the evening before in UTC. -/
theorem readsWritten_parseDateTime_sample :
    parseDateTime (januaryMorning halfDay).text = .ok (some januaryEvening) := by
  obtain ⟨u, hoffset, hinstant, hread⟩ := readsWritten_parseDateTime.aware (januaryMorning halfDay) halfDay
    rfl (.inr (by decide)) (by decide)
  have hsame : januaryEvening.instant = (januaryMorning halfDay).instant := by decide +kernel
  rw [hread, DateTime.eq_of_instant rfl hoffset (hsame.trans hinstant.symm)]

open Coercion.Sample in
/-- Half a second is lost. -/
theorem not_reads_every_offset :
    ¬ ∀ (t : DateTime) (o : Offset), t.offset = some o → InCalendar t.instant →
      ∃ u : DateTime, u.offset = some .utc ∧ u.instant = t.instant ∧
        parseDateTime t.text = .ok (some u) := by
  intro hall
  obtain ⟨u, -, hinstant, hread⟩ := hall (januaryMorning halfSecond) halfSecond rfl (by decide)
  have hdenotes := denotes_dateTime (januaryMorning halfSecond)
  rw [parseDateTime_of_denotes_utc hdenotes rfl] at hread
  cases hread
  exact absurd hinstant (by decide +kernel)

end RecordCheck.Coercion
