import RecordCheck.Calendar.Iso
import RecordCheck.Proofs.Calendar.Instants
import RecordCheck.Proofs.Text

/-!
# Reading what is written

The ISO 8601 text of a date, of a time of day and of an offset is read back as what it was written for.  The
readers are followed along the text from the left: a number of so many digits, the colon or point after it,
and what is left.  There is one thing that is not read back: an offset of less than a second that is not
zero, of which the reader makes none.
-/

set_option autoImplicit false

namespace RecordCheck.Calendar.Iso

open Text

/-! ## Numbers -/

theorem digit?_digitChar : ∀ n < 10, digit? (digitChar n) = some n := by decide

/-- Digits are read one part after the other. -/
theorem digitsFrom?_add (n first second : Nat) (s : List Char) :
    digitsFrom? n (first + second) s =
      (digitsFrom? n first s).bind fun read => digitsFrom? read.1 second read.2 := by
  induction first generalizing n s with
  | zero => rw [Nat.zero_add]; rfl
  | succ first ih =>
    rw [Nat.succ_add]
    cases s with
    | nil => rfl
    | cons c rest =>
      rw [digitsFrom?, digitsFrom?]
      cases digit? c with
      | none => rfl
      | some d => exact ih (10 * n + d) rest

theorem digitsFrom?_paddedDigits {width n : Nat} (before : Nat) (hwidth : 0 < width)
    (h : n < 10 ^ width) (rest : List Char) :
    digitsFrom? before width (paddedDigits width n ++ rest) =
      some (10 ^ width * before + n, rest) := by
  induction hwidth generalizing n rest with
  | refl =>
    rw [paddedDigits_one h, List.singleton_append, digitsFrom?, digit?_digitChar n h]
    rfl
  | @step width hwidth ih =>
    have hdigit := digit?_digitChar (n % 10) (Nat.mod_lt n (by decide))
    rw [Nat.pow_succ] at h
    rw [Nat.succ_eq_add_one, paddedDigits_succ hwidth, digitsFrom?_add, List.append_assoc, List.singleton_append,
      ih (by omega)]
    simp only [Option.bind_some, digitsFrom?, hdigit, Option.bind_eq_bind, Option.some.injEq,
      Prod.mk.injEq, and_true, Nat.pow_succ]
    rw [Nat.mul_add, Nat.add_assoc, Nat.div_add_mod, ← Nat.mul_assoc, Nat.mul_comm 10]

/-- A number is read from its padded digits. -/
theorem number?_paddedDigits {width n : Nat} (hwidth : 0 < width) (h : n < 10 ^ width)
    (rest : List Char) : number? width (paddedDigits width n ++ rest) = some (n, rest) := by
  rw [number?, digitsFrom?_paddedDigits 0 hwidth h, Nat.mul_zero, Nat.zero_add]

/-- What begins with the padded digits of a number begins with a digit. -/
theorem isDigit_of_paddedDigits_append {width n : Nat} {s rest : List Char} {c : Char}
    (h : paddedDigits width n ++ s = c :: rest) : c.isDigit = true := by
  cases hdigits : paddedDigits width n with
  | nil =>
    rw [paddedDigits, List.append_eq_nil_iff] at hdigits
    exact absurd hdigits.2 (digits_ne_nil n)
  | cons first others =>
    rw [hdigits, List.cons_append, List.cons.injEq] at h
    have hmem : c ∈ paddedDigits width n := by
      rw [hdigits, ← h.1]
      exact List.mem_cons_self
    exact isDigit_of_mem_paddedDigits hmem

/-! ## Dates -/

section

variable (d : Date) (rest : List Char)

theorem daysInMonth_le (year month : Nat) : daysInMonth year month ≤ 31 := by
  unfold daysInMonth
  split
  · split <;> omega
  · split <;> omega

theorem year_lt : d.year < 10 ^ 4 := by
  have hyear := d.year_mem
  unfold lastYear at hyear
  omega

theorem month_lt : d.month < 10 ^ 2 := by
  have hmonth := d.month_mem
  omega

theorem day_lt : d.day < 10 ^ 2 := by
  have hday := d.day_mem
  have hmost := daysInMonth_le d.year d.month
  omega

/-- The text of a date and what follows it, from the left. -/
theorem text_append :
    d.text ++ rest = paddedDigits 4 d.year ++ '-' :: (paddedDigits 2 d.month ++
      '-' :: (paddedDigits 2 d.day ++ rest)) := by
  simp only [Date.text, List.append_assoc, List.cons_append]

theorem length_text : d.text.length = 10 := by
  simp only [Date.text, List.length_append, List.length_cons,
    length_paddedDigits (by decide) (year_lt d), length_paddedDigits (by decide) (month_lt d),
    length_paddedDigits (by decide) (day_lt d)]

/-- A date is read from its text, whatever follows. -/
theorem date?_text : date? (d.text ++ rest) = some d := by
  rw [text_append, date?, number?_paddedDigits (by decide) (year_lt d)]
  dsimp only [Option.bind_eq_bind, Option.bind_some]
  split
  · rename_i after hweek
    have hdigit := isDigit_of_paddedDigits_append hweek
    cases hdigit
  · simp [number?_paddedDigits (by decide) (month_lt d), number?_paddedDigits (by decide) (day_lt d),
      hyphen?, dropPrefix?, Date.ofParts?_self]

/-- The date part of a text that begins with a date is the date. -/
theorem dateLength?_text : dateLength? (d.text ++ rest) = some 10 := by
  have hlength : (d.text ++ rest).length = 10 + rest.length := by
    rw [List.length_append, length_text]
  have hyear := length_paddedDigits (by decide) (year_lt d)
  have hhyphen : (d.text ++ rest)[4]? = some '-' := by
    rw [text_append, List.getElem?_append_right (Nat.le_of_eq hyear), hyear]
    rfl
  have hmonth : ¬ (d.text ++ rest)[5]? = some 'W' := by
    rw [text_append, List.getElem?_append_right (by omega), hyear, List.getElem?_cons_succ,
      ← List.head?_eq_getElem?, List.head?_eq_some_iff]
    rintro ⟨after, hafter⟩
    have hdigit := isDigit_of_paddedDigits_append hafter
    cases hdigit
  rw [dateLength?, if_neg (by omega), if_neg (by omega), if_pos hhyphen, if_neg hmonth]

/-- A date with something after it is read as the date with the time that stands there. -/
theorem dateTime?_text :
    dateTime? (d.text ++ rest) = match rest with
      | [] => some ⟨d, .midnight, none⟩
      | _ :: after => (time? after).map fun (time, offset) => ⟨d, time, offset⟩ := by
  have hdate := date?_text d []
  rw [List.append_nil] at hdate
  rw [dateTime?, dateLength?_text]
  dsimp only [Option.bind_eq_bind, Option.bind_some]
  rw [List.take_left' (length_text d), List.drop_left' (length_text d), hdate]
  cases rest <;> rfl

end

/-! ## Parts of a time -/

/-- A time with one of its parts, the one with `later` parts after it. -/
def Clock.withPart (clock : Clock) (later n : Nat) : Clock :=
  match later with
  | 2 => { clock with hour := n }
  | 1 => { clock with minute := n }
  | _ => { clock with second := n }

section

variable {clock : Clock} {colons : Bool} {later n : Nat}

/-- A time may end after any part. -/
theorem clockFrom?_end (h : n < 10 ^ 2) :
    clockFrom? clock colons (later + 1) (paddedDigits 2 n) = some (clock.withPart later n, true) := by
  have hnumber := number?_paddedDigits (by decide) h []
  rw [List.append_nil] at hnumber
  rw [clockFrom?, hnumber]
  rfl

/-- What comes of a part that a character stands after. -/
theorem clockFrom?_cons (h : n < 10 ^ 2) (c : Char) (after : List Char) :
    clockFrom? clock colons (later + 1) (paddedDigits 2 n ++ c :: after) =
      let colons := if later = 2 then c == ':' else colons
      if after.isEmpty && c.toNat < 0x80 then some (clock.withPart later n, c.toNat == 0)
      else if colons && c == ':' then clockFrom? (clock.withPart later n) colons later after
      else if c = '.' ∨ c = ',' then
        (fraction? after).map fun (micro, whole) => ({ clock.withPart later n with micro }, whole)
      else if colons then none
      else clockFrom? (clock.withPart later n) colons later (c :: after) := by
  rw [clockFrom?, number?_paddedDigits (by decide) h]
  rfl

/-- After a part and a colon comes the next part. -/
theorem clockFrom?_colon (h : n < 10 ^ 2) (hcolons : later = 2 ∨ colons = true) {after : List Char}
    (hafter : after ≠ []) :
    clockFrom? clock colons (later + 1) (paddedDigits 2 n ++ ':' :: after) =
      clockFrom? (clock.withPart later n) true later after := by
  have hsettled : (if later = 2 then ':' == ':' else colons) = true := by
    split
    · rfl
    · rename_i hlater
      exact hcolons.resolve_left hlater
  rw [clockFrom?_cons h, hsettled, List.isEmpty_eq_false_iff.mpr hafter]
  rfl

/-- After a part and a point come six digits of microseconds. -/
theorem clockFrom?_point (h : n < 10 ^ 2) {micro : Nat} (hmicro : micro < 10 ^ 6) :
    clockFrom? clock colons (later + 1) (paddedDigits 2 n ++ '.' :: paddedDigits 6 micro) =
      some ({ clock.withPart later n with micro }, true) := by
  have hlength := length_paddedDigits (by decide) hmicro
  have hdigits : paddedDigits 6 micro ≠ [] := List.ne_nil_of_length_eq_add_one hlength
  have hnumber := number?_paddedDigits (by decide) hmicro []
  rw [List.append_nil] at hnumber
  have hfraction : fraction? (paddedDigits 6 micro) = some (micro, true) := by
    rw [fraction?, hlength]
    simp [hnumber, isOver]
  rw [clockFrom?_cons h, List.isEmpty_eq_false_iff.mpr hdigits, hfraction]
  simp

end

/-- Seconds with a fraction unless it is zero. -/
def secondsText (second micro : Nat) : List Char :=
  paddedDigits 2 second ++ if micro = 0 then [] else '.' :: paddedDigits 6 micro

theorem secondsText_ne_nil (second micro : Nat) : secondsText second micro ≠ [] := by
  unfold secondsText paddedDigits
  simp [digits_ne_nil]

theorem clockFrom?_secondsText {hour minute second micro : Nat} (hsecond : second < 10 ^ 2)
    (hmicro : micro < 10 ^ 6) :
    clockFrom? ⟨hour, minute, 0, 0⟩ true 1 (secondsText second micro) =
      some (⟨hour, minute, second, micro⟩, true) := by
  unfold secondsText
  split
  · rename_i hzero
    rw [List.append_nil, clockFrom?_end hsecond, hzero]
    rfl
  · rw [clockFrom?_point hsecond hmicro]
    rfl

/-! ## Times of day -/

section

variable (t : TimeOfDay)

theorem timeText_eq :
    DateTime.timeText t = paddedDigits 2 t.hour ++ ':' :: (paddedDigits 2 t.minute ++
      ':' :: secondsText t.second t.micro) := by
  simp only [DateTime.timeText, secondsText, List.append_assoc, List.cons_append]

/-- The parts of a time of day are read from its text. -/
theorem clock?_timeText :
    clock? (DateTime.timeText t) = some (⟨t.hour, t.minute, t.second, t.micro⟩, true) := by
  have hhour := t.hour_lt
  have hminute := t.minute_lt
  have hsecond := t.second_lt
  have hmicro := t.micro_lt
  rw [timeText_eq, clock?, clockFrom?_colon (by omega) (.inl rfl) (by simp),
    clockFrom?_colon (by omega) (.inr rfl) (secondsText_ne_nil _ _)]
  exact clockFrom?_secondsText (by omega) (by omega)

/-- In the text of a time of day nothing looks like the beginning of an offset. -/
theorem beginsOffset_of_mem_timeText {c : Char} (h : c ∈ DateTime.timeText t) :
    beginsOffset c = false := by
  have hchar : c.isDigit = true ∨ c = ':' ∨ c = '.' := by
    simp only [timeText_eq, secondsText, List.mem_append, List.mem_cons] at h
    rcases h with h | rfl | h | rfl | h | h
    · exact .inl (isDigit_of_mem_paddedDigits h)
    · exact .inr (.inl rfl)
    · exact .inl (isDigit_of_mem_paddedDigits h)
    · exact .inr (.inl rfl)
    · exact .inl (isDigit_of_mem_paddedDigits h)
    · split at h
      · cases h
      · rcases List.mem_cons.mp h with rfl | h
        · exact .inr (.inr rfl)
        · exact .inl (isDigit_of_mem_paddedDigits h)
  rcases hchar with hdigit | rfl | rfl
  · cases hbegins : beginsOffset c with
    | false => rfl
    | true =>
      simp only [beginsOffset, Bool.or_eq_true, decide_eq_true_eq] at hbegins
      rcases hbegins with (rfl | rfl) | rfl <;> cases hdigit
  · rfl
  · rfl

theorem toTimeOfDay?_eq :
    Clock.toTimeOfDay? ⟨t.hour, t.minute, t.second, t.micro⟩ = some t := by
  rw [Clock.toTimeOfDay?, TimeOfDay.ofParts?,
    dif_pos ⟨t.hour_lt, t.minute_lt, t.second_lt, t.micro_lt⟩]

/-- A time of day without an offset is read from its text. -/
theorem time?_timeText : time? (DateTime.timeText t) = some (t, none) := by
  have hall : ∀ c ∈ DateTime.timeText t, (!beginsOffset c) = true := fun c hc => by
    rw [beginsOffset_of_mem_timeText t hc]
    rfl
  have htake : (DateTime.timeText t).takeWhile (fun c => !beginsOffset c) = DateTime.timeText t :=
    List.takeWhile_eq_self_iff.mpr hall
  have hdrop : (DateTime.timeText t).dropWhile (fun c => !beginsOffset c) = [] :=
    List.dropWhile_eq_nil_iff.mpr hall
  rw [time?, htake, hdrop, clock?_timeText]
  simp [toTimeOfDay?_eq]

/-- A time of day with an offset is read from its text and that of the offset. -/
theorem time?_append {sign : Char} {body : List Char} {away : Clock} (hsign : sign = '+' ∨ sign = '-')
    (hbody : clock? body = some (away, true)) :
    time? (DateTime.timeText t ++ sign :: body) =
      (offset? (sign = '-') away).map fun o => (t, some o) := by
  have hall : ∀ c ∈ DateTime.timeText t, (!beginsOffset c) = true := fun c hc => by
    rw [beginsOffset_of_mem_timeText t hc]
    rfl
  have hbegins : (!beginsOffset sign) = false := by
    rcases hsign with rfl | rfl <;> rfl
  have hzulu : sign ≠ 'Z' := by
    rcases hsign with rfl | rfl <;> decide
  rw [time?, List.takeWhile_append_of_pos hall, List.dropWhile_append_of_pos hall,
    List.takeWhile_cons, List.dropWhile_cons, hbegins, if_neg (by decide), if_neg (by decide),
    List.append_nil, clock?_timeText]
  dsimp only [Option.bind_eq_bind, Option.bind_some]
  rw [if_neg hzulu, hbody, toTimeOfDay?_eq]
  -- no step from here on is to look into how an offset is made of a length of time
  generalize offset? = read
  rw [Option.bind_some, if_pos rfl]
  cases read (sign = '-') away <;> rfl

end

/-! ## Offsets -/

section

variable (o : Offset)

/-- The parts of the length of an offset. -/
def clockOf : Clock :=
  ⟨o.micros.natAbs / 3600000000, o.micros.natAbs / 60000000 % 60, o.micros.natAbs / 1000000 % 60,
    o.micros.natAbs % 1000000⟩

theorem micros_clockOf : (clockOf o).micros = o.micros.natAbs := by
  simp only [clockOf, Clock.micros]
  omega

/-- The text of an offset is a sign and the text of its length, from which that is read. -/
theorem exists_body_of_offsetText :
    ∃ body, DateTime.offsetText o = (if o.micros < 0 then '-' else '+') :: body ∧
      clock? body = some (clockOf o, true) := by
  have hday := o.lt_day
  unfold dayLength at hday
  generalize hn : o.micros.natAbs = n at hday
  have hhour : n / 3600000000 < 10 ^ 2 := by omega
  have hminute : n / 60000000 % 60 < 10 ^ 2 := by omega
  refine ⟨paddedDigits 2 (n / 3600000000) ++ ':' :: (paddedDigits 2 (n / 60000000 % 60) ++
    (if n / 1000000 % 60 = 0 ∧ n % 1000000 = 0 then []
      else ':' :: secondsText (n / 1000000 % 60) (n % 1000000))), ?_, ?_⟩
  · simp only [DateTime.offsetText, hn, secondsText, List.append_assoc, List.cons_append]
  · rw [clock?, clockFrom?_colon hhour (.inl rfl) (by simp [paddedDigits, digits_ne_nil])]
    simp only [clockOf, hn]
    split
    · rename_i hzero
      rw [List.append_nil, clockFrom?_end hminute, hzero.1, hzero.2]
      rfl
    · rw [clockFrom?_colon hminute (.inr rfl) (secondsText_ne_nil _ _)]
      exact clockFrom?_secondsText (by omega) (by omega)

/-- The offset that is read from the text of an offset: one below a second is read as none. -/
def readBack : Offset := if o.micros.natAbs < 1000000 then .utc else o

theorem readBack_of_utc_or_le (h : o = .utc ∨ 1000000 ≤ o.micros.natAbs) : readBack o = o := by
  unfold readBack
  split
  · rename_i hbelow
    exact (h.resolve_right (Nat.not_le.mpr hbelow)).symm
  · rfl

theorem offset?_clockOf : offset? (decide (o.micros < 0)) (clockOf o) = some (readBack o) := by
  unfold offset? readBack
  rw [micros_clockOf]
  split
  · rfl
  · have hsigned : (if decide (o.micros < 0) = true then -(o.micros.natAbs : Int) else o.micros.natAbs) =
        o.micros := by
      simp only [decide_eq_true_eq]
      split <;> omega
    rw [hsigned, Offset.ofMicros?, dif_pos o.lt_day]

end

/-! ## Dates and times -/

/-- A date and time is read from its text, with its offset if that is not below a second. -/
theorem dateTime?_text_eq (t : DateTime) :
    dateTime? t.text = some { t with offset := t.offset.map readBack } := by
  obtain ⟨date, time, offset⟩ := t
  rw [DateTime.text, DateTime.textWith, List.append_assoc, List.cons_append, dateTime?_text]
  dsimp only
  cases offset with
  | none => rw [Option.map_none, Option.getD_none, List.append_nil, time?_timeText]; rfl
  | some o =>
    obtain ⟨body, htext, hbody⟩ := exists_body_of_offsetText o
    have hsign : (if o.micros < 0 then '-' else '+') = '+' ∨ (if o.micros < 0 then '-' else '+') = '-' := by
      split
      · exact .inr rfl
      · exact .inl rfl
    have hnegative : decide ((if o.micros < 0 then '-' else '+') = '-') = decide (o.micros < 0) := by
      split <;> simp_all
    rw [Option.map_some, Option.getD_some, htext, time?_append time hsign hbody, hnegative,
      offset?_clockOf]
    rfl

end RecordCheck.Calendar.Iso
