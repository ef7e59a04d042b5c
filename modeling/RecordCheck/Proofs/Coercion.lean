import RecordCheck.Coercion.Basic
import RecordCheck.Proofs.Attempt
import RecordCheck.Proofs.Text
import RecordCheck.Proofs.Value.Comparison

/-!
# Accepted values

What it says about a value that it was accepted under a rule without parts: it is of the rule's type and
no constraint is violated.  An accepted value is accepted again as it is, whether values are converted as
before or not at all.
-/

set_option autoImplicit false

namespace RecordCheck

/-! ## Constraints -/

/-- Whether a number is at least a lower limit, if there is one.  A limit that is NaN excludes no number but
the decimals, which cannot be compared with it. -/
def Number.MeetsMin (n : Number) (limit : Value) : Prop :=
  limit = .null ∨ ∃ m, limit.numeric? = some m ∧ (m.AtMost n ∨ m = .float .nan ∧ n.isDecimal = false)

/-- Whether a number is at most an upper limit, if there is one.  A limit that is NaN excludes no number but
the decimals, which cannot be compared with it. -/
def Number.MeetsMax (n : Number) (limit : Value) : Prop :=
  limit = .null ∨ ∃ m, limit.numeric? = some m ∧ (n.AtMost m ∨ m = .float .nan ∧ n.isDecimal = false)

/-- Whether a text violates no constraint. -/
structure TextChecks.Hold (checks : TextChecks) (text : String) : Prop where
  min : (Number.int text.length).MeetsMin checks.min
  max : (Number.int text.length).MeetsMax checks.max
  pattern : checks.pattern.isNull = true ∨ findsPattern checks.pattern text = .ok true
  email : checks.email.isTruthy = true → Coercion.isEmail text.toList = true

/-- Whether a number violates no constraint. -/
structure NumberChecks.Hold (checks : NumberChecks) (n : Number) : Prop where
  min : n.MeetsMin checks.min
  max : n.MeetsMax checks.max
  integer : checks.integer.isTruthy = true → n.isIntegral = true

/-- Whether the number of an array's items is within its bounds. -/
structure ArrayChecks.Fit (checks : ArrayChecks) (size : Nat) : Prop where
  min : (Number.int size).MeetsMin checks.minItems
  max : (Number.int size).MeetsMax checks.maxItems

namespace Number

variable {n : Number} {limit : Value}

/-- A number is in no relation to a limit if there is none, or else if it can be compared with the limit and
the relation does not hold. -/
theorem compareWith_eq_false_iff {relation : Comparison} :
    limit.isNull = true ∨ (Value.number n).compareWith relation limit = .ok false ↔
      limit = .null ∨ ∃ m, limit.numeric? = some m ∧ Value.compareNumbers relation n m = .ok false := by
  refine or_congr ⟨fun h => ?_, fun h => h ▸ rfl⟩ ?_
  · cases limit <;> first | rfl | cases h
  · rw [Value.compareWith]
    cases limit.numeric? with
    | none => simp [Value.unordered]
    | some m => simp

/-- A number that is no NaN is not below a limit just when it is at least that. -/
theorem meetsMin_iff (hn : n ≠ .float .nan) :
    limit.isNull = true ∨ (Value.number n).compareWith .less limit = .ok false ↔ n.MeetsMin limit := by
  simp only [compareWith_eq_false_iff, Value.compareNumbers_less_eq_false_iff, hn, false_and, false_or,
    MeetsMin]

/-- A number that is no NaN is not above a limit just when it is at most that. -/
theorem meetsMax_iff (hn : n ≠ .float .nan) :
    limit.isNull = true ∨ (Value.number n).compareWith .greater limit = .ok false ↔ n.MeetsMax limit := by
  simp only [compareWith_eq_false_iff, Value.compareNumbers_greater_eq_false_iff, hn, false_and, false_or,
    MeetsMax]

/-- A finite number is no NaN. -/
theorem ne_nan_of_isFinite (h : n.isFinite = true) : n ≠ .float .nan := by
  rintro rfl
  cases h

end Number

namespace Coercion

/-- An entry for a limit is made just when the size is on the wrong side of it. -/
theorem limitEntry_eq_nil_iff {relation : Comparison} {size limit : Value} {code : Code}
    {detail : String} :
    limitEntry relation size limit code detail = .ok [] ↔
      limit.isNull = true ∨ size.compareWith relation limit = .ok false := by
  unfold limitEntry
  by_cases hnull : limit.isNull = true
  · simp [hnull]
  · simp only [hnull]
    cases size.compareWith relation limit with
    | error fault => simp [bind, Except.bind]
    | ok answer => cases answer <;> simp

theorem patternEntry_eq_nil_iff {pattern : Value} {text : String} :
    patternEntry pattern text = .ok [] ↔
      pattern.isNull = true ∨ findsPattern pattern text = .ok true := by
  unfold patternEntry
  by_cases hnull : pattern.isNull = true
  · simp [hnull]
  · simp only [hnull]
    cases findsPattern pattern text with
    | error fault => simp [bind, Except.bind]
    | ok answer => cases answer <;> simp

theorem emailEntry_eq_nil_iff {email : Value} {text : String} :
    emailEntry email text = .ok [] ↔ (email.isTruthy = true → isEmail text.toList = true) := by
  unfold emailEntry
  cases email.isTruthy <;> cases isEmail text.toList <;> simp

theorem integerEntry_eq_nil_iff {integer : Value} {n : Number} :
    integerEntry integer n = .ok [] ↔ (integer.isTruthy = true → n.isIntegral = true) := by
  unfold integerEntry
  cases integer.isTruthy <;> cases n.isIntegral <;> simp

/-- A text passes its checks just when it violates no constraint. -/
theorem checkText_eq_nil_iff {checks : TextChecks} {text : String} :
    checkText checks text = .ok [] ↔ checks.Hold text := by
  have hsize : Number.int text.length ≠ .float .nan := by simp
  simp only [checkText, Attempt.bind_eq_ok_iff, Attempt.pure_eq_ok_iff, List.append_eq_nil_iff]
  constructor
  · rintro ⟨low, hlow, high, hhigh, pattern, hpattern, email, hemail, ⟨⟨rfl, rfl⟩, rfl⟩, rfl⟩
    exact ⟨(Number.meetsMin_iff hsize).mp (limitEntry_eq_nil_iff.mp hlow),
      (Number.meetsMax_iff hsize).mp (limitEntry_eq_nil_iff.mp hhigh),
      patternEntry_eq_nil_iff.mp hpattern, emailEntry_eq_nil_iff.mp hemail⟩
  · rintro ⟨hmin, hmax, hpattern, hemail⟩
    exact ⟨[], limitEntry_eq_nil_iff.mpr ((Number.meetsMin_iff hsize).mpr hmin), [],
      limitEntry_eq_nil_iff.mpr ((Number.meetsMax_iff hsize).mpr hmax), [],
      patternEntry_eq_nil_iff.mpr hpattern, [], emailEntry_eq_nil_iff.mpr hemail,
      ⟨⟨rfl, rfl⟩, rfl⟩, rfl⟩

/-- A finite number passes its checks just when it violates no constraint. -/
theorem checkNumber_eq_nil_iff {checks : NumberChecks} {n : Number} (hfinite : n.isFinite = true) :
    checkNumber checks n = .ok [] ↔ checks.Hold n := by
  have hn := Number.ne_nan_of_isFinite hfinite
  simp only [checkNumber, Attempt.bind_eq_ok_iff, Attempt.pure_eq_ok_iff, List.append_eq_nil_iff]
  constructor
  · rintro ⟨low, hlow, high, hhigh, integer, hinteger, ⟨rfl, rfl⟩, rfl⟩
    exact ⟨(Number.meetsMin_iff hn).mp (limitEntry_eq_nil_iff.mp hlow),
      (Number.meetsMax_iff hn).mp (limitEntry_eq_nil_iff.mp hhigh), integerEntry_eq_nil_iff.mp hinteger⟩
  · rintro ⟨hmin, hmax, hinteger⟩
    exact ⟨[], limitEntry_eq_nil_iff.mpr ((Number.meetsMin_iff hn).mpr hmin), [],
      limitEntry_eq_nil_iff.mpr ((Number.meetsMax_iff hn).mpr hmax), [],
      integerEntry_eq_nil_iff.mpr hinteger, ⟨rfl, rfl⟩, rfl⟩

/-- A list passes its checks just when its size is within the bounds and no item occurs twice where that is
forbidden. -/
theorem checkArray_eq_nil_iff {checks : ArrayChecks} {items : List Value} :
    checkArray checks items = .ok [] ↔
      checks.Fit items.length ∧ uniqueEntry checks.unique items = .ok [] := by
  have hsize : Number.int items.length ≠ .float .nan := by simp
  simp only [checkArray, Attempt.bind_eq_ok_iff, Attempt.pure_eq_ok_iff, List.append_eq_nil_iff]
  constructor
  · rintro ⟨low, hlow, high, hhigh, unique, hunique, ⟨rfl, rfl⟩, rfl⟩
    exact ⟨⟨(Number.meetsMin_iff hsize).mp (limitEntry_eq_nil_iff.mp hlow),
      (Number.meetsMax_iff hsize).mp (limitEntry_eq_nil_iff.mp hhigh)⟩, hunique⟩
  · rintro ⟨⟨hmin, hmax⟩, hunique⟩
    exact ⟨[], limitEntry_eq_nil_iff.mpr ((Number.meetsMin_iff hsize).mpr hmin), [],
      limitEntry_eq_nil_iff.mpr ((Number.meetsMax_iff hsize).mpr hmax), [], hunique, ⟨rfl, rfl⟩, rfl⟩

/-- A value is accepted just when its type was confirmed and it passes its checks. -/
theorem constrain_eq_accepted_iff {confirmed : Outcome} {check : Value → Attempt (List Entry)}
    {value notes : Value} :
    constrain confirmed check = .ok (.accepted value notes) ↔
      confirmed = .accepted value notes ∧ check value = .ok [] := by
  cases confirmed with
  | rejected value errors => simp [constrain]
  | accepted confirmed notes =>
    rw [constrain, Attempt.bind_eq_ok_iff]
    constructor
    · rintro ⟨entries, hentries, h⟩
      cases entries with
      | nil =>
        cases Attempt.pure_eq_ok_iff.mp h
        exact ⟨rfl, hentries⟩
      | cons entry rest => cases Attempt.pure_eq_ok_iff.mp h
    · rintro ⟨hsame, hcheck⟩
      cases hsame
      exact ⟨[], hcheck, rfl⟩

/-! ## Types -/

@[simp] theorem rejectFor_ne_accepted {value accepted notes : Value} {code : Code} {details : Entries} :
    Outcome.rejectFor value code details ≠ .ok (.accepted accepted notes) := by
  simp [Outcome.rejectFor, Outcome.reject]

theorem isText_of_textOf? {convert : Bool} {value s : Value} (h : textOf? convert value = some s) :
    s.isText = true := by
  unfold textOf? at h
  split at h
  · rename_i htext
    cases h
    exact htext
  · split at h
    · obtain ⟨n, -, htext⟩ := Option.bind_eq_some_iff.mp h
      obtain ⟨t, -, rfl⟩ := Option.map_eq_some_iff.mp htext
      rfl
    · cases h

theorem eq_of_textOf?_false {value s : Value} (h : textOf? false value = some s) : s = value := by
  unfold textOf? at h
  split at h
  · cases h
    rfl
  · cases h

theorem textOf?_of_isText {convert : Bool} {value : Value} (h : value.isText = true) :
    textOf? convert value = some value := if_pos h

/-- Collapsing the blanks of a value a second time changes nothing. -/
theorem collapsed_collapsed (value : Value) : collapsed (collapsed value) = collapsed value := by
  simp [collapsed, Value.ofChars, Value.text?, Text.collapse_collapse]

/-- What is accepted as a text: in its own form where nothing is converted, else with its blanks
collapsed. -/
theorem ensureText_eq_accepted_iff {required convert : Bool} {value accepted notes : Value} :
    ensureText required convert value = .ok (.accepted accepted notes) ↔
      ∃ s, textOf? convert value = some s ∧ accepted = (if convert then collapsed s else s) ∧
        (convert = true → required = true → accepted.isBlank = false) ∧ notes = .list [] := by
  unfold ensureText
  cases textOf? convert value with
  | none => simp
  | some s =>
    cases convert with
    | false =>
      constructor
      · intro h
        cases Attempt.pure_eq_ok_iff.mp h
        exact ⟨_, rfl, rfl, nofun, rfl⟩
      · rintro ⟨_, ⟨⟩, rfl, -, rfl⟩
        rfl
    | true =>
      dsimp only
      by_cases hblank : required = true ∧ (collapsed s).isBlank = true
      · rw [if_neg (by decide), if_pos (by simp [hblank])]
        constructor
        · intro h
          exact absurd h rejectFor_ne_accepted
        · rintro ⟨_, ⟨⟩, rfl, hnot, -⟩
          have hnot := hnot rfl hblank.1
          rw [if_pos rfl, hblank.2] at hnot
          cases hnot
      · rw [if_neg (by decide), if_neg (by simpa using hblank)]
        constructor
        · intro h
          cases Attempt.pure_eq_ok_iff.mp h
          exact ⟨_, rfl, rfl, fun _ hrequired => by simpa [hrequired] using hblank, rfl⟩
        · rintro ⟨_, ⟨⟩, rfl, -, rfl⟩
          rfl

/-- What is accepted as a number: a finite one. -/
theorem ensureNumber_eq_accepted_iff {convert : Bool} {value accepted notes : Value} :
    ensureNumber convert value = .ok (.accepted accepted notes) ↔
      ∃ n, numberOf? convert value = some n ∧ n.isFinite = true ∧ accepted = .number n ∧
        notes = .list [] := by
  unfold ensureNumber
  cases numberOf? convert value with
  | none => simp
  | some n =>
    cases hfinite : n.isFinite with
    | false =>
      simp [hfinite]
    | true =>
      dsimp only
      rw [if_pos hfinite]
      constructor
      · intro h
        cases Attempt.pure_eq_ok_iff.mp h
        exact ⟨n, rfl, hfinite, rfl, rfl⟩
      · rintro ⟨_, ⟨⟩, -, rfl, rfl⟩
        rfl

/-- What is accepted as a truth value: one of the two. -/
theorem exists_bool_of_ensureBoolean {words : TruthWords} {convert : Bool} {value accepted notes : Value}
    (h : ensureBoolean words convert value = .ok (.accepted accepted notes)) :
    ∃ b, accepted = .bool b := by
  unfold ensureBoolean at h
  split at h
  · rename_i hbool
    cases Attempt.pure_eq_ok_iff.mp h
    cases value <;> first | exact ⟨_, rfl⟩ | cases hbool
  · split at h
    · exact absurd h rejectFor_ne_accepted
    · obtain ⟨isTrue, -, h⟩ := Attempt.bind_eq_ok_iff.mp h
      split at h
      · cases Attempt.pure_eq_ok_iff.mp h
        exact ⟨true, rfl⟩
      · obtain ⟨isFalse, -, h⟩ := Attempt.bind_eq_ok_iff.mp h
        split at h
        · cases Attempt.pure_eq_ok_iff.mp h
          exact ⟨false, rfl⟩
        · exact absurd h rejectFor_ne_accepted

/-- A truth value is accepted as it is. -/
theorem ensureBoolean_bool (words : TruthWords) (convert b : Bool) :
    ensureBoolean words convert (.bool b) = .ok (.accept (.bool b)) := rfl

end Coercion

/-- Whether a value is a date, with or without a time of day. -/
def Value.isDate : Value → Bool
  | .date _ | .dateTime _ => true
  | _ => false

namespace Coercion

/-- What is accepted as a date: one with or without a time of day. -/
theorem isDate_of_ensureDate {convert : Bool} {value accepted notes : Value}
    (h : ensureDate convert value = .ok (.accepted accepted notes)) : accepted.isDate = true := by
  unfold ensureDate at h
  split at h
  · cases Attempt.pure_eq_ok_iff.mp h
    rfl
  · cases Attempt.pure_eq_ok_iff.mp h
    rfl
  · dsimp only at h
    split at h
    · split at h
      · obtain ⟨found, -, h⟩ := Attempt.bind_eq_ok_iff.mp h
        split at h
        · cases Attempt.pure_eq_ok_iff.mp h
          rfl
        · exact absurd h rejectFor_ne_accepted
      · exact absurd h rejectFor_ne_accepted
    · exact absurd h rejectFor_ne_accepted

/-- A date is accepted as it is. -/
theorem ensureDate_of_isDate {convert : Bool} {value : Value} (h : value.isDate = true) :
    ensureDate convert value = .ok (.accept value) := by
  cases value <;> first | rfl | cases h

/-- What is accepted as an array: a list. -/
theorem exists_items_of_ensureArray {delimiter : Value} {convert : Bool} {value accepted notes : Value}
    (h : ensureArray delimiter convert value = .ok (.accepted accepted notes)) :
    (∃ items, accepted = .list items) ∧ notes = .list [] := by
  unfold ensureArray at h
  split at h
  · cases Attempt.pure_eq_ok_iff.mp h
    exact ⟨⟨_, rfl⟩, rfl⟩
  · cases Attempt.pure_eq_ok_iff.mp h
    exact ⟨⟨_, rfl⟩, rfl⟩
  · split at h
    · split at h
      · cases Attempt.pure_eq_ok_iff.mp h
        exact ⟨⟨_, rfl⟩, rfl⟩
      · exact absurd h Attempt.refuse_ne_ok
    · exact absurd h rejectFor_ne_accepted

/-! ## Values under rules -/

/-- A value accepted under a text rule is a text that violates no constraint; where one is required it is
not made blank. -/
theorem coerceText_spec {common : Common} {checks : TextChecks} {convert : Bool}
    {value accepted notes : Value}
    (h : coerceText common checks convert value = .ok (.accepted accepted notes)) :
    ∃ s, accepted.text? = some s ∧ checks.Hold s ∧
      (common.required.isTruthy = true → value.isBlank = false → accepted.isBlank = false) := by
  obtain ⟨confirmed, hconfirmed, hconstrain⟩ := Attempt.bind_eq_ok_iff.mp h
  obtain ⟨rfl, hcheck⟩ := constrain_eq_accepted_iff.mp hconstrain
  obtain ⟨source, hsource, haccepted, hblank, -⟩ := ensureText_eq_accepted_iff.mp hconfirmed
  have htext : accepted.isText = true := by
    cases convert with
    | false =>
      subst haccepted
      exact isText_of_textOf? hsource
    | true =>
      subst haccepted
      rfl
  obtain ⟨s, hs⟩ := Option.isSome_iff_exists.mp htext
  refine ⟨s, hs, ?_, ?_⟩
  · rw [onText, hs] at hcheck
    exact checkText_eq_nil_iff.mp hcheck
  · intro hrequired hvalue
    cases convert with
    | false =>
      rw [haccepted, if_neg (by decide), eq_of_textOf?_false hsource]
      exact hvalue
    | true => exact hblank rfl hrequired

/-- A value accepted under a number rule is a finite number that violates no constraint. -/
theorem coerceNumber_spec {checks : NumberChecks} {convert : Bool} {value accepted notes : Value}
    (h : coerceNumber checks convert value = .ok (.accepted accepted notes)) :
    ∃ n, accepted = .number n ∧ n.isFinite = true ∧ checks.Hold n := by
  obtain ⟨confirmed, hconfirmed, hconstrain⟩ := Attempt.bind_eq_ok_iff.mp h
  obtain ⟨rfl, hcheck⟩ := constrain_eq_accepted_iff.mp hconstrain
  obtain ⟨n, -, hfinite, rfl, -⟩ := ensureNumber_eq_accepted_iff.mp hconfirmed
  exact ⟨n, rfl, hfinite, (checkNumber_eq_nil_iff hfinite).mp hcheck⟩

/-- A value accepted under an array rule is a list whose size is within the bounds. -/
theorem coerceArray_spec {checks : ArrayChecks} {convert : Bool} {value accepted notes : Value}
    (h : coerceArray checks convert value = .ok (.accepted accepted notes)) :
    ∃ items, accepted = .list items ∧
      ensureArray checks.delimiter convert value = .ok (.accept (.list items)) ∧
      checks.Fit items.length ∧ uniqueEntry checks.unique items = .ok [] := by
  obtain ⟨confirmed, hconfirmed, hconstrain⟩ := Attempt.bind_eq_ok_iff.mp h
  obtain ⟨rfl, hcheck⟩ := constrain_eq_accepted_iff.mp hconstrain
  obtain ⟨⟨items, rfl⟩, rfl⟩ := exists_items_of_ensureArray hconfirmed
  obtain ⟨hfit, hunique⟩ := checkArray_eq_nil_iff.mp hcheck
  exact ⟨items, rfl, hconfirmed, hfit, hunique⟩

/-! ## Accepted again -/

/-- A text that was accepted is accepted as it is. -/
theorem coerceText_again {common : Common} {checks : TextChecks} {convert again : Bool}
    {value accepted notes : Value}
    (h : coerceText common checks convert value = .ok (.accepted accepted notes))
    (hagain : again = convert ∨ again = false) :
    coerceText common checks again accepted = .ok (.accept accepted) := by
  obtain ⟨confirmed, hconfirmed, hconstrain⟩ := Attempt.bind_eq_ok_iff.mp h
  obtain ⟨rfl, hcheck⟩ := constrain_eq_accepted_iff.mp hconstrain
  obtain ⟨source, hsource, haccepted, hblank, -⟩ := ensureText_eq_accepted_iff.mp hconfirmed
  obtain ⟨s, hs, -⟩ := coerceText_spec h
  have hfixed : accepted = if again then collapsed accepted else accepted := by
    rcases hagain with rfl | rfl
    · cases again with
      | false => rfl
      | true =>
        rw [haccepted]
        exact (collapsed_collapsed source).symm
    · rfl
  have hblank : again = true → common.required.isTruthy = true → accepted.isBlank = false := by
    rcases hagain with rfl | rfl
    · exact hblank
    · nofun
  have htext : textOf? again accepted = some accepted := textOf?_of_isText (by rw [Value.isText, hs]; rfl)
  refine Attempt.bind_eq_ok_iff.mpr ⟨.accept accepted, ?_, ?_⟩
  · exact ensureText_eq_accepted_iff.mpr ⟨accepted, htext, hfixed, hblank, rfl⟩
  · exact constrain_eq_accepted_iff.mpr ⟨rfl, hcheck⟩

/-- A number that was accepted is accepted as it is. -/
theorem coerceNumber_again {checks : NumberChecks} {convert : Bool} {value accepted notes : Value}
    (h : coerceNumber checks convert value = .ok (.accepted accepted notes)) (again : Bool) :
    coerceNumber checks again accepted = .ok (.accept accepted) := by
  obtain ⟨n, rfl, hfinite, hhold⟩ := coerceNumber_spec h
  refine Attempt.bind_eq_ok_iff.mpr ⟨.accept (.number n), ?_, ?_⟩
  · exact ensureNumber_eq_accepted_iff.mpr ⟨n, rfl, hfinite, rfl, rfl⟩
  · exact constrain_eq_accepted_iff.mpr ⟨rfl, (checkNumber_eq_nil_iff hfinite).mpr hhold⟩

/-- A list of as many items as one that was accepted is accepted as it is where items may occur twice. -/
theorem coerceArray_again {checks : ArrayChecks} {items : List Value} (hfit : checks.Fit items.length)
    (hunique : checks.unique.isTruthy = false) (again : Bool) :
    coerceArray checks again (.list items) = .ok (.accept (.list items)) := by
  refine Attempt.bind_eq_ok_iff.mpr ⟨.accept (.list items), rfl, ?_⟩
  refine constrain_eq_accepted_iff.mpr ⟨rfl, checkArray_eq_nil_iff.mpr ⟨hfit, ?_⟩⟩
  rw [uniqueEntry, hunique]
  rfl

/-! ## Accepted without conversion -/

section

variable {value accepted notes : Value}

theorem eq_of_coerceText_false {common : Common} {checks : TextChecks}
    (h : coerceText common checks false value = .ok (.accepted accepted notes)) : accepted = value := by
  obtain ⟨confirmed, hconfirmed, hconstrain⟩ := Attempt.bind_eq_ok_iff.mp h
  obtain ⟨rfl, -⟩ := constrain_eq_accepted_iff.mp hconstrain
  obtain ⟨s, hs, rfl, -⟩ := ensureText_eq_accepted_iff.mp hconfirmed
  exact eq_of_textOf?_false hs

theorem eq_of_coerceNumber_false {checks : NumberChecks}
    (h : coerceNumber checks false value = .ok (.accepted accepted notes)) : accepted = value := by
  obtain ⟨confirmed, hconfirmed, hconstrain⟩ := Attempt.bind_eq_ok_iff.mp h
  obtain ⟨rfl, -⟩ := constrain_eq_accepted_iff.mp hconstrain
  obtain ⟨n, hn, -, rfl, -⟩ := ensureNumber_eq_accepted_iff.mp hconfirmed
  unfold numberOf? at hn
  split at hn
  · cases hn
  · cases value <;> cases hn
    rfl

theorem eq_of_ensureBoolean_false {words : TruthWords}
    (h : ensureBoolean words false value = .ok (.accepted accepted notes)) : accepted = value := by
  unfold ensureBoolean at h
  split at h
  · cases Attempt.pure_eq_ok_iff.mp h
    rfl
  · exact absurd h rejectFor_ne_accepted

theorem eq_of_ensureDate_false (h : ensureDate false value = .ok (.accepted accepted notes)) :
    accepted = value := by
  unfold ensureDate at h
  split at h
  · cases Attempt.pure_eq_ok_iff.mp h
    rfl
  · cases Attempt.pure_eq_ok_iff.mp h
    rfl
  · exact absurd h rejectFor_ne_accepted

/-- Without conversion only a tuple becomes a list that it is not. -/
theorem eq_of_ensureArray_false {delimiter : Value} {items : List Value}
    (h : ensureArray delimiter false value = .ok (.accept (.list items))) :
    value = .list items ∨ value = .tuple items := by
  unfold ensureArray at h
  split at h
  · cases Attempt.pure_eq_ok_iff.mp h
    exact .inl rfl
  · cases Attempt.pure_eq_ok_iff.mp h
    exact .inr rfl
  · split at h
    · rename_i hconvert
      cases hconvert
    · exact absurd h rejectFor_ne_accepted

/-! ## Accepted in the form of the rule -/

/-- A text without blanks to collapse is accepted as the same text. -/
theorem text?_of_coerceText {common : Common} {checks : TextChecks} {convert : Bool} {s : String}
    (hs : value.text? = some s) (hcollapsed : Text.collapse s.toList = s.toList)
    (h : coerceText common checks convert value = .ok (.accepted accepted notes)) :
    accepted.text? = some s := by
  obtain ⟨confirmed, hconfirmed, hconstrain⟩ := Attempt.bind_eq_ok_iff.mp h
  obtain ⟨rfl, -⟩ := constrain_eq_accepted_iff.mp hconstrain
  obtain ⟨source, hsource, rfl, -⟩ := ensureText_eq_accepted_iff.mp hconfirmed
  rw [textOf?_of_isText (by rw [Value.isText, hs]; rfl)] at hsource
  cases hsource
  cases convert with
  | false => exact hs
  | true =>
    rw [if_pos rfl, collapsed, hs, Option.getD_some, hcollapsed, Value.ofChars, String.ofList_toList]
    rfl

/-- A number is accepted as it is. -/
theorem eq_of_coerceNumber_of_isNumber {checks : NumberChecks} {convert : Bool}
    (hnumber : value.isNumber = true)
    (h : coerceNumber checks convert value = .ok (.accepted accepted notes)) : accepted = value := by
  obtain ⟨confirmed, hconfirmed, hconstrain⟩ := Attempt.bind_eq_ok_iff.mp h
  obtain ⟨rfl, -⟩ := constrain_eq_accepted_iff.mp hconstrain
  obtain ⟨n, hn, -, rfl, -⟩ := ensureNumber_eq_accepted_iff.mp hconfirmed
  cases value <;> cases hnumber
  cases hn
  rfl

/-! ## Accepted without conversion, and then with it -/

/-- A text whose blanks are collapsed already is accepted with conversion as without it, plainly spelled. -/
theorem coerceText_true_of_false {common : Common} {checks : TextChecks} (hvalue : value.isBlank = false)
    (hcollapsed : ∀ s, value.text? = some s → Text.collapse s.toList = s.toList)
    (h : coerceText common checks false value = .ok (.accepted accepted notes)) :
    ∃ s, accepted.text? = some s ∧ coerceText common checks true value = .ok (.accept (.text s)) := by
  obtain ⟨s, hs, hhold, -⟩ := coerceText_spec h
  obtain rfl := eq_of_coerceText_false h
  have htext : textOf? true accepted = some accepted := textOf?_of_isText (by rw [Value.isText, hs]; rfl)
  have hplain : collapsed accepted = .text s := by
    rw [collapsed, hs, Option.getD_some, hcollapsed s hs, Value.ofChars, String.ofList_toList]
  have hblank : (Value.text s).isBlank = false := by
    cases accepted <;> cases hs <;> exact hvalue
  refine ⟨s, hs, Attempt.bind_eq_ok_iff.mpr ⟨.accept (.text s), ?_, ?_⟩⟩
  · exact ensureText_eq_accepted_iff.mpr ⟨accepted, htext, hplain.symm, fun _ _ => hblank, rfl⟩
  · exact constrain_eq_accepted_iff.mpr ⟨rfl, checkText_eq_nil_iff.mpr hhold⟩

theorem coerceNumber_true_of_false {checks : NumberChecks}
    (h : coerceNumber checks false value = .ok (.accepted accepted notes)) :
    coerceNumber checks true value = .ok (.accept accepted) := by
  have hagain := coerceNumber_again h true
  rwa [← eq_of_coerceNumber_false h]

theorem ensureBoolean_true_of_false {words : TruthWords}
    (h : ensureBoolean words false value = .ok (.accepted accepted notes)) :
    ensureBoolean words true value = .ok (.accept accepted) := by
  obtain rfl := eq_of_ensureBoolean_false h
  obtain ⟨b, rfl⟩ := exists_bool_of_ensureBoolean h
  exact ensureBoolean_bool words true b

theorem ensureDate_true_of_false (h : ensureDate false value = .ok (.accepted accepted notes)) :
    ensureDate true value = .ok (.accept accepted) := by
  obtain rfl := eq_of_ensureDate_false h
  exact ensureDate_of_isDate (isDate_of_ensureDate h)

/-- What is an array without conversion is the same array with it. -/
theorem coerceArray_true_of_false {checks : ArrayChecks}
    (h : coerceArray checks false value = .ok (.accepted accepted notes)) :
    ∃ items, (value = .list items ∨ value = .tuple items) ∧ accepted = .list items ∧
      coerceArray checks true value = .ok (.accept (.list items)) := by
  obtain ⟨items, rfl, hensure, hfit, hunique⟩ := coerceArray_spec h
  have hvalue := eq_of_ensureArray_false hensure
  refine ⟨items, hvalue, rfl, Attempt.bind_eq_ok_iff.mpr ⟨.accept (.list items), ?_, ?_⟩⟩
  · rcases hvalue with rfl | rfl <;> rfl
  · exact constrain_eq_accepted_iff.mpr ⟨rfl, checkArray_eq_nil_iff.mpr ⟨hfit, hunique⟩⟩

end

end Coercion

end RecordCheck
