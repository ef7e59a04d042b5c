import RecordCheck.Proofs.Coercion
import RecordCheck.Proofs.Value.Comparison

/-!
# Values that are not answered

A rule for texts, numbers, truth values or arrays answers nearly every value.  There are two things that it
fails for.  A limit that is an integer of too many digits cannot be written into the message that says that
it is not kept.  And some values cannot be compared: a signaling NaN with a word, or with another item where
items must be distinct, and a NaN that is a limit where decimals are concerned.

Each check is followed with what hinders it, and a rule fails only if one of its checks does.
-/

set_option autoImplicit false

namespace RecordCheck

open Attempt

/-! ## Messages -/

namespace Entry

/-- The message of an error without details can be made. -/
theorem failsOnly_ofCode_nil {P : Fault → Prop} (code : Code) : FailsOnly P (ofCode code []) := by
  unfold ofCode Template.fill
  refine .bind ?_ fun _ => failsOnly_pure _
  split
  · exact failsOnly_pure _
  · exact failsOnly_pure _

/-- What is found among a single detail is that. -/
theorem eq_of_get?_singleton {name key v w : Value} (h : Entries.get? [(name, v)] key = some w) :
    w = v := by
  unfold Entries.get? Entries.find? at h
  rw [List.find?_cons] at h
  split at h
  · cases h
    rfl
  · cases h

/-- The message of an error with a number in it can be made unless it is an integer of too many digits. -/
theorem failsOnly_ofCode_number {P : Fault → Prop} {limit : Value} {m : Number} (code : Code) (detail : String)
    (hlimit : limit.numeric? = some m)
    (hlong : ∀ n, m = .int n → Number.fitsText n = false → P (.operation .longInteger)) :
    FailsOnly P (ofCode code [(.text detail, limit)]) := by
  have htext : FailsOnly P limit.textOf := by
    refine FailsOnly.bind ?_ fun _ => failsOnly_pure _
    cases limit with
    | bool b => exact failsOnly_pure _
    | number n =>
      cases hlimit
      show FailsOnly P (Value.numberText m)
      unfold Value.numberText
      split
      · exact failsOnly_pure _
      · rename_i hnone
        cases m with
        | int n =>
          refine failsOnly_throw (hlong n rfl ?_)
          simpa [Number.text?] using hnone
        | _ => cases hnone
    | _ => cases hlimit
  unfold ofCode Template.fill
  refine .bind ?_ fun _ => failsOnly_pure _
  split
  · exact failsOnly_pure _
  · split
    · exact failsOnly_pure _
    · rename_i found hfound
      rw [eq_of_get?_singleton hfound]
      exact htext.bind fun _ => failsOnly_pure _

end Entry

/-! ## Rules -/

namespace Rule

/-- Whether a rule is one for texts, numbers, truth values or arrays with parameters of the types that they are
meant to be of. -/
def IsTyped : Rule → Prop
  | text _ checks =>
    checks.min.IsBound ∧ checks.max.IsBound ∧ (checks.pattern = .null ∨ ∃ p, checks.pattern = .pattern p)
  | number _ checks => checks.min.IsBound ∧ checks.max.IsBound
  | boolean .. => True
  | array _ _ checks => checks.minItems.IsBound ∧ checks.maxItems.IsBound ∧ checks.delimiter.isText = true
  | _ => False

/-- The limit of a rule that nothing may be in a relation to: the lower one that it may not be less than, or
the upper one that it may not be greater than. -/
def limit : Rule → Comparison → Value
  | text _ checks, .less => checks.min
  | text _ checks, .greater => checks.max
  | number _ checks, .less => checks.min
  | number _ checks, .greater => checks.max
  | array _ _ checks, .less => checks.minItems
  | array _ _ checks, .greater => checks.maxItems
  | _, _ => .null

/-- A value whose type is confirmed under a rule with limits or with words, before they are looked at. -/
def confirm (convert : Bool) : Rule → Value → Attempt Outcome
  | text common _, value => Coercion.ensureText common.required.isTruthy convert value
  | number .., value => Coercion.ensureNumber convert value
  | array _ _ checks, value => Coercion.ensureArray checks.delimiter convert value
  | _, value => pure (.accept value)

/-- What a rule measures in a value by its limits: the number of characters, the number that it is, or the
number of items. -/
def measured? : Rule → Value → Option Number
  | text .., value => value.text?.map fun s => .int s.length
  | number .., value => value.number?
  | array .., .list items => some (.int items.length)
  | _, _ => none

/-- What hinders a rule from an answer to a value. -/
inductive Hinders (convert : Bool) (rule : Rule) (value : Value) : Fault → Prop
  /-- a limit that is not kept and has too many digits to say so -/
  | longLimit {confirmed notes : Value} {relation : Comparison} {size : Number} {n : Int}
      (typed : rule.confirm convert value = .ok (.accepted confirmed notes))
      (measured : rule.measured? confirmed = some size)
      (limit : (rule.limit relation).numeric? = some (.int n))
      (beyond : Value.compareNumbers relation size (.int n) = .ok true)
      (long : Number.fitsText n = false) : Hinders convert rule value (.operation .longInteger)
  /-- a limit that is NaN, where it or the number compared with it is a decimal -/
  | nanLimit {confirmed notes : Value} {relation : Comparison} {size limit : Number}
      (typed : rule.confirm convert value = .ok (.accepted confirmed notes))
      (measured : rule.measured? confirmed = some size)
      (limited : (rule.limit relation).numeric? = some limit) (nan : limit.worth? = none)
      (decimal : (size.isDecimal || limit.isDecimal) = true) :
      Hinders convert rule value (.operation (.decimal .invalidOperation))
  /-- a signaling NaN in a value that is no text, or in a word that it is compared with -/
  | word {common : Common} {words : TruthWords} (isBoolean : rule = boolean common words)
      (isConverted : convert = true) (notText : value.isText = false)
      (signal : ¬ (value.isQuiet = true ∧ Value.areQuiet (words.truthy.getD Coercion.defaultTruthy) = true ∧
        Value.areQuiet (words.falsy.getD Coercion.defaultFalsy) = true)) :
      Hinders convert rule value (.operation (.decimal .invalidOperation))
  /-- a signaling NaN in an item where items must be distinct -/
  | item {common : Common} {element : Option Rule} {checks : ArrayChecks} {items : List Value}
      {notes : Value} (isArray : rule = array common element checks)
      (isUnique : checks.unique.isTruthy = true)
      (typed : rule.confirm convert value = .ok (.accepted (.list items) notes))
      (signal : Value.areQuiet items = false) :
      Hinders convert rule value (.operation (.decimal .invalidOperation))

end Rule

namespace Coercion

variable {P : Fault → Prop}

theorem failsOnly_rejectFor (value : Value) (code : Code) :
    FailsOnly P (Outcome.rejectFor value code []) :=
  (Entry.failsOnly_ofCode_nil code).bind fun _ => failsOnly_pure _

/-! ## Checks -/

section

variable {relation : Comparison} {size : Number} {limit : Value} {code : Code} {detail : String}

/-- A size that is worth something is compared with a number as a limit without fail, unless that is NaN and
one of them a decimal; and then a message can be made unless the limit is an integer of too many digits. -/
theorem failsOnly_limitEntry {x : Number.Line} (hsize : size.worth? = some x)
    (hlimit : limit.IsBound)
    (hlong : ∀ n, limit.numeric? = some (.int n) → Value.compareNumbers relation size (.int n) = .ok true →
      Number.fitsText n = false → P (.operation .longInteger))
    (hnan : ∀ m, limit.numeric? = some m → m.worth? = none → (size.isDecimal || m.isDecimal) = true →
      P (.operation (.decimal .invalidOperation))) :
    FailsOnly P (limitEntry relation (.number size) limit code detail) := by
  unfold limitEntry
  rcases hlimit with rfl | ⟨m, hm⟩
  · exact failsOnly_pure _
  · refine .ite (failsOnly_pure _) ?_
    rw [Value.compareWith_number relation hm]
    refine .bind_of_ok ?_ fun answer hanswer => ?_
    · refine (Value.failsOnly_compareNumbers relation size m).imp fun fault h => ?_
      obtain ⟨rfl, hnone | hnone, hdecimal⟩ := h
      · rw [hsize] at hnone
        cases hnone
      · exact hnan m hm hnone hdecimal
    · cases answer with
      | false => exact failsOnly_pure _
      | true =>
        refine .bind (Entry.failsOnly_ofCode_number code detail hm ?_) fun _ => failsOnly_pure _
        rintro n rfl hfits
        exact hlong n hm hanswer hfits

end

theorem failsOnly_patternEntry {pattern : Value} (h : pattern = .null ∨ ∃ p, pattern = .pattern p)
    (text : String) : FailsOnly P (patternEntry pattern text) := by
  rcases h with rfl | ⟨p, rfl⟩
  · exact failsOnly_pure _
  · refine .ite (failsOnly_pure _) (.bind (failsOnly_pure _) fun _ => .ite (failsOnly_pure _) ?_)
    exact .bind (failsOnly_pure _) fun _ => failsOnly_pure _

theorem failsOnly_emailEntry (email : Value) (text : String) : FailsOnly P (emailEntry email text) :=
  .ite ((Entry.failsOnly_ofCode_nil _).bind fun _ => failsOnly_pure _) (failsOnly_pure _)

theorem failsOnly_integerEntry (integer : Value) (n : Number) : FailsOnly P (integerEntry integer n) :=
  .ite ((Entry.failsOnly_ofCode_nil _).bind fun _ => failsOnly_pure _) (failsOnly_pure _)

theorem failsOnly_sameItem (a b : Value) :
    FailsOnly (Value.IsSignalUnless (a.isQuiet = true ∧ b.isQuiet = true)) (sameItem a b) :=
  .ite (failsOnly_pure false) (Value.failsOnly_same a b)

/-- Items are compared with one another only. -/
theorem failsOnly_hasDuplicatesAfter (seen items : List Value) :
    FailsOnly (Value.IsSignalUnless (Value.areQuiet (seen ++ items) = true))
      (hasDuplicatesAfter seen items) := by
  induction items generalizing seen with
  | nil => exact failsOnly_pure false
  | cons item rest ih =>
    refine .bind (failsOnly_anyM fun s hs => ?_) fun _ => .ite (failsOnly_pure true) ?_
    · refine (failsOnly_sameItem item s).imp (Value.IsSignalUnless.imp fun h => ?_)
      have hall := Value.areQuiet_iff.mp h
      exact ⟨hall item (by simp), hall s (List.mem_append_left _ hs)⟩
    · have hrest := ih (seen ++ [item])
      rwa [List.append_assoc, List.singleton_append] at hrest

theorem failsOnly_uniqueEntry (unique : Value) (items : List Value) :
    FailsOnly (Value.IsSignalUnless (unique.isTruthy = true → Value.areQuiet items = true))
      (uniqueEntry unique items) := by
  unfold uniqueEntry
  split
  · rename_i hunique
    refine .bind ?_ fun _ => .ite ((Entry.failsOnly_ofCode_nil _).bind fun _ => failsOnly_pure _)
      (failsOnly_pure _)
    exact (failsOnly_hasDuplicatesAfter [] items).imp (Value.IsSignalUnless.imp fun h => h hunique)
  · exact failsOnly_pure _

/-- A value that is no text is compared with the words that are none. -/
theorem failsOnly_isWord (value : Value) (words : List Value) :
    FailsOnly (Value.IsSignalUnless (value.isText = false →
      value.isQuiet = true ∧ Value.areQuiet words = true)) (isWord value words) := by
  unfold isWord
  split
  · exact failsOnly_pure _
  · rename_i hnone
    have htext : value.isText = false := by rw [Value.isText, hnone]; rfl
    refine failsOnly_anyM fun w hw => .ite (failsOnly_pure false) ?_
    exact (Value.failsOnly_same w value).imp (Value.IsSignalUnless.imp fun h =>
      ⟨Value.areQuiet_iff.mp (h htext).2 w hw, (h htext).1⟩)

/-! ## Values under rules -/

section

variable {convert : Bool} {value : Value}

theorem failsOnly_constrain {confirmed : Outcome} {check : Value → Attempt (List Entry)}
    (h : ∀ v notes, confirmed = .accepted v notes → FailsOnly P (check v)) :
    FailsOnly P (constrain confirmed check) := by
  cases confirmed with
  | rejected v errors => exact failsOnly_pure _
  | accepted v notes =>
    refine (h v notes rfl).bind fun errors => ?_
    cases errors <;> exact failsOnly_pure _

/-- A limit of a rule is checked without fail unless it hinders the rule. -/
theorem failsOnly_limits {rule : Rule} {confirmed notes : Value} {size : Number} {x : Number.Line}
    {code : Code} {detail : String} (relation : Comparison)
    (htyped : rule.confirm convert value = .ok (.accepted confirmed notes))
    (hmeasured : rule.measured? confirmed = some size) (hsize : size.worth? = some x)
    (hlimit : (rule.limit relation).IsBound) :
    FailsOnly (rule.Hinders convert value)
      (limitEntry relation (.number size) (rule.limit relation) code detail) :=
  failsOnly_limitEntry hsize hlimit
    (fun _ hn hbeyond hlong => .longLimit htyped hmeasured hn hbeyond hlong)
    fun _ hm hnan hdecimal => .nanLimit htyped hmeasured hm hnan hdecimal

theorem failsOnly_ensureText (required : Bool) : FailsOnly P (ensureText required convert value) := by
  unfold ensureText
  split
  · exact failsOnly_rejectFor _ _
  · exact .ite (failsOnly_pure _) (.ite (failsOnly_rejectFor _ _) (failsOnly_pure _))

theorem failsOnly_ensureNumber : FailsOnly P (ensureNumber convert value) := by
  unfold ensureNumber
  split
  · exact failsOnly_rejectFor _ _
  · exact .ite (failsOnly_pure _) (failsOnly_rejectFor _ _)

theorem failsOnly_ensureArray {delimiter : Value} (h : delimiter.isText = true) :
    FailsOnly P (ensureArray delimiter convert value) := by
  obtain ⟨d, hd⟩ := Option.isSome_iff_exists.mp h
  unfold ensureArray
  split
  · exact failsOnly_pure _
  · exact failsOnly_pure _
  · split
    · rw [hd]
      exact failsOnly_pure _
    · exact failsOnly_rejectFor _ _

variable {common : Common}

theorem failsOnly_coerceText {checks : TextChecks} (h : (Rule.text common checks).IsTyped) :
    FailsOnly ((Rule.text common checks).Hinders convert value)
      (coerceText common checks convert value) := by
  obtain ⟨hmin, hmax, hpattern⟩ := h
  refine (failsOnly_ensureText _).bind_of_ok fun o ho => failsOnly_constrain fun v notes hv => ?_
  subst hv
  unfold onText
  split
  · rename_i s hs
    have hmeasured : (Rule.text common checks).measured? v = some (.int s.length) := by
      rw [Rule.measured?, hs, Option.map_some]
    refine .bind (failsOnly_limits .less ho hmeasured rfl hmin) fun _ => ?_
    refine .bind (failsOnly_limits .greater ho hmeasured rfl hmax) fun _ => ?_
    refine .bind (failsOnly_patternEntry hpattern s) fun _ => ?_
    exact .bind (failsOnly_emailEntry checks.email s) fun _ => failsOnly_pure _
  · exact failsOnly_pure _

theorem failsOnly_coerceNumber {checks : NumberChecks} (h : (Rule.number common checks).IsTyped) :
    FailsOnly ((Rule.number common checks).Hinders convert value) (coerceNumber checks convert value) := by
  obtain ⟨hmin, hmax⟩ := h
  refine failsOnly_ensureNumber.bind_of_ok fun o ho => failsOnly_constrain fun v notes hv => ?_
  subst hv
  obtain ⟨n, -, hfinite, rfl, -⟩ := ensureNumber_eq_accepted_iff.mp ho
  obtain ⟨x, hx⟩ := Number.exists_worth?_of_isFinite hfinite
  refine .bind (failsOnly_limits .less ho rfl hx hmin) fun _ => ?_
  refine .bind (failsOnly_limits .greater ho rfl hx hmax) fun _ => ?_
  exact .bind (failsOnly_integerEntry checks.integer n) fun _ => failsOnly_pure _

theorem failsOnly_ensureBoolean (words : TruthWords) :
    FailsOnly ((Rule.boolean common words).Hinders convert value) (ensureBoolean words convert value) := by
  unfold ensureBoolean
  refine .ite (failsOnly_pure _) ?_
  cases convert with
  | false => exact failsOnly_rejectFor _ _
  | true =>
    have hword (sought : List Value) (h : sought = words.truthy.getD defaultTruthy ∨
        sought = words.falsy.getD defaultFalsy) :
        FailsOnly ((Rule.boolean common words).Hinders true value) (isWord value sought) := by
      intro fault hfault
      obtain ⟨rfl, hsignal⟩ := failsOnly_isWord value sought fault hfault
      obtain ⟨htext, hsignal⟩ := Classical.not_imp.mp hsignal
      refine .word rfl rfl htext fun hquiet => hsignal ⟨hquiet.1, ?_⟩
      rcases h with rfl | rfl
      · exact hquiet.2.1
      · exact hquiet.2.2
    refine (hword _ (.inl rfl)).bind fun _ => .ite (failsOnly_pure _) ?_
    exact (hword _ (.inr rfl)).bind fun _ => .ite (failsOnly_pure _) (failsOnly_rejectFor _ _)

theorem failsOnly_coerceArray {element : Option Rule} {checks : ArrayChecks}
    (h : (Rule.array common element checks).IsTyped) :
    FailsOnly ((Rule.array common element checks).Hinders convert value)
      (coerceArray checks convert value) := by
  obtain ⟨hmin, hmax, hdelimiter⟩ := h
  refine (failsOnly_ensureArray hdelimiter).bind_of_ok fun o ho => failsOnly_constrain fun v notes hv => ?_
  subst hv
  obtain ⟨⟨items, rfl⟩, -⟩ := exists_items_of_ensureArray ho
  refine .bind (failsOnly_limits .less ho rfl rfl hmin) fun _ => ?_
  refine .bind (failsOnly_limits .greater ho rfl rfl hmax) fun _ => ?_
  refine .bind ((failsOnly_uniqueEntry checks.unique items).imp fun fault hfault => ?_) fun _ =>
    failsOnly_pure _
  obtain ⟨rfl, hsignal⟩ := hfault
  obtain ⟨hunique, hsignal⟩ := Classical.not_imp.mp hsignal
  exact .item rfl hunique ho (Bool.eq_false_iff.mpr hsignal)

end

/-- A rule for texts, numbers, truth values or arrays answers every value, unless something hinders it: a limit
that cannot be written, or values that cannot be compared. -/
theorem coerce_answers {rule : Rule} (h : rule.IsTyped) (value : Value) (context : Context) :
    (∃ o, coerce rule value context = .ok o) ∨
      ∃ fault, coerce rule value context = .error fault ∧ rule.Hinders context.convert value fault := by
  have hfails : FailsOnly (rule.Hinders context.convert value) (coerce rule value context) := by
    cases rule with
    | text common checks => exact failsOnly_coerceText h
    | number common checks => exact failsOnly_coerceNumber h
    | boolean common words => exact failsOnly_ensureBoolean words
    | array common element checks => exact failsOnly_coerceArray h
    | _ => exact h.elim
  cases hcoerce : coerce rule value context with
  | ok o => exact .inl ⟨o, rfl⟩
  | error fault => exact .inr ⟨fault, rfl, hfails fault hcoerce⟩

namespace Sample

/-- A rule for arrays of distinct items of any kind. -/
def distinctItems : Rule :=
  .array ⟨.bool false, none, .null⟩ none ⟨.null, .null, .bool true, .text ","⟩

/-- A decimal NaN, signaling or not. -/
def decimalNaN (signaling : Bool) : Value := .number (.decimal (.nan signaling false none))

theorem isTyped_distinctItems : distinctItems.IsTyped := ⟨.inl rfl, .inl rfl, rfl⟩

end Sample

open Sample in
/-- A NaN that does not signal is an item like another. -/
theorem coerce_answers_sample :
    ∃ o, coerce distinctItems (.list [decimalNaN false, decimalNaN false]) ⟨[], false, []⟩ = .ok o := by
  rcases coerce_answers isTyped_distinctItems (.list [decimalNaN false, decimalNaN false])
    ⟨[], false, []⟩ with hanswer | ⟨fault, -, hhinders⟩
  · exact hanswer
  · cases hhinders with
    | @longLimit _ _ relation _ _ _ _ hlimit => cases relation <;> cases hlimit
    | @nanLimit _ _ relation _ _ _ _ hlimit => cases relation <;> cases hlimit
    | word hboolean => cases hboolean
    | item _ _ htyped hsignal =>
      cases htyped
      cases hsignal

open Sample in
/-- A signaling NaN is one that an array of distinct items is not answered for. -/
theorem not_coerce_answers_all :
    ¬ ∀ (rule : Rule) (value : Value) (context : Context), rule.IsTyped →
      ∃ o, coerce rule value context = .ok o := by
  intro hall
  obtain ⟨o, ho⟩ := hall distinctItems (.list [decimalNaN true, .int 1]) ⟨[], false, []⟩
    isTyped_distinctItems
  cases ho

end Coercion

end RecordCheck
