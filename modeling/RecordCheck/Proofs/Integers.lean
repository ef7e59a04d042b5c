import Mathlib.Algebra.Ring.Int.Defs
import RecordCheck.Proofs.Coercion
import RecordCheck.Proofs.Number.Numeral

/-!
# Integers as texts

Where values are converted, a text rule makes a text of an integer, and a number rule makes of that text the integer
that it was made of.  Blanks around the text and a plus sign before it change nothing.  An integer with too many
digits is no text, and a numeral with too many digits is no number.
-/

set_option autoImplicit false

namespace RecordCheck.Coercion

open Number Text

/-! ## Numerals under a number rule -/

section

variable {before sign s after : List Char}

/-- A numeral with blanks around it is read as the integer that it denotes, unless it has too many digits. -/
theorem parseNumber_numeral (hbefore : ∀ c ∈ before, isBlank c = true) (hsign : IsSign sign) (hne : s ≠ [])
    (hdigits : ∀ c ∈ s, isDigit c = true) (hafter : ∀ c ∈ after, isBlank c = true) :
    parseNumber (before ++ (sign ++ s) ++ after) =
      if s.length ≤ digitLimit then some (.int (signed (sign == ['-']) (ofDigits (digitValues s)))) else none := by
  have hblank : ∀ c ∈ sign ++ s, isBlank c = false := by
    intro c hc
    rcases List.mem_append.mp hc with hc | hc
    · exact hsign.isBlank_eq c hc
    · exact Number.isBlank_of_isDigit (hdigits c hc)
  have htrim : trim (before ++ (sign ++ s) ++ after) = sign ++ s := by
    rw [trim_append hbefore hafter]
    exact trim_eq_self (fun c hc => hblank c (List.mem_of_mem_head? hc))
      fun c hc => hblank c (List.mem_of_mem_getLast? hc)
  simp only [parseNumber, htrim, integerNumeral?_append hsign hne hdigits, length_digitValues hdigits]

end

/-- A numeral is under a number rule what the integer is that it denotes. -/
theorem coerceNumber_of_parseNumber {text : String} {n : Int} (h : parseNumber text.toList = some (.int n))
    (checks : NumberChecks) :
    coerceNumber checks true (.text text) = coerceNumber checks true (.int n) := by
  have hnumber : numberOf? true (.text text) = some (.int n) := h
  rw [coerceNumber, coerceNumber, ensureNumber, ensureNumber, hnumber]
  rfl

theorem coerceNumber_int {checks : NumberChecks} {n : Int} (h : checks.Hold (.int n)) (convert : Bool) :
    coerceNumber checks convert (.int n) = .ok (.accept (.int n)) := by
  refine Attempt.bind_eq_ok_iff.mpr ⟨.accept (.int n), ?_, ?_⟩
  · exact ensureNumber_eq_accepted_iff.mpr ⟨.int n, rfl, rfl, rfl, rfl⟩
  · exact constrain_eq_accepted_iff.mpr ⟨rfl, (checkNumber_eq_nil_iff rfl).mpr h⟩

/-- The error of a value that is no number. -/
def notNumber : Entry := ⟨.text "number", .text "must be a number", []⟩

/-- A text that is not read as a number is rejected by every number rule. -/
theorem coerceNumber_of_parseNumber_eq_none {text : String} (h : parseNumber text.toList = none)
    (checks : NumberChecks) :
    coerceNumber checks true (.text text) = .ok (.reject (.text text) [notNumber]) := by
  have hnumber : numberOf? true (.text text) = none := h
  rw [coerceNumber, ensureNumber, hnumber]
  rfl

/-! ## Integers under a text rule -/

theorem isWord_integerText (n : Int) : IsWord (integerText n) := by
  rw [integerText_eq]
  constructor
  · simp [digits_ne_nil]
  · intro c hc
    rcases List.mem_append.mp hc with hc | hc
    · exact (isSign_signText n).isBlank_eq c hc
    · exact Text.isBlank_of_isDigit (Text.isDigit_of_mem_digits hc)

/-- An integer that has not too many digits becomes its text. -/
theorem coerceText_int {checks : TextChecks} {n : Int} (hshort : (digits n.natAbs).length ≤ digitLimit)
    (hhold : checks.Hold (toString n)) (common : Common) :
    coerceText common checks true (.int n) = .ok (.accept (.text (toString n))) := by
  have htext : Value.ofChars (integerText n) = .text (toString n) := by
    rw [← Number.toList_toString, Value.ofChars, String.ofList_toList]
  have hwritten : textOf? true (.int n) = some (.text (toString n)) := by
    simp [textOf?, Value.int, Value.isText, Value.text?, Value.number?, Number.text?, fitsText_iff.mpr hshort, htext]
  have hcollapsed : collapsed (.text (toString n)) = .text (toString n) := by
    simp only [collapsed, Value.text?, Option.getD_some]
    rw [Number.toList_toString, collapse_word (isWord_integerText n), htext]
  have hfilled : (Value.text (toString n)).isBlank = false := by
    have hne : toString n ≠ "" := fun hempty => (isWord_integerText n).1 (by rw [← Number.toList_toString, hempty]; rfl)
    simpa [Value.isBlank, Value.isNull, Value.text?] using hne
  refine Attempt.bind_eq_ok_iff.mpr ⟨.accept (.text (toString n)), ?_, ?_⟩
  · exact ensureText_eq_accepted_iff.mpr ⟨_, hwritten, hcollapsed.symm, fun _ _ => hfilled, rfl⟩
  · exact constrain_eq_accepted_iff.mpr ⟨rfl, checkText_eq_nil_iff.mpr hhold⟩

/-- The error of a value that is no text. -/
def notText : Entry := ⟨.text "string", .text "must be a string", []⟩

/-- An integer with too many digits is rejected by every text rule. -/
theorem coerceText_int_of_long {n : Int} (hlong : digitLimit < (digits n.natAbs).length) (common : Common)
    (checks : TextChecks) :
    coerceText common checks true (.int n) = .ok (.reject (.int n) [notText]) := by
  have hunwritten : textOf? true (.int n) = none := by
    have hfits : fitsText n = false := Bool.eq_false_iff.mpr fun h => Nat.not_lt.mpr (fitsText_iff.mp h) hlong
    simp [textOf?, Value.int, Value.isText, Value.text?, Value.number?, Number.text?, hfits]
  rw [coerceText, ensureText, hunwritten]
  rfl

/-! ## From integers to texts and back -/

theorem length_toString_natAbs (n : Int) : (toString n.natAbs).length = (digits n.natAbs).length := by
  rw [← String.length_toList, Text.toList_toString]

section

variable {n : Int} {before after : String}

/-- The text of an integer is read as the integer, with blanks around it or without. -/
theorem parseNumber_toString (hshort : (digits n.natAbs).length ≤ digitLimit)
    (hbefore : ∀ c ∈ before.toList, isBlank c = true) (hafter : ∀ c ∈ after.toList, isBlank c = true) :
    parseNumber (before ++ toString n ++ after).toList = some (.int n) := by
  rw [String.toList_append, String.toList_append, Number.toList_toString, integerText_eq,
    parseNumber_numeral hbefore (isSign_signText n) (digits_ne_nil _) (fun _ => isDigit_of_mem_digits) hafter,
    if_pos hshort, ofDigits_digitValues_digits, signed_signText]

/-- The text of an integer that is not negative is read as the integer with a plus sign before it, too. -/
theorem parseNumber_plus_toString (hshort : (digits n.natAbs).length ≤ digitLimit) (hn : 0 ≤ n)
    (hbefore : ∀ c ∈ before.toList, isBlank c = true) (hafter : ∀ c ∈ after.toList, isBlank c = true) :
    parseNumber (before ++ "+" ++ toString n ++ after).toList = some (.int n) := by
  have hunsigned : integerText n = digits n.natAbs := by
    rw [integerText_eq, signText, if_neg (by omega), List.nil_append]
  have hplus : "+".toList = ['+'] := rfl
  have hvalue : signed (['+'] == ['-']) n.natAbs = n := Int.natAbs_of_nonneg hn
  rw [String.toList_append, String.toList_append, String.toList_append, Number.toList_toString, hunsigned, hplus,
    List.append_assoc before.toList, parseNumber_numeral hbefore .plus (digits_ne_nil _) (fun _ => isDigit_of_mem_digits) hafter,
    if_pos hshort, ofDigits_digitValues_digits, hvalue]

/-- A numeral with too many digits is not read as a number. -/
theorem parseNumber_of_long {sign numeral : String} (hsign : IsSign sign.toList)
    (hdigits : ∀ c ∈ numeral.toList, isDigit c = true) (hlong : digitLimit < numeral.length)
    (hbefore : ∀ c ∈ before.toList, isBlank c = true) (hafter : ∀ c ∈ after.toList, isBlank c = true) :
    parseNumber (before ++ (sign ++ numeral) ++ after).toList = none := by
  rw [← String.length_toList] at hlong
  have hne : numeral.toList ≠ [] := List.ne_nil_of_length_pos (Nat.zero_lt_of_lt hlong)
  rw [String.toList_append, String.toList_append, String.toList_append,
    parseNumber_numeral hbefore hsign hne hdigits hafter, if_neg (Nat.not_le.mpr hlong)]

end

/-- Where values are converted, an integer of at most 4300 digits becomes its text under a text rule that has no
constraint against it, and under a number rule that has none against it the text becomes the integer again, with any
blanks around it, and with a plus sign before it if there is no other.  An integer of more digits is rejected by every
text rule, and a numeral of more digits by every number rule. -/
theorem integer_survives_text {context : Context} (hconvert : context.convert = true) (common common' : Common)
    (textChecks : TextChecks) (numberChecks : NumberChecks) :
    (∀ n : Int, (toString n.natAbs).length ≤ 4300 → textChecks.Hold (toString n) → numberChecks.Hold (.int n) →
      coerce (.text common textChecks) (.int n) context = .ok (.accept (.text (toString n))) ∧
      ∀ before after : String, (∀ c ∈ before.toList, isBlank c = true) → (∀ c ∈ after.toList, isBlank c = true) →
        coerce (.number common' numberChecks) (.text (before ++ toString n ++ after)) context =
          .ok (.accept (.int n)) ∧
        (0 ≤ n → coerce (.number common' numberChecks) (.text (before ++ "+" ++ toString n ++ after)) context =
          .ok (.accept (.int n)))) ∧
    (∀ n : Int, 4300 < (toString n.natAbs).length →
      coerce (.text common textChecks) (.int n) context = .ok (.reject (.int n) [notText])) ∧
    ∀ before sign numeral after : String, IsSign sign.toList → (∀ c ∈ numeral.toList, isDigit c = true) →
      4300 < numeral.length →
      (∀ c ∈ before.toList, isBlank c = true) → (∀ c ∈ after.toList, isBlank c = true) →
      coerce (.number common' numberChecks) (.text (before ++ (sign ++ numeral) ++ after)) context =
        .ok (.reject (.text (before ++ (sign ++ numeral) ++ after)) [notNumber]) := by
  simp only [coerce, hconvert, length_toString_natAbs]
  refine ⟨fun n hshort htext hnumber => ⟨coerceText_int hshort htext common, fun before after hbefore hafter => ?_⟩,
    fun n hlong => coerceText_int_of_long hlong common textChecks,
    fun before sign numeral after hsign hdigits hlong hbefore hafter => ?_⟩
  · have haccepted := coerceNumber_int hnumber true
    constructor
    · rw [coerceNumber_of_parseNumber (parseNumber_toString hshort hbefore hafter), haccepted]
    · intro hn
      rw [coerceNumber_of_parseNumber (parseNumber_plus_toString hshort hn hbefore hafter), haccepted]
  · exact coerceNumber_of_parseNumber_eq_none
      (parseNumber_of_long hsign hdigits hlong hbefore hafter) numberChecks

namespace IntegerSample

/-- What every rule has that is given nothing. -/
def plain : Common := ⟨.bool false, none, .null⟩

/-- The constraints of a text rule that is given none. -/
def anyText : TextChecks := ⟨.null, .null, .null, .bool false⟩

/-- The constraints of a number rule that is given none. -/
def anyNumber : NumberChecks := ⟨.null, .null, .bool false⟩

theorem hold_anyText (text : String) : anyText.Hold text := ⟨.inl rfl, .inl rfl, .inl rfl, nofun⟩

theorem hold_anyNumber (n : Number) : anyNumber.Hold n := ⟨.inl rfl, .inl rfl, nofun⟩

/-- Where values are converted. -/
def converting : Context := ⟨[], true, []⟩

/-- A numeral of so many digits. -/
def sevens (count : Nat) : String := String.ofList (List.replicate count '7')

theorem isDigit_of_mem_sevens (count : Nat) : ∀ c ∈ (sevens count).toList, isDigit c = true := by
  rw [sevens, String.toList_ofList]
  intro c hc
  rw [List.eq_of_mem_replicate hc]
  rfl

theorem length_sevens (count : Nat) : (sevens count).length = count := by
  rw [sevens, String.length_ofList, List.length_replicate]

/-- A power of ten has more digits than its exponent. -/
theorem lt_length_toString_pow {k : Nat} (hk : 0 < k) : k < (toString ((10 : Int) ^ k).natAbs).length := by
  have hpow : ((10 : Int) ^ k).natAbs = 10 ^ k := Int.natAbs_pow 10 k
  rw [length_toString_natAbs, hpow, ← Nat.not_le, length_digits_le_iff hk]
  exact Nat.lt_irrefl _

end IntegerSample

open IntegerSample in
/-- Integers with a sign, with blanks and with too many digits under rules without constraints. -/
theorem integer_survives_text_sample :
    coerce (.text plain anyText) (.int (-42)) converting = .ok (.accept (.text "-42")) ∧
    coerce (.number plain anyNumber) (.text "\t-42\n") converting = .ok (.accept (.int (-42))) ∧
    coerce (.number plain anyNumber) (.text " +42") converting = .ok (.accept (.int 42)) ∧
    coerce (.text plain anyText) (.int (10 ^ 4300)) converting = .ok (.reject (.int (10 ^ 4300)) [notText]) ∧
    coerce (.number plain anyNumber) (.text ("-" ++ sevens 4301)) converting =
      .ok (.reject (.text ("-" ++ sevens 4301)) [notNumber]) := by
  obtain ⟨hshort, hlong, hnumeral⟩ :=
    @integer_survives_text converting rfl plain plain anyText anyNumber
  obtain ⟨htext, hback⟩ := hshort (-42) (by decide) (hold_anyText _) (hold_anyNumber _)
  obtain ⟨-, hplus⟩ := hshort 42 (by decide) (hold_anyText _) (hold_anyNumber _)
  have hblank {blanks : String} (h : blanks.toList.all isBlank = true) : ∀ c ∈ blanks.toList, isBlank c = true :=
    List.all_eq_true.mp h
  refine ⟨htext, (hback "\t" "\n" (hblank (by decide)) (hblank (by decide))).1,
    (hplus " " "" (hblank (by decide)) (hblank (by decide))).2 (by decide),
    hlong _ (lt_length_toString_pow (by decide)), ?_⟩
  have hrejected := hnumeral "" "-" (sevens 4301) "" .minus (isDigit_of_mem_sevens _)
    (Nat.lt_of_lt_of_eq (by decide) (length_sevens _).symm) (hblank (by decide)) (hblank (by decide))
  rwa [String.empty_append, String.append_empty] at hrejected

end RecordCheck.Coercion
