import Mathlib.Data.List.Basic
import RecordCheck.Number.Numeral
import RecordCheck.Proofs.Text

/-!
# Integers and their numerals

A sign, or none, and digits of any script are an integer numeral.  The text of an integer is one, and the integer
that it denotes is the one that was written.
-/

set_option autoImplicit false

namespace RecordCheck.Number

open Text

variable {s : List Char}

/-! ## Digits -/

/-- What the digits of a text stand for. -/
def digitValues (s : List Char) : List Nat := s.filterMap digitValue?

theorem takeDigits_of_isDigit (h : ∀ c ∈ s, isDigit c = true) : takeDigits s = (digitValues s, []) := by
  induction s with
  | nil => rfl
  | cons c rest ih =>
    obtain ⟨hc, hrest⟩ := List.forall_mem_cons.mp h
    obtain ⟨d, hd⟩ := Option.isSome_iff_exists.mp hc
    simp only [takeDigits, hd, ih hrest, digitValues, List.filterMap_cons_some hd]

theorem length_digitValues (h : ∀ c ∈ s, isDigit c = true) : (digitValues s).length = s.length := by
  induction s with
  | nil => rfl
  | cons c rest ih =>
    obtain ⟨hc, hrest⟩ := List.forall_mem_cons.mp h
    obtain ⟨d, hd⟩ := Option.isSome_iff_exists.mp hc
    rw [digitValues, List.filterMap_cons_some hd, List.length_cons, List.length_cons]
    exact congrArg (· + 1) (ih hrest)

/-- No digit of any script is a blank. -/
theorem isBlank_of_isDigit {c : Char} (h : isDigit c = true) : isBlank c = false := by
  have hscripts : ∀ first ∈ zeroDigits, ∀ i < 10, blankRanges.contains (first + i) = false := by decide +kernel
  rw [isDigit, digitValue?, Option.isSome_map, List.find?_isSome] at h
  obtain ⟨first, hfirst, hrange⟩ := h
  simp only [Bool.and_eq_true, decide_eq_true_eq] at hrange
  have hplace := hscripts first hfirst (c.toNat - first) (by omega)
  rwa [Nat.add_sub_cancel' hrange.1] at hplace

theorem digitValue?_of_isDigit {c : Char} (h : c.isDigit = true) : digitValue? c = some (c.toNat - '0'.toNat) := by
  simp only [Char.isDigit, Bool.and_eq_true, decide_eq_true_eq, ge_iff_le, UInt32.le_iff_toNat_le] at h
  have hfirst : (0x30 ≤ c.toNat && c.toNat < 0x30 + 10) = true := by
    simp only [Bool.and_eq_true, decide_eq_true_eq]
    exact ⟨h.1, Nat.lt_succ_of_le h.2⟩
  obtain ⟨others, hscripts⟩ : ∃ others, zeroDigits = 0x30 :: others := ⟨_, rfl⟩
  simp only [digitValue?, hscripts, List.find?_cons, hfirst, Option.map_some]
  rfl

theorem isDigit_of_mem_digits {n : Nat} {c : Char} (h : c ∈ digits n) : isDigit c = true := by
  rw [isDigit, digitValue?_of_isDigit (Text.isDigit_of_mem_digits h)]
  rfl

/-- The digits of a number denote the number. -/
theorem ofDigits_digitValues_digits (n : Nat) : ofDigits (digitValues (digits n)) = n := by
  have hvalues : digitValues (digits n) = (digits n).map fun c => c.toNat - '0'.toNat :=
    List.filterMap_eq_map_iff_forall_eq_some.mpr fun c hc => digitValue?_of_isDigit (Text.isDigit_of_mem_digits hc)
  rw [hvalues, ofDigits, List.foldl_map, digits_eq_toDigits]
  calc (Nat.toDigits 10 n).foldl (fun value c => 10 * value + (c.toNat - '0'.toNat)) 0
      = Nat.ofDigitChars 10 (Nat.toDigits 10 n) 0 := (Nat.ofDigitChars_eq_foldl ..).symm
    _ = n := Nat.ofDigitChars_ten_toDigits

/-! ## Signs -/

/-- A sign that may stand before digits, or none. -/
inductive IsSign : List Char → Prop
  | none : IsSign []
  | plus : IsSign ['+']
  | minus : IsSign ['-']

variable {sign : List Char}

theorem IsSign.isBlank_eq (h : IsSign sign) : ∀ c ∈ sign, isBlank c = false := by
  cases h with
  | none => nofun
  | _ => exact List.forall_mem_singleton.mpr (by decide)

theorem takeSign_of_isDigit {c : Char} (rest : List Char) (h : isDigit c = true) :
    takeSign (c :: rest) = (false, c :: rest) := by
  unfold takeSign
  split
  · rename_i heq
    cases heq
    cases h
  · rename_i heq
    cases heq
    cases h
  · rfl

/-- A sign and digits are an integer numeral. -/
theorem integerNumeral?_append (hsign : IsSign sign) (hne : s ≠ []) (hdigits : ∀ c ∈ s, isDigit c = true) :
    integerNumeral? (sign ++ s) = some (sign == ['-'], digitValues s) := by
  obtain ⟨c, rest, rfl⟩ := List.exists_cons_of_ne_nil hne
  obtain ⟨d, ds, hvalues⟩ : ∃ d ds, digitValues (c :: rest) = d :: ds := by
    refine List.exists_cons_of_ne_nil fun hnil => ?_
    have hlength := length_digitValues hdigits
    rw [hnil] at hlength
    cases hlength
  have htake : takeSign (sign ++ c :: rest) = (sign == ['-'], c :: rest) := by
    cases hsign with
    | none => exact takeSign_of_isDigit rest (hdigits c List.mem_cons_self)
    | plus => rfl
    | minus => rfl
  simp only [integerNumeral?, htake, takeDigits_of_isDigit hdigits, hvalues]

/-! ## The text of an integer -/

/-- The sign of an integer that is written: none if it is not negative. -/
def signText (n : Int) : List Char := if n < 0 then ['-'] else []

theorem integerText_eq (n : Int) : integerText n = signText n ++ digits n.natAbs := rfl

theorem isSign_signText (n : Int) : IsSign (signText n) := by
  unfold signText
  split
  · exact .minus
  · exact .none

theorem toList_toString (n : Int) : (toString n).toList = integerText n := by
  cases n with
  | ofNat m => exact (Text.toList_toString m).trans (integerText_natCast m).symm
  | negSucc m =>
    have hrest : (toString (m + 1)).toList = digits (m + 1) := Text.toList_toString (m + 1)
    have htext : toString (Int.negSucc m) = "-" ++ toString (m + 1) := rfl
    rw [htext, String.toList_append, hrest, integerText_eq, signText, if_pos (Int.negSucc_lt_zero m)]
    rfl

/-- An integer is the number of its digits with its sign. -/
theorem signed_signText (n : Int) : signed (signText n == ['-']) n.natAbs = n := by
  rw [signed, signText]
  by_cases hneg : n < 0
  · rw [if_pos hneg]
    exact (congrArg (- ·) (Int.ofNat_natAbs_of_nonpos (Int.le_of_lt hneg))).trans (Int.neg_neg n)
  · rw [if_neg hneg]
    exact Int.natAbs_of_nonneg (Int.not_lt.mp hneg)

/-- An integer can be written just when it has not too many digits. -/
theorem fitsText_iff {n : Int} : fitsText n = true ↔ (digits n.natAbs).length ≤ digitLimit := by
  have hsize (limit : Nat) (hlimit : 0 < limit) :
      decide (n.natAbs < Nat.pow 10 limit) = true ↔ (digits n.natAbs).length ≤ limit := by
    rw [decide_eq_true_iff, length_digits_le_iff hlimit]
    exact Iff.rfl
  exact hsize digitLimit (by decide)

end RecordCheck.Number
