import Mathlib.Algebra.Group.Nat.Defs
import Mathlib.Data.List.TakeWhile
import RecordCheck.Number.Numeral
import RecordCheck.Text.Blank

/-!
# Words and digits

Collapsing the blanks of a text leaves its words as they are, so that doing it again changes nothing.  Blanks
around a text are nothing to what it is trimmed to.  Parts can be joined one after the other, and a text that is
split can be joined again.  The digits of a number tell it from every other, and padding them with zeros adds
digits on the left only.
-/

set_option autoImplicit false

namespace RecordCheck.Text

/-- Whether something is a word: it has characters, and none of them is blank. -/
def IsWord (w : List Char) : Prop := w ≠ [] ∧ ∀ c ∈ w, isBlank c = false

theorem isWord_of_mem_wordsFrom {run s w : List Char} (hrun : ∀ c ∈ run, isBlank c = false)
    (h : w ∈ wordsFrom run s) : IsWord w := by
  induction s generalizing run with
  | nil =>
    cases run with
    | nil => cases h
    | cons c run =>
      obtain rfl := List.mem_singleton.mp h
      exact ⟨by simp, fun d hd => hrun d (List.mem_reverse.mp hd)⟩
  | cons c rest ih =>
    have hword (hc : isBlank c = false) : ∀ d ∈ c :: run, isBlank d = false :=
      List.forall_mem_cons.mpr ⟨hc, hrun⟩
    cases run with
    | nil =>
      rw [wordsFrom] at h
      split at h
      · exact ih hrun h
      · rename_i hc
        exact ih (hword (Bool.eq_false_iff.mpr hc)) h
    | cons d run =>
      rw [wordsFrom] at h
      split at h
      · rcases List.mem_cons.mp h with rfl | hrest
        · exact ⟨by simp, fun e he => hrun e (List.mem_reverse.mp he)⟩
        · exact ih (by simp) hrest
      · rename_i hc
        exact ih (hword (Bool.eq_false_iff.mpr hc)) h

/-- The words of a text are words. -/
theorem isWord_of_mem_words {s w : List Char} (h : w ∈ words s) : IsWord w :=
  isWord_of_mem_wordsFrom (by simp) h

/-- A run of characters that are not blank is read into the word that it continues. -/
theorem wordsFrom_append {w : List Char} (hw : ∀ c ∈ w, isBlank c = false) (run s : List Char) :
    wordsFrom run (w ++ s) = wordsFrom (w.reverse ++ run) s := by
  induction w generalizing run with
  | nil => rfl
  | cons c rest ih =>
    obtain ⟨hc, hrest⟩ := List.forall_mem_cons.mp hw
    have hfirst : wordsFrom run (c :: (rest ++ s)) = wordsFrom (c :: run) (rest ++ s) := by
      cases run <;> rw [wordsFrom, hc] <;> rfl
    rw [List.cons_append, hfirst, ih hrest, List.reverse_cons, List.append_assoc]
    rfl

/-- Words joined by single spaces are the words of what they make. -/
theorem words_intercalate {ws : List (List Char)} (h : ∀ w ∈ ws, IsWord w) :
    words ([' '].intercalate ws) = ws := by
  induction ws with
  | nil => rfl
  | cons w rest ih =>
    obtain ⟨⟨hne, hw⟩, hrest⟩ := List.forall_mem_cons.mp h
    obtain ⟨c, run, hrun⟩ : ∃ c run, w.reverse = c :: run :=
      List.exists_cons_of_ne_nil (by simpa using hne)
    have hend : (c :: run).reverse = w := by rw [← hrun, List.reverse_reverse]
    unfold words
    cases rest with
    | nil =>
      rw [List.intercalate_singleton, ← List.append_nil w, wordsFrom_append hw, List.append_nil, hrun,
        wordsFrom, hend, List.append_nil]
    | cons w' rest =>
      rw [List.intercalate_cons_cons, List.append_assoc, wordsFrom_append hw, List.append_nil, hrun,
        List.singleton_append, wordsFrom, if_pos (by decide), hend]
      exact congrArg (w :: ·) (ih hrest)

/-- Collapsing blanks a second time changes nothing. -/
theorem collapse_collapse (s : List Char) : collapse (collapse s) = collapse s := by
  rw [collapse, collapse, words_intercalate fun w hw => isWord_of_mem_words hw]

/-- A word is left as it is. -/
theorem collapse_word {w : List Char} (h : IsWord w) : collapse w = w := by
  have hwords : words w = [w] := by
    have hone : words ([' '].intercalate [w]) = [w] := words_intercalate (List.forall_mem_singleton.mpr h)
    rwa [List.intercalate_singleton] at hone
  rw [collapse, hwords, List.intercalate_singleton]

/-! ## Trimming -/

theorem dropWhile_isBlank_of_head {s : List Char} (h : ∀ c ∈ s.head?, isBlank c = false) :
    s.dropWhile isBlank = s := by
  cases s with
  | nil => rfl
  | cons c rest => rw [List.dropWhile_cons_of_neg (by simp [h c rfl])]

/-- A text that neither begins nor ends with a blank is left as it is. -/
theorem trim_eq_self {s : List Char} (hfirst : ∀ c ∈ s.head?, isBlank c = false)
    (hlast : ∀ c ∈ s.getLast?, isBlank c = false) : trim s = s := by
  rw [trim, trimLeft, dropWhile_isBlank_of_head hfirst, dropWhile_isBlank_of_head, List.reverse_reverse]
  rwa [List.head?_reverse]

/-- Blanks around a text are nothing to what it is trimmed to. -/
theorem trim_append {before s after : List Char} (hbefore : ∀ c ∈ before, isBlank c = true)
    (hafter : ∀ c ∈ after, isBlank c = true) : trim (before ++ s ++ after) = trim s := by
  rw [trim, trim, trimLeft, trimLeft, List.append_assoc, List.dropWhile_append_of_pos hbefore,
    List.dropWhile_append]
  split
  · rename_i hblank
    rw [List.isEmpty_iff] at hblank
    rw [List.dropWhile_eq_nil_iff.mpr hafter, hblank]
  · rw [List.reverse_append, List.dropWhile_append_of_pos fun c hc => hafter c (List.mem_reverse.mp hc)]

/-- What stands before a word keeps its blanks at the end. -/
theorem trim_append_word (s : List Char) {w : List Char} (hw : IsWord w) :
    trim (s ++ w) = trimLeft s ++ w := by
  obtain ⟨hne, hblank⟩ := hw
  have hfirst : trimLeft (s ++ w) = trimLeft s ++ w := by
    rw [trimLeft, trimLeft, List.dropWhile_append]
    split
    · rename_i hempty
      rw [List.isEmpty_iff.mp hempty, List.nil_append]
      exact dropWhile_isBlank_of_head fun c hc => hblank c (List.mem_of_mem_head? hc)
    · rfl
  rw [trim, hfirst, List.reverse_append, dropWhile_isBlank_of_head, List.reverse_append,
    List.reverse_reverse, List.reverse_reverse]
  intro c hc
  obtain ⟨last, others, hlast⟩ := List.exists_cons_of_ne_nil (mt List.reverse_eq_nil_iff.mp hne)
  rw [hlast] at hc
  cases hc
  exact hblank c (List.mem_reverse.mp (hlast ▸ List.mem_cons_self))

theorem isBlank_of_mem_head?_dropWhile {s : List Char} :
    ∀ c ∈ (s.dropWhile isBlank).head?, isBlank c = false := by
  intro c hc
  have hnot := List.head?_dropWhile_not isBlank s
  rw [Option.mem_def.mp hc] at hnot
  exact hnot

/-- A text that was trimmed does not begin with a blank. -/
theorem isBlank_of_mem_head?_trim {s : List Char} : ∀ c ∈ (trim s).head?, isBlank c = false := by
  intro c hc
  rw [trim, List.head?_reverse] at hc
  obtain ⟨blanks, hblanks⟩ := List.dropWhile_suffix (l := (trimLeft s).reverse) isBlank
  refine isBlank_of_mem_head?_dropWhile (s := s) c ?_
  have hlast : (blanks ++ (trimLeft s).reverse.dropWhile isBlank).getLast? =
      ((trimLeft s).reverse.dropWhile isBlank).getLast?.or blanks.getLast? := List.getLast?_append
  rw [hblanks, Option.mem_def.mp hc, List.getLast?_reverse] at hlast
  exact hlast

/-- A text that was trimmed does not end with a blank. -/
theorem isBlank_of_mem_getLast?_trim {s : List Char} : ∀ c ∈ (trim s).getLast?, isBlank c = false := by
  intro c hc
  rw [trim, List.getLast?_reverse] at hc
  exact isBlank_of_mem_head?_dropWhile c hc

/-! ## Joined parts -/

/-- A text that joins two parts may be one of the parts that are joined, or both of them may be. -/
theorem intercalate_append (point : Char) (first second : List Char) (rest : List (List Char)) :
    [point].intercalate ((first ++ point :: second) :: rest) = [point].intercalate (first :: second :: rest) := by
  cases rest <;> simp [List.intercalate_cons_cons]

theorem eq_append_of_dropPrefix? {pre s rest : List Char} (h : dropPrefix? pre s = some rest) :
    s = pre ++ rest := by
  induction pre generalizing s with
  | nil => exact Option.some.inj h
  | cons p pre ih =>
    cases s with
    | nil => cases h
    | cons c s =>
      rw [dropPrefix?] at h
      split at h
      · rename_i hsame
        rw [hsame, ih h, List.cons_append]
      · cases h

theorem splitFrom_ne_nil (sep : List Char) (hsep : sep ≠ []) (segment s : List Char) :
    splitFrom sep hsep segment s ≠ [] := by
  fun_induction splitFrom sep hsep segment s <;> simp_all

/-- Splitting a text loses nothing of it. -/
theorem intercalate_splitFrom (sep : List Char) (hsep : sep ≠ []) (segment s : List Char) :
    sep.intercalate (splitFrom sep hsep segment s) = segment.reverse ++ s := by
  fun_induction splitFrom sep hsep segment s with
  | case1 segment => rw [List.intercalate_singleton, List.append_nil]
  | case2 segment c rest after hafter ih =>
    obtain ⟨next, others, hnext⟩ := List.exists_cons_of_ne_nil (splitFrom_ne_nil sep hsep [] after)
    rw [hnext, List.intercalate_cons_cons, ← hnext, ih, eq_append_of_dropPrefix? hafter]
    simp
  | case3 segment c rest hnone ih => rw [ih, List.reverse_cons, List.append_assoc, List.singleton_append]

theorem intercalate_splitOn (sep s : List Char) : sep.intercalate (splitOn sep s) = s := by
  unfold splitOn
  split
  · exact List.intercalate_singleton
  · exact intercalate_splitFrom ..

/-- A text is split at a character as lists are. -/
theorem splitOn_singleton (d : Char) (s : List Char) : splitOn [d] s = s.splitOn d := by
  have hfrom (segment : List Char) : splitFrom [d] (List.cons_ne_nil d []) segment s =
      (s.splitOn d).modifyHead (segment.reverse ++ ·) := by
    fun_induction splitFrom [d] (List.cons_ne_nil d []) segment s with
    | case1 segment => simp
    | case2 segment c rest after hafter ih =>
      cases eq_append_of_dropPrefix? hafter
      obtain ⟨first, others, hfirst⟩ := List.exists_cons_of_ne_nil (List.splitOn_ne_nil d after)
      rw [ih, List.splitOn_cons_eq_if_modifyHead]
      simp [hfirst]
    | case3 segment c rest hnone ih =>
      have hother : c ≠ d := by
        rintro rfl
        simp [dropPrefix?] at hnone
      rw [ih, List.splitOn_cons_eq_if_modifyHead]
      simp [hother, Function.comp_def]
  rw [splitOn, dif_neg (List.cons_ne_nil d []), hfrom]
  obtain ⟨first, others, hfirst⟩ := List.exists_cons_of_ne_nil (List.splitOn_ne_nil d s)
  rw [hfirst]
  rfl

/-! ## Digits -/

theorem digitChar_eq : ∀ n < 10, digitChar n = Nat.digitChar n := by decide

theorem digitsBefore_eq_append (n : Nat) (rest : List Char) :
    digitsBefore n rest = Nat.toDigits 10 n ++ rest := by
  fun_induction digitsBefore n rest with
  | case1 n rest hsmall => rw [Nat.toDigits_of_lt_base hsmall, digitChar_eq n hsmall, List.singleton_append]
  | case2 n rest hlarge ih =>
    rw [ih, digitChar_eq _ (Nat.mod_lt n (by decide)), ← List.singleton_append, ← List.append_assoc,
      ← Nat.toDigits_of_base_le (by decide) (Nat.not_lt.mp hlarge)]

/-- The digits of a number are those of its decimal form. -/
theorem digits_eq_toDigits (n : Nat) : digits n = Nat.toDigits 10 n := by
  rw [digits, digitsBefore_eq_append, List.append_nil]

theorem toList_toString (n : Nat) : (toString n).toList = digits n := by
  rw [digits_eq_toDigits]
  exact Nat.toList_repr

theorem integerText_natCast (n : Nat) : Number.integerText n = digits n := by
  rw [Number.integerText, if_neg (by omega)]
  rfl

/-- Different numbers have different digits. -/
theorem digits_injective {m n : Nat} (h : digits m = digits n) : m = n := by
  rw [digits_eq_toDigits, digits_eq_toDigits] at h
  rw [← Nat.ofDigitChars_ten_toDigits (n := m), h, Nat.ofDigitChars_ten_toDigits]

theorem digits_ne_nil (n : Nat) : digits n ≠ [] := by
  rw [digits_eq_toDigits]
  exact Nat.toDigits_ne_nil

theorem isDigit_of_mem_digits {n : Nat} {c : Char} (h : c ∈ digits n) : c.isDigit = true := by
  rw [digits_eq_toDigits] at h
  exact Nat.isDigit_of_mem_toDigits (by decide) (by decide) h

/-! ## Padded digits -/

theorem digits_of_lt {n : Nat} (h : n < 10) : digits n = [digitChar n] := by
  rw [digits_eq_toDigits, Nat.toDigits_of_lt_base h, digitChar_eq n h]

theorem digits_of_ge {n : Nat} (h : 10 ≤ n) : digits n = digits (n / 10) ++ [digitChar (n % 10)] := by
  rw [digits_eq_toDigits, digits_eq_toDigits, Nat.toDigits_of_base_le (by decide) h,
    digitChar_eq _ (Nat.mod_lt n (by decide))]

/-- How many digits a number has tells its size. -/
theorem length_digits_le_iff {n width : Nat} (hwidth : 0 < width) :
    (digits n).length ≤ width ↔ n < 10 ^ width := by
  rw [digits_eq_toDigits]
  exact Nat.length_toDigits_le_iff (by decide) hwidth

theorem length_paddedDigits {width n : Nat} (hwidth : 0 < width) (h : n < 10 ^ width) :
    (paddedDigits width n).length = width := by
  have hlength := (length_digits_le_iff hwidth).mpr h
  rw [paddedDigits, List.length_append, List.length_replicate]
  omega

theorem paddedDigits_one {n : Nat} (h : n < 10) : paddedDigits 1 n = [digitChar n] := by
  rw [paddedDigits, digits_of_lt h]
  rfl

/-- The last of the padded digits of a number, and those before it. -/
theorem paddedDigits_succ {width : Nat} (hwidth : 0 < width) (n : Nat) :
    paddedDigits (width + 1) n = paddedDigits width (n / 10) ++ [digitChar (n % 10)] := by
  by_cases hsmall : n < 10
  · obtain ⟨fewer, rfl⟩ : ∃ fewer, width = fewer + 1 := ⟨width - 1, by omega⟩
    have hzero : n / 10 = 0 := by omega
    have hlast : n % 10 = n := by omega
    rw [paddedDigits, paddedDigits, digits_of_lt hsmall, hzero, hlast, digits_of_lt (by decide)]
    simp [List.replicate_succ', digitChar]
  · rw [paddedDigits, paddedDigits, digits_of_ge (Nat.not_lt.mp hsmall), List.length_append,
      List.length_singleton, Nat.add_sub_add_right, List.append_assoc]

theorem paddedDigits_ne_nil (width n : Nat) : paddedDigits width n ≠ [] := by
  simp [paddedDigits, digits_ne_nil]

/-- A digit is no blank. -/
theorem isBlank_of_isDigit {c : Char} (h : c.isDigit = true) : isBlank c = false := by
  have hall : ∀ n < 58, 48 ≤ n → blankRanges.contains n = false := by decide
  simp only [Char.isDigit, Bool.and_eq_true, decide_eq_true_eq, ge_iff_le, UInt32.le_iff_toNat_le] at h
  exact hall c.toNat (Nat.lt_succ_of_le h.2) h.1

theorem isDigit_of_mem_paddedDigits {width n : Nat} {c : Char} (h : c ∈ paddedDigits width n) :
    c.isDigit = true := by
  rcases List.mem_append.mp h with hzero | hdigit
  · rw [List.eq_of_mem_replicate hzero]
    decide
  · exact isDigit_of_mem_digits hdigit

end RecordCheck.Text
