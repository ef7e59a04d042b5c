import RecordCheck.Text.Ranges

/-!
# Blank characters

A character is blank when it is a Unicode space or one of the separator controls (U+0009 to U+000D,
U+001C to U+001F, U+0085).  Zero width characters and the byte order mark are not blank.  On this one
class rest trimming, splitting into words and the collapsing of runs of blanks into one space.
-/

set_option autoImplicit false

namespace RecordCheck.Text

/-- The blank code points. -/
def blankRanges : Ranges :=
  [(0x09, 0x0D), (0x1C, 0x20), (0x85, 0x85), (0xA0, 0xA0), (0x1680, 0x1680), (0x2000, 0x200A),
   (0x2028, 0x2029), (0x202F, 0x202F), (0x205F, 0x205F), (0x3000, 0x3000)]

/-- Whether a character is blank. -/
def isBlank (c : Char) : Bool := blankRanges.contains c.toNat

/-- A text without its leading blanks. -/
def trimLeft (s : List Char) : List Char := s.dropWhile isBlank

/-- A text without its leading and trailing blanks. -/
def trim (s : List Char) : List Char := ((trimLeft s).reverse.dropWhile isBlank).reverse

/-- The maximal runs of non-blank characters, from left to right.  The first argument collects the
run that is being read, last character first. -/
def wordsFrom : List Char → List Char → List (List Char)
  | [], [] => []
  | run@(_ :: _), [] => [run.reverse]
  | [], c :: rest => if isBlank c then wordsFrom [] rest else wordsFrom [c] rest
  | run@(_ :: _), c :: rest =>
    if isBlank c then run.reverse :: wordsFrom [] rest else wordsFrom (c :: run) rest

/-- The words of a text: its maximal runs of non-blank characters. -/
def words (s : List Char) : List (List Char) := wordsFrom [] s

/-- The words of a text joined by single spaces: blanks at the ends are dropped and every inner run
of blanks becomes one space. -/
def collapse (s : List Char) : List Char := [' '].intercalate (words s)

/-- Whether `pre` is the beginning of a text, and what follows it. -/
def dropPrefix? : List Char → List Char → Option (List Char)
  | [], rest => some rest
  | _ :: _, [] => none
  | p :: pre, c :: rest => if p = c then dropPrefix? pre rest else none

theorem dropPrefix?_length {pre s rest : List Char} (h : dropPrefix? pre s = some rest) :
    rest.length + pre.length = s.length := by
  induction pre generalizing s with
  | nil => simp_all [dropPrefix?]
  | cons p pre ih =>
    cases s with
    | nil => simp [dropPrefix?] at h
    | cons c s =>
      by_cases hc : p = c
      · have := ih (s := s) (by simpa [dropPrefix?, hc] using h)
        simp only [List.length_cons]; omega
      · simp [dropPrefix?, hc] at h

/-- The segments of a text between the leftmost non-overlapping occurrences of a separator that is
not empty.  The first argument collects the segment that is being read, last character first. -/
def splitFrom (sep : List Char) (hsep : sep ≠ []) : List Char → List Char → List (List Char)
  | segment, [] => [segment.reverse]
  | segment, c :: rest =>
    match _h : dropPrefix? sep (c :: rest) with
    | some after => segment.reverse :: splitFrom sep hsep [] after
    | none => splitFrom sep hsep (c :: segment) rest
termination_by _ s => s.length
decreasing_by
  · have := dropPrefix?_length _h
    have : 0 < sep.length := List.length_pos_iff.mpr hsep
    simp_all only [List.length_cons]; omega
  · simp

/-- The segments of a text between the leftmost non-overlapping occurrences of a separator; an empty
separator splits nothing. -/
def splitOn (sep s : List Char) : List (List Char) :=
  if h : sep = [] then [s] else splitFrom sep h [] s

end RecordCheck.Text
