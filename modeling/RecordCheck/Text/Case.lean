import RecordCheck.Text.Case.Tables

/-!
# Upper and lower case

The full Unicode mappings of a text.  Three things go beyond one character for one character: some
upper cases are longer (`ß` becomes `SS`), the lower case of `İ` is `i` with a dot above, and a capital
sigma becomes the final form `ς` at the end of a word.
-/

set_option autoImplicit false

namespace RecordCheck.Text

/-- The code point to which the first covering run maps a code point, itself if none does. -/
def mapCode (runs : List CaseRun) (code : Nat) : Nat :=
  match runs.find? (·.covers code) with
  | some run => ((code : Int) + run.shift).toNat
  | none => code

/-- The lower case of a character by the single-character mapping; `İ` gives `i`. -/
def lowerChar (c : Char) : Char :=
  if c.toNat = 0x130 then 'i' else Char.ofNat (mapCode lowerRuns c.toNat)

/-- The characters, other than itself, whose single-character lower case is the given one. -/
def capitalsOf (c : Char) : List Char :=
  (lowerRuns.filterMap fun run =>
    let code : Int := (c.toNat : Int) - run.shift
    if 0 ≤ code ∧ run.covers code.toNat then some (Char.ofNat code.toNat) else none) ++
  (if c = 'i' then [Char.ofNat 0x130] else [])

/-- Whether the first character that is not case-ignorable has case. -/
def meetsCased : List Char → Bool
  | [] => false
  | c :: rest =>
    if caseIgnorableRanges.contains c.toNat then meetsCased rest
    else casedRanges.contains c.toNat

/-- The lower case of a text.  `before` holds the characters already passed, last first: they and
what follows decide the form of a sigma. -/
def lowerFrom : List Char → List Char → List Char
  | _, [] => []
  | before, c :: rest =>
    let mapped :=
      if c.toNat = 0x3A3 then
        if meetsCased before && !meetsCased rest then ['ς'] else ['σ']
      else if c.toNat = 0x130 then ['i', Char.ofNat 0x307]
      else [lowerChar c]
    mapped ++ lowerFrom (c :: before) rest

/-- The lower case of a text. -/
def lower (s : List Char) : List Char := lowerFrom [] s

/-- The upper case of one character. -/
def upperChar (c : Char) : List Char :=
  match longUppers.lookup c.toNat with
  | some codes => codes.map Char.ofNat
  | none => [Char.ofNat (mapCode upperRuns c.toNat)]

/-- The upper case of a text. -/
def upper (s : List Char) : List Char := s.flatMap upperChar

end RecordCheck.Text
