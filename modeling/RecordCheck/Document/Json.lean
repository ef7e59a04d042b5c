import RecordCheck.Number.Numeral
import RecordCheck.Value.Equality

/-!
# Reading JSON

A reader of JSON documents.  It takes the grammar of RFC 8259 and besides it the names `NaN`, `Infinity`
and `-Infinity`; a name that occurs twice in an object keeps its first place and its last value.  An
error says what was expected and where, by line, column and character.
-/

set_option autoImplicit false

namespace RecordCheck.Json

open Number

/-! ## Errors -/

/-- What is wrong with a document. -/
inductive Problem where
  | noValue
  | noName
  | noColon
  | noComma
  | extraData
  | openText
  | controlCharacter
  | badEscape
  | badCodeEscape
  | byteOrderMark
  deriving DecidableEq, Repr

/-- A problem in words. -/
def Problem.text : Problem → String
  | .noValue => "Expecting value"
  | .noName => "Expecting property name enclosed in double quotes"
  | .noColon => "Expecting ':' delimiter"
  | .noComma => "Expecting ',' delimiter"
  | .extraData => "Extra data"
  | .openText => "Unterminated string starting at"
  | .controlCharacter => "Invalid control character at"
  | .badEscape => "Invalid \\escape"
  | .badCodeEscape => "Invalid \\uXXXX escape"
  | .byteOrderMark => "Unexpected UTF-8 BOM (decode using utf-8-sig)"

/-- Why a document cannot be read: a problem with so many characters left, or an integer with too many
digits. -/
inductive Error where
  | at (problem : Problem) (left : Nat)
  | longInteger (digits : Nat)

/-- Reading a document, which may fail. -/
abbrev Read := Except Error

/-- A problem at the beginning of what is left. -/
def fail {α : Type} (problem : Problem) (rest : List Char) : Read α :=
  throw (.at problem rest.length)

/-- The place of a problem by line, column and character. -/
def placeText (document : List Char) (position : Nat) : String :=
  let before := document.take position
  let line := before.count '\n' + 1
  let column := (before.reverse.takeWhile (· != '\n')).length + 1
  ": line " ++ toString line ++ " column " ++ toString column ++ " (char " ++
    toString position ++ ")"

/-- The fault for an error in a document. -/
def Error.toFault (document : List Char) : Error → Fault
  | .at problem left =>
    .document "JSONDecodeError"
      (problem.text ++ placeText document (document.length - left))
  | .longInteger digits => .operation (.longNumeral digits)

/-! ## Parts without parts -/

/-- Whether a character may stand between parts of a document. -/
def isLayout (c : Char) : Bool := c = ' ' || c = '\t' || c = '\n' || c = '\r'

/-- What follows layout. -/
def skipLayout (s : List Char) : List Char := s.dropWhile isLayout

/-- Whether a character is one of the ten digits. -/
def isDigit (c : Char) : Bool := '0' ≤ c && c ≤ '9'

/-- The value of a digit. -/
def digitValue (c : Char) : Nat := c.toNat - '0'.toNat

/-- The leading digits of a text and what follows them. -/
def takeDigits (s : List Char) : List Nat × List Char :=
  ((s.takeWhile isDigit).map digitValue, s.dropWhile isDigit)

/-- The digits before the point: a zero alone, or digits that do not begin with one. -/
def takeWhole : List Char → Option (List Nat × List Char)
  | '0' :: rest => some ([0], rest)
  | s =>
    match takeDigits s with
    | ([], _) => none
    | found => some found

/-- The digits after a point, if there are any, and what follows. -/
def takeFraction : List Char → Option (List Nat × List Char)
  | '.' :: rest =>
    match takeDigits rest with
    | ([], _) => none
    | found => some found
  | _ => none

/-- An exponent, if there is one, and what follows. -/
def takeExponent : List Char → Option (Int × List Char)
  | c :: rest =>
    if c = 'e' ∨ c = 'E' then
      let (negative, rest) := takeSign rest
      match takeDigits rest with
      | ([], _) => none
      | (ds, after) => some (signed negative (ofDigits ds), after)
    else none
  | [] => none

/-- A number: an integer unless it has a fraction or an exponent. -/
def readNumber (s : List Char) : Read (Value × List Char) := do
  let (negative, afterSign) := match s with
    | '-' :: rest => (true, rest)
    | _ => (false, s)
  match takeWhole afterSign with
  | none => fail .noValue s
  | some (whole, rest) =>
    let fraction := takeFraction rest
    let (places, rest) := fraction.getD ([], rest)
    let exponent := takeExponent rest
    match fraction.isSome || exponent.isSome with
    | true =>
      let n : DecimalNumeral :=
        ⟨negative, whole ++ places, places.length, (exponent.map (·.1)).getD 0⟩
      return (.number (.float n.toBinary64), (exponent.map (·.2)).getD rest)
    | false =>
      if whole.length ≤ digitLimit then return (.int (signed negative (ofDigits whole)), rest)
      else throw (.longInteger whole.length)

/-- The names that stand for values. -/
def constants : List (String × Value) :=
  [("null", .null), ("true", .bool true), ("false", .bool false),
   ("NaN", .number (.float .nan)), ("Infinity", .number (.float (.infinite false))),
   ("-Infinity", .number (.float (.infinite true)))]

/-- A value that is written as a name, and what follows it. -/
def readConstant? (s : List Char) : Option (Value × List Char) :=
  constants.findSome? fun (name, v) =>
    (Text.dropPrefix? name.toList s).map fun rest => (v, rest)

/-! ## Texts -/

/-- The character for a letter after a backslash. -/
def escaped? : Char → Option Char
  | '"' => some '"'
  | '\\' => some '\\'
  | '/' => some '/'
  | 'b' => some '\x08'
  | 'f' => some '\x0c'
  | 'n' => some '\n'
  | 'r' => some '\r'
  | 't' => some '\t'
  | _ => none

/-- The number that four hexadecimal digits denote. -/
def hexCode? (s : List Char) : Option Nat :=
  if s.length < 4 then none
  else (s.take 4).foldlM (fun n c => (Text.hexValue? c).map (16 * n + ·)) 0

/-- The second half of a character written as two codes, and what follows it. -/
def lowHalf? : List Char → Option (Nat × List Char)
  | '\\' :: 'u' :: rest =>
    match hexCode? rest with
    | some n =>
      if 0xDC00 ≤ n ∧ n ≤ 0xDFFF ∧ 4 < rest.length then some (n, rest.drop 4) else none
    | none => none
  | _ => none

/-- The character that a code escape denotes and what follows it, given what follows the letter `u`.
Half of a character that stands alone is replaced. -/
def readCode (s : List Char) : Read (Char × List Char) := do
  if s.length ≤ 4 then fail .badCodeEscape ('u' :: s)
  match hexCode? s with
  | none => fail .badCodeEscape ('u' :: s)
  | some n =>
    let rest := s.drop 4
    if 0xD800 ≤ n ∧ n ≤ 0xDBFF then
      match lowHalf? rest with
      | some (low, after) =>
        return (Char.ofNat (0x10000 + (n - 0xD800) * 0x400 + (low - 0xDC00)), after)
      | none => return (Char.ofNat 0xFFFD, rest)
    else if 0xDC00 ≤ n ∧ n ≤ 0xDFFF then return (Char.ofNat 0xFFFD, rest)
    else return (Char.ofNat n, rest)

/-- The rest of a text whose characters so far are given last first; `opening` is the document from its
opening quote on. -/
def readText (opening : List Char) : (fuel : Nat) → List Char → List Char → Read (List Char × List Char)
  | 0, _, _ => fail .openText opening
  | _ + 1, _, [] => fail .openText opening
  | _ + 1, sofar, '"' :: rest => pure (sofar.reverse, rest)
  | _ + 1, _, ['\\'] => fail .openText opening
  | fuel + 1, sofar, '\\' :: 'u' :: rest => do
    let (c, after) ← readCode rest
    readText opening fuel (c :: sofar) after
  | fuel + 1, sofar, '\\' :: c :: rest =>
    match escaped? c with
    | some e => readText opening fuel (e :: sofar) rest
    | none => fail .badEscape ('\\' :: c :: rest)
  | fuel + 1, sofar, c :: rest =>
    if c.toNat < 32 then fail .controlCharacter (c :: rest)
    else readText opening fuel (c :: sofar) rest

/-- A text, given what follows its opening quote. -/
def readQuoted (rest : List Char) : Read (String × List Char) := do
  let (s, after) ← readText ('"' :: rest) (rest.length + 1) [] rest
  return (String.ofList s, after)

/-! ## Values -/

mutual

/-- A value and what follows it. -/
def readValue : (fuel : Nat) → List Char → Read (Value × List Char)
  | 0, s => fail .noValue s
  | fuel + 1, s =>
    match s with
    | '"' :: rest => do
      let (text, after) ← readQuoted rest
      return (.text text, after)
    | '\x7b' :: rest =>
      match skipLayout rest with
      | '\x7d' :: after => pure (.dict [], after)
      | inner => readMembers fuel [] inner
    | '[' :: rest =>
      match skipLayout rest with
      | ']' :: after => pure (.list [], after)
      | inner => readItems fuel [] inner
    | _ =>
      match readConstant? s with
      | some found => pure found
      | none => readNumber s

/-- The items of an array from one on, those before given last first. -/
def readItems : (fuel : Nat) → List Value → List Char → Read (Value × List Char)
  | 0, _, s => fail .noValue s
  | fuel + 1, sofar, s => do
    let (v, after) ← readValue fuel s
    match skipLayout after with
    | ']' :: rest => return (.list (v :: sofar).reverse, rest)
    | ',' :: rest => readItems fuel (v :: sofar) (skipLayout rest)
    | rest => fail .noComma rest

/-- The members of an object from one on. -/
def readMembers : (fuel : Nat) → Entries → List Char → Read (Value × List Char)
  | 0, _, s => fail .noName s
  | fuel + 1, sofar, '"' :: s => do
    let (name, after) ← readQuoted s
    match skipLayout after with
    | ':' :: rest =>
      let (v, after) ← readValue fuel (skipLayout rest)
      let members := sofar.put (.text name) v
      match skipLayout after with
      | '\x7d' :: rest => return (.dict members, rest)
      | ',' :: rest => readMembers fuel members (skipLayout rest)
      | rest => fail .noComma rest
    | rest => fail .noColon rest
  | _ + 1, _, s => fail .noName s

end

/-- The value that a document denotes. -/
def read (document : List Char) : Read Value := do
  if document.head? = some '\ufeff' then fail .byteOrderMark document
  let start := skipLayout document
  let (v, after) ← readValue (2 * document.length + 2) start
  match skipLayout after with
  | [] => return v
  | rest => fail .extraData rest

/-- The value that a document denotes, or the fault that it has. -/
def parse (document : List Char) : Attempt Value :=
  match read document with
  | .ok v => pure v
  | .error e => throw (e.toFault document)

end RecordCheck.Json
