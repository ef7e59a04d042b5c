import RecordCheck.Document.Scalar

/-!
# Reading YAML

A reader of YAML documents made of mappings, lists and scalars, in block or flow form, with comments.
Blocks are told by indentation.  A name that occurs twice in a mapping keeps its first place and its
last value.
-/

set_option autoImplicit false

namespace RecordCheck.Yaml

/-! ## Lines -/

/-- A line with its indentation, without its comment. -/
structure Line where
  indent : Nat
  text : List Char

/-- Whether a quote after a character opens a quoted scalar. -/
def opensScalar (before : Option Char) : Bool :=
  match before with
  | none => true
  | some c => c = ':' || c = '-' || c = '[' || c = '\x7b' || c = ','

/-- What of a line stands before its comment.  `quote` is the quote that is open, `token` the last
character that is no blank, and `blank` whether the last character is one.  A single quote that is
written twice, and whatever follows a backslash between double quotes, closes nothing. -/
def beforeComment (quote : Option Char) (token : Option Char) (blank : Bool) :
    List Char → List Char
  | [] => []
  | [c] => if quote.isNone ∧ c = '#' ∧ blank then [] else [c]
  | c :: d :: rest =>
    match quote with
    | some q =>
      if (c = '\'' ∧ q = c ∧ d = c) ∨ (c = '\\' ∧ q = '"') then
        c :: d :: beforeComment quote (some d) false rest
      else c :: beforeComment (if c = q then none else quote) (some c) false (d :: rest)
    | none =>
      if c = '#' ∧ blank then []
      else if (c = '"' ∨ c = '\'') ∧ opensScalar token then
        c :: beforeComment (some c) (some c) false (d :: rest)
      else if c = ' ' ∨ c = '\t' then c :: beforeComment none token true (d :: rest)
      else c :: beforeComment none (some c) false (d :: rest)

/-- A text without blanks at its end. -/
def trimRight (s : List Char) : List Char := (s.reverse.dropWhile Text.isBlank).reverse

/-- The line that a text is. -/
def lineOf (s : List Char) : Line :=
  let body := trimRight (beforeComment none none true s)
  ⟨(body.takeWhile (· == ' ')).length, body.dropWhile (· == ' ')⟩

/-- The lines of a document that are not blank, up to a mark of its end, without the mark of its
beginning. -/
def linesOf (document : List Char) : List Line :=
  let lines := (Text.splitOn ['\n'] document).map lineOf
  let lines := lines.filter fun l => !l.text.isEmpty
  let lines := lines.takeWhile fun l => l.text != "...".toList
  match lines with
  | ⟨_, ['-', '-', '-']⟩ :: rest => rest
  | ⟨_, '-' :: '-' :: '-' :: ' ' :: text⟩ :: rest => ⟨4, text.dropWhile (· == ' ')⟩ :: rest
  | lines => lines

/-! ## Scalars and flow forms -/

/-- A scalar in single quotes, given what follows the opening quote, and what follows it; a quote inside
is written twice. -/
def single : List Char → List Char × List Char
  | '\'' :: '\'' :: rest => let (s, after) := single rest; ('\'' :: s, after)
  | '\'' :: rest => ([], rest)
  | c :: rest => let (s, after) := single rest; (c :: s, after)
  | [] => ([], [])

/-- The character for a letter after a backslash. -/
def escaped? : Char → Option Char
  | '0' => some '\x00'
  | 'a' => some '\x07'
  | 'b' => some '\x08'
  | 't' => some '\t'
  | 'n' => some '\n'
  | 'v' => some '\x0b'
  | 'f' => some '\x0c'
  | 'r' => some '\r'
  | 'e' => some '\x1b'
  | ' ' => some ' '
  | '"' => some '"'
  | '/' => some '/'
  | '\\' => some '\\'
  | 'N' => some '\u0085'
  | '_' => some '\u00a0'
  | 'L' => some '\u2028'
  | 'P' => some '\u2029'
  | _ => none

/-- The number of hexadecimal digits after a letter that introduces a code. -/
def codeLength? : Char → Option Nat
  | 'x' => some 2
  | 'u' => some 4
  | 'U' => some 8
  | _ => none

/-- A scalar in double quotes, given what follows the opening quote, and what follows it. -/
def double : (fuel : Nat) → List Char → List Char × List Char
  | 0, s => ([], s)
  | fuel + 1, s =>
    match s with
    | [] => ([], [])
    | '"' :: rest => ([], rest)
    | '\\' :: c :: rest =>
      match escaped? c, codeLength? c with
      | some e, _ => let (t, after) := double fuel rest; (e :: t, after)
      | none, some n =>
        let code := ofDigitsIn 16 ((rest.take n).filterMap (digitIn? 16))
        let (t, after) := double fuel (rest.drop n)
        (Char.ofNat code :: t, after)
      | none, none => let (t, after) := double fuel rest; ('\\' :: c :: t, after)
    | c :: rest => let (t, after) := double fuel rest; (c :: t, after)

/-- A quoted scalar at the beginning of a text, and what follows it. -/
def quoted? : List Char → Option (List Char × List Char)
  | '\'' :: rest => some (single rest)
  | '"' :: rest => some (double (rest.length + 1) rest)
  | _ => none

/-- What follows the blanks at the beginning of a text. -/
def skipBlanks (s : List Char) : List Char := s.dropWhile Text.isBlank

/-- A plain scalar in a flow form, and what follows it: it ends before a comma, a bracket, or a colon
with a blank after it. -/
def flowPlain : List Char → List Char × List Char
  | [] => ([], [])
  | ':' :: c :: rest =>
    if Text.isBlank c then ([], ':' :: c :: rest)
    else let (s, after) := flowPlain (c :: rest); (':' :: s, after)
  | [':'] => ([], [':'])
  | c :: rest =>
    if c = ',' ∨ c = ']' ∨ c = '\x7d' ∨ c = '[' ∨ c = '\x7b' then ([], c :: rest)
    else let (s, after) := flowPlain rest; (c :: s, after)

mutual

/-- A value in flow form, and what follows it. -/
def flowValue : (fuel : Nat) → List Char → Value × List Char
  | 0, s => (.null, s)
  | fuel + 1, s =>
    match s with
    | '[' :: rest => flowItems fuel [] (skipBlanks rest)
    | '\x7b' :: rest => flowEntries fuel [] (skipBlanks rest)
    | s =>
      match quoted? s with
      | some (t, after) => (.ofChars t, after)
      | none => let (t, after) := flowPlain s; (plain (trimRight t), after)

/-- The items of a list in flow form, those before given last first. -/
def flowItems : (fuel : Nat) → List Value → List Char → Value × List Char
  | 0, sofar, s => (.list sofar.reverse, s)
  | fuel + 1, sofar, s =>
    match s with
    | [] => (.list sofar.reverse, [])
    | ']' :: rest => (.list sofar.reverse, rest)
    | ',' :: rest => flowItems fuel sofar (skipBlanks rest)
    | s =>
      let (v, after) := flowValue fuel s
      match skipBlanks after with
      | ':' :: rest =>
        let (w, after) := flowValue fuel (skipBlanks rest)
        flowItems fuel (.dict [(v, w)] :: sofar) (skipBlanks after)
      | after => flowItems fuel (v :: sofar) after

/-- The entries of a mapping in flow form. -/
def flowEntries : (fuel : Nat) → Entries → List Char → Value × List Char
  | 0, sofar, s => (.dict sofar, s)
  | fuel + 1, sofar, s =>
    match s with
    | [] => (.dict sofar, [])
    | '\x7d' :: rest => (.dict sofar, rest)
    | ',' :: rest => flowEntries fuel sofar (skipBlanks rest)
    | s =>
      let (key, after) := flowValue fuel s
      match skipBlanks after with
      | ':' :: rest =>
        let (v, after) := flowValue fuel (skipBlanks rest)
        flowEntries fuel (sofar.put key v) (skipBlanks after)
      | after => flowEntries fuel (sofar.put key .null) after

end

/-- The value of a text that stands on one line. -/
def inlineValue (s : List Char) : Value :=
  match s with
  | '[' :: _ | '\x7b' :: _ | '"' :: _ | '\'' :: _ => (flowValue (s.length + 1) s).1
  | s => plain s

/-! ## Blocks -/

/-- Whether a text is an item of a block list. -/
def isItem : List Char → Bool
  | ['-'] => true
  | '-' :: c :: _ => Text.isBlank c
  | _ => false

/-- A plain name before a colon, and what follows the colon. -/
def plainKey? : List Char → Option (List Char × List Char)
  | [] => none
  | [':'] => some ([], [])
  | ':' :: c :: rest =>
    if Text.isBlank c then some ([], c :: rest)
    else (plainKey? (c :: rest)).map fun (key, after) => (':' :: key, after)
  | c :: rest => (plainKey? rest).map fun (key, after) => (c :: key, after)

/-- The name of an entry of a block mapping and what follows the colon, if a text is one. -/
def key? (s : List Char) : Option (Value × List Char) :=
  match s with
  | '[' :: _ | '\x7b' :: _ => none
  | s =>
    match quoted? s with
    | some (t, after) =>
      match skipBlanks after with
      | ':' :: rest => some (.ofChars t, skipBlanks rest)
      | _ => none
    | none => (plainKey? s).map fun (key, after) => (plain (trimRight key), skipBlanks after)

/-- A text continued by the lines that are indented more than a level, joined by spaces. -/
def continued (level : Nat) (s : List Char) (lines : List Line) : List Char × List Line :=
  let more := lines.takeWhile fun l => level < l.indent
  ([' '].intercalate (s :: more.map (·.text)), lines.dropWhile fun l => level < l.indent)

mutual

/-- The block at the beginning of lines, and the lines that follow it. -/
def block : (fuel : Nat) → List Line → Value × List Line
  | _, [] => (.null, [])
  | 0, lines => (.null, lines)
  | fuel + 1, line :: rest =>
    if isItem line.text then blockItems fuel line.indent [] (line :: rest)
    else match key? line.text with
      | some _ => blockEntries fuel line.indent [] (line :: rest)
      | none =>
        let (s, after) := ([' '].intercalate (line.text :: rest.map (·.text)), ([] : List Line))
        (inlineValue s, after)

/-- The items of a block list at a level, those before given last first. -/
def blockItems : (fuel : Nat) → (level : Nat) → List Value → List Line → Value × List Line
  | _, _, sofar, [] => (.list sofar.reverse, [])
  | 0, _, sofar, lines => (.list sofar.reverse, lines)
  | fuel + 1, level, sofar, line :: rest =>
    if line.indent = level ∧ isItem line.text then
      let body := skipBlanks (line.text.drop 1)
      let offset := line.text.length - body.length
      let inner := if body.isEmpty then [] else [(⟨level + offset, body⟩ : Line)]
      let nested := inner ++ rest.takeWhile fun l => level < l.indent
      let (v, _) := block fuel nested
      blockItems fuel level (v :: sofar) (rest.dropWhile fun l => level < l.indent)
    else (.list sofar.reverse, line :: rest)

/-- The entries of a block mapping at a level. -/
def blockEntries : (fuel : Nat) → (level : Nat) → Entries → List Line → Value × List Line
  | _, _, sofar, [] => (.dict sofar, [])
  | 0, _, sofar, lines => (.dict sofar, lines)
  | fuel + 1, level, sofar, line :: rest =>
    match key? line.text with
    | none => (.dict sofar, line :: rest)
    | some (key, []) =>
      let inner := fun (l : Line) => level < l.indent || (l.indent == level && isItem l.text)
      let (v, _) := block fuel (rest.takeWhile inner)
      blockEntries fuel level (sofar.put key v) (rest.dropWhile inner)
    | some (key, body) =>
      let (s, after) := continued level body rest
      blockEntries fuel level (sofar.put key (inlineValue s)) after

end

/-- The value that a document denotes. -/
def parse (document : List Char) : Value :=
  let lines := linesOf document
  (block (2 * document.length + 2) lines).1

end RecordCheck.Yaml
