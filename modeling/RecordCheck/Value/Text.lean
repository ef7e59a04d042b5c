import RecordCheck.Value.Equality

/-!
# Texts of values

A value has a text, which stands in messages, and a shown form, which tells its kind: texts are quoted
and bytes marked, members of lists and mappings are shown.  Both are the same for numbers, truth values
and containers.  An integer with too many digits has neither.
-/

set_option autoImplicit false

namespace RecordCheck.Value

open Text (digits quoted quotedBytes)

/-- Parts in brackets, separated by commas. -/
def enclosed (opening closing : String) (parts : List (List Char)) : List Char :=
  opening.toList ++ (", ".toList).intercalate parts ++ closing.toList

/-- A number. -/
def numberText (n : Number) : Attempt (List Char) :=
  match n.text? with
  | some s => pure s
  | none => refuse .longInteger

/-- The flags of a pattern by name. -/
def flagNames (flags : Regex.Flags) : List (List Char) :=
  [(Regex.Flag.ascii, "re.ASCII"), (.ignoreCase, "re.IGNORECASE"), (.multiline, "re.MULTILINE"),
   (.dotAll, "re.DOTALL"), (.verbose, "re.VERBOSE")].filterMap fun (f, name) =>
    if flags.has f then some name.toList else none

/-- A pattern with its flags. -/
def patternShown (p : Regex.Pattern) : List Char :=
  let source := (quoted p.source.toList).take 200
  let flags := flagNames p.flags
  "re.compile(".toList ++ source ++
    (if flags.isEmpty then [] else ", ".toList ++ ['|'].intercalate flags) ++ [')']

/-- A date by its parts. -/
def dateShown (d : Calendar.Date) : List Char :=
  enclosed "datetime.date(" ")" [digits d.year, digits d.month, digits d.day]

/-- A length of time by days, seconds and microseconds, parts that are zero left out. -/
def spanShown (micros : Int) : List Char :=
  let part (name : String) (n : Int) : List (List Char) :=
    if n = 0 then [] else [name.toList ++ '=' :: Number.integerText n]
  let parts := part "days" (micros.fdiv 86400000000) ++
    part "seconds" (micros.fmod 86400000000 / 1000000) ++
    part "microseconds" (micros.fmod 1000000)
  enclosed "datetime.timedelta(" ")" (if parts.isEmpty then [['0']] else parts)

/-- An offset from UTC. -/
def offsetShown (o : Calendar.Offset) : List Char :=
  if o.micros = 0 then "datetime.timezone.utc".toList
  else enclosed "datetime.timezone(" ")" [spanShown o.micros]

/-- A date and time by its parts; seconds and microseconds at the end are left out when zero. -/
def dateTimeShown (t : Calendar.DateTime) : List Char :=
  let seconds := if t.time.second = 0 ∧ t.time.micro = 0 then [] else [digits t.time.second]
  let micros := if t.time.micro = 0 then [] else [digits t.time.micro]
  let offset := match t.offset with
    | none => []
    | some o => ["tzinfo=".toList ++ offsetShown o]
  enclosed "datetime.datetime(" ")"
    ([digits t.date.year, digits t.date.month, digits t.date.day, digits t.time.hour,
      digits t.time.minute] ++ seconds ++ micros ++ offset)

/-- A truth value. -/
def boolText (b : Bool) : List Char := if b then "True".toList else "False".toList

/-- The integers that a range is made of; a step of one is left out. -/
def rangeArguments (start stop step : Int) : List Int :=
  if step = 1 then [start, stop] else [start, stop, step]

mutual

/-- The shown form of a value. -/
def shown : Value → Attempt (List Char)
  | .null => pure "None".toList
  | .bool b => pure (boolText b)
  | .number (.decimal d) => pure ("Decimal('".toList ++ d.text ++ "')".toList)
  | .number n => numberText n
  | .text s => pure (quoted s.toList)
  | .bytes b => pure (quotedBytes b)
  | .list items => do return enclosed "[" "]" (← shownList items)
  | .tuple [item] => do return '(' :: (← shown item) ++ ",)".toList
  | .tuple items => do return enclosed "(" ")" (← shownList items)
  | .set [] => pure "set()".toList
  | .set items => do return enclosed "\x7b" "\x7d" (← shownList items)
  | .dict entries => do return enclosed "\x7b" "\x7d" (← shownEntries entries)
  | .range start stop step => do
    return enclosed "range(" ")" (← (rangeArguments start stop step).mapM fun n => numberText (.int n))
  | .date d => pure (dateShown d)
  | .dateTime t => pure (dateTimeShown t)
  | .pattern p => pure (patternShown p)
  | .member body => do return "<PlainEnum.MEMBER: ".toList ++ (← shown body) ++ ['>']
  | .textMember s => pure ("<TextEnum.MEMBER: ".toList ++ quoted s.toList ++ ['>'])
  | .entry code message details => do
    return "ErrorEntry(code=".toList ++ (← shown code) ++ ", message=".toList ++
      (← shown message) ++ ", meta=mappingproxy(".toList ++
      enclosed "\x7b" "\x7d" (← shownEntries details) ++ "))".toList
  | .result valid value errors => do
    return "ValidationResult(valid=".toList ++ boolText valid ++ ", value=".toList ++
      (← shown value) ++ ", errors=".toList ++ (← shown errors) ++ [')']

/-- The shown forms of values. -/
def shownList : List Value → Attempt (List (List Char))
  | [] => pure []
  | v :: rest => do return (← shown v) :: (← shownList rest)

/-- The shown forms of entries, key and value separated by a colon. -/
def shownEntries : List (Value × Value) → Attempt (List (List Char))
  | [] => pure []
  | (key, value) :: rest => do
    return ((← shown key) ++ ": ".toList ++ (← shown value)) :: (← shownEntries rest)

end

/-- The text of a value. -/
def textChars : Value → Attempt (List Char)
  | .text s => pure s.toList
  | .number n => numberText n
  | .date d => pure d.text
  | .dateTime t => pure (t.textWith ' ')
  | .member _ => pure "PlainEnum.MEMBER".toList
  | .textMember _ => pure "TextEnum.MEMBER".toList
  | v => v.shown

/-- The text of a value. -/
def textOf (v : Value) : Attempt String := return String.ofList (← v.textChars)

/-- The shown form of a value. -/
def shownText (v : Value) : Attempt String := return String.ofList (← v.shown)

end RecordCheck.Value
