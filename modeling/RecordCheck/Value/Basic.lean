import RecordCheck.Calendar.DateTime
import RecordCheck.Number.Basic
import RecordCheck.Regex.Syntax

/-!
# Values

The values that records hold, that rules are given as parameters, and that checks return.  A mapping is
the list of its entries in insertion order, a set the list of its members in the order they were added;
both are built by operations that keep the keys distinct.  A member of an enumeration stands for its
body: one with a text as body and kind is a text in every respect but its spelling, any other equals
only the member with the same body.
-/

set_option autoImplicit false

namespace RecordCheck

/-- A value. -/
inductive Value where
  | null
  | bool (value : Bool)
  | number (value : Number)
  | text (value : String)
  | bytes (value : List UInt8)
  | list (items : List Value)
  | tuple (items : List Value)
  | set (items : List Value)
  | dict (entries : List (Value × Value))
  | range (start stop step : Int)
  | date (value : Calendar.Date)
  | dateTime (value : Calendar.DateTime)
  | pattern (value : Regex.Pattern)
  | member (body : Value)
  | textMember (value : String)
  | entry (code message : Value) (details : List (Value × Value))
  | result (valid : Bool) (value errors : Value)
  deriving Inhabited

/-- The entries of a mapping, in order. -/
abbrev Entries := List (Value × Value)

namespace Value

/-- An integer. -/
def int (n : Int) : Value := .number (.int n)

/-- A text given by its characters. -/
def ofChars (s : List Char) : Value := .text (String.ofList s)

/-! ## Views -/

/-- The text that a value is, if it is one. -/
def text? : Value → Option String
  | .text s | .textMember s => some s
  | _ => none

/-- The number that a value is, if it is one; truth values are no numbers. -/
def number? : Value → Option Number
  | .number n => some n
  | _ => none

/-- The number that a value counts as in comparisons, where a truth value is one or zero. -/
def numeric? : Value → Option Number
  | .number n => some n
  | .bool b => some (.int (if b then 1 else 0))
  | _ => none

/-- The entries of a mapping. -/
def entries? : Value → Option Entries
  | .dict entries => some entries
  | _ => none

/-- Whether a value is a text. -/
def isText (v : Value) : Bool := v.text?.isSome

/-- Whether a value is a number. -/
def isNumber (v : Value) : Bool := v.number?.isSome

/-- Whether a value is a truth value. -/
def isBool : Value → Bool
  | .bool _ => true
  | _ => false

/-- Whether a value is null. -/
def isNull : Value → Bool
  | .null => true
  | _ => false

/-- Whether a value counts as absent: null or the empty text. -/
def isBlank (v : Value) : Bool := v.isNull || v.text? == some ""

/-! ## Ranges -/

/-- The number of members of a range. -/
def rangeLength (start stop step : Int) : Nat :=
  if 0 < step then (if start < stop then ((stop - start - 1) / step + 1).toNat else 0)
  else if step < 0 then (if stop < start then ((start - stop - 1) / (-step) + 1).toNat else 0)
  else 0

/-- The members of a range. -/
def rangeItems (start stop step : Int) : List Value :=
  (List.range (rangeLength start stop step)).map fun (i : Nat) => .int (start + i * step)

/-- Whether an integer is a member of a range. -/
def rangeContains (start stop step n : Int) : Bool :=
  if 0 < step then start ≤ n && n < stop && (n - start) % step == 0
  else if step < 0 then stop < n && n ≤ start && (start - n) % (-step) == 0
  else false

/-! ## Truth -/

/-- Whether a value counts as true. -/
def isTruthy : Value → Bool
  | .null => false
  | .bool b => b
  | .number n => !n.isZero
  | .text s | .textMember s => s != ""
  | .bytes b => !b.isEmpty
  | .list items | .tuple items | .set items => !items.isEmpty
  | .dict entries => !entries.isEmpty
  | .range start stop step => rangeLength start stop step != 0
  | .result valid _ _ => valid
  | .date _ | .dateTime _ | .pattern _ | .member _ | .entry .. => true

/-! ## Names of kinds -/

/-- The name of a value's kind. -/
def kindName : Value → String
  | .null => "NoneType"
  | .bool _ => "bool"
  | .number (.int _) => "int"
  | .number (.float _) => "float"
  | .number (.decimal _) => "Decimal"
  | .text _ => "str"
  | .bytes _ => "bytes"
  | .list _ => "list"
  | .tuple _ => "tuple"
  | .set _ => "set"
  | .dict _ => "dict"
  | .range .. => "range"
  | .date _ => "date"
  | .dateTime _ => "datetime"
  | .pattern _ => "Pattern"
  | .member _ => "PlainEnum"
  | .textMember _ => "TextEnum"
  | .entry .. => "ErrorEntry"
  | .result .. => "ValidationResult"

/-- The name of a value's kind with the family it belongs to, as operators report it. -/
def operandName : Value → String
  | .number (.decimal _) => "decimal.Decimal"
  | .date _ => "datetime.date"
  | .dateTime _ => "datetime.datetime"
  | .pattern _ => "re.Pattern"
  | v => v.kindName

end Value

end RecordCheck
