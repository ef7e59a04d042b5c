import RecordCheck.Text.Digit
import RecordCheck.Text.Printable

/-!
# Quoted texts and bytes

The quoted form of a text stands between single quotes, or between double quotes when the text holds
a single quote and no double one.  Inside, the backslash and the surrounding quote are escaped by a
backslash, tab and line ends by their letters, and an unprintable character by its code point in two,
four or eight hexadecimal digits.  Bytes follow the same rule with every byte outside printable ASCII
escaped, after a leading `b`.
-/

set_option autoImplicit false

namespace RecordCheck.Text

/-- The quote that surrounds a text holding these characters. -/
def surroundingQuote (s : List Char) : Char :=
  if s.contains '\'' && !s.contains '"' then '"' else '\''

/-- An escape: a backslash, a letter and the code in `width` hexadecimal digits. -/
def escapeCode (letter : Char) (width code : Nat) : List Char :=
  '\\' :: letter :: hexDigits width code

/-- One character inside quotes. -/
def quotedChar (quote c : Char) : List Char :=
  if c = quote ∨ c = '\\' then ['\\', c]
  else if c = '\t' then ['\\', 't']
  else if c = '\n' then ['\\', 'n']
  else if c = '\r' then ['\\', 'r']
  else if isPrintable c then [c]
  else if c.toNat ≤ 0xFF then escapeCode 'x' 2 c.toNat
  else if c.toNat ≤ 0xFFFF then escapeCode 'u' 4 c.toNat
  else escapeCode 'U' 8 c.toNat

/-- The quoted form of a text. -/
def quoted (s : List Char) : List Char :=
  let quote := surroundingQuote s
  quote :: s.flatMap (quotedChar quote) ++ [quote]

/-- The quoted form of bytes. -/
def quotedBytes (bytes : List UInt8) : List Char :=
  let s := bytes.map fun b => Char.ofNat b.toNat
  let quote := surroundingQuote s
  let shown (c : Char) : List Char :=
    if 0x7F ≤ c.toNat then escapeCode 'x' 2 c.toNat else quotedChar quote c
  'b' :: quote :: s.flatMap shown ++ [quote]

end RecordCheck.Text
