/-!
# Decimal digits

The decimal digits of every script come in runs of ten consecutive code points, zero first, so the
class is given by its zeros.
-/

set_option autoImplicit false

namespace RecordCheck.Text

/-- The code points of the zeros of all scripts, in increasing order. -/
def zeroDigits : List Nat :=
  [0x30, 0x660, 0x6F0, 0x7C0, 0x966, 0x9E6, 0xA66, 0xAE6, 0xB66, 0xBE6, 0xC66, 0xCE6, 0xD66,
   0xDE6, 0xE50, 0xED0, 0xF20, 0x1040, 0x1090, 0x17E0, 0x1810, 0x1946, 0x19D0, 0x1A80, 0x1A90,
   0x1B50, 0x1BB0, 0x1C40, 0x1C50, 0xA620, 0xA8D0, 0xA900, 0xA9D0, 0xA9F0, 0xAA50, 0xABF0,
   0xFF10, 0x104A0, 0x10D30, 0x11066, 0x110F0, 0x11136, 0x111D0, 0x112F0, 0x11450, 0x114D0,
   0x11650, 0x116C0, 0x11730, 0x118E0, 0x11950, 0x11C50, 0x11D50, 0x11DA0, 0x16A60, 0x16AC0,
   0x16B50, 0x1D7CE, 0x1D7D8, 0x1D7E2, 0x1D7EC, 0x1D7F6, 0x1E140, 0x1E2F0, 0x1E950, 0x1FBF0]

/-- The value of a decimal digit of any script. -/
def digitValue? (c : Char) : Option Nat :=
  (zeroDigits.find? fun first => first ≤ c.toNat && c.toNat < first + 10).map (c.toNat - ·)

/-- Whether a character is a decimal digit of some script. -/
def isDigit (c : Char) : Bool := (digitValue? c).isSome

/-- The value of a hexadecimal digit, an ASCII digit or letter of either case. -/
def hexValue? (c : Char) : Option Nat :=
  if '0' ≤ c ∧ c ≤ '9' then some (c.toNat - '0'.toNat)
  else if 'a' ≤ c ∧ c ≤ 'f' then some (c.toNat - 'a'.toNat + 10)
  else if 'A' ≤ c ∧ c ≤ 'F' then some (c.toNat - 'A'.toNat + 10)
  else none

/-- The digit character of a value below ten. -/
def digitChar (n : Nat) : Char := Char.ofNat ('0'.toNat + n)

/-- The decimal digits of a number, most significant first, written before what follows. -/
def digitsBefore (n : Nat) (rest : List Char) : List Char :=
  if h : n < 10 then digitChar n :: rest
  else digitsBefore (n / 10) (digitChar (n % 10) :: rest)
termination_by n

/-- The decimal digits of a number; zero is written `0`. -/
def digits (n : Nat) : List Char := digitsBefore n []

/-- A number written with at least `width` digits, padded with zeros on the left. -/
def paddedDigits (width n : Nat) : List Char :=
  let text := digits n
  List.replicate (width - text.length) '0' ++ text

/-- A number in lower case hexadecimal with at least `width` digits. -/
def hexDigits (width n : Nat) : List Char :=
  let text := Nat.toDigits 16 n
  List.replicate (width - text.length) '0' ++ text

end RecordCheck.Text
