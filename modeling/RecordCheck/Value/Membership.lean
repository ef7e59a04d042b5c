import RecordCheck.Value.Equality

/-!
# Membership

A list, tuple or set has its items as members, a mapping its keys, a text its parts, bytes their parts
and single bytes, and a range the numbers equal to one of its integers.  Other values have no members.
What is sought is compared by what it holds and not by identity, so that a NaN is never found.
-/

set_option autoImplicit false

namespace RecordCheck.Value

/-- Whether a number is a member of a range. -/
def rangeHolds (start stop step : Int) (n : Number) : Attempt Bool :=
  if n.isSignaling && rangeLength start stop step != 0 then refuse (.decimal .invalidOperation)
  else match n with
    | .int k => pure (rangeContains start stop step k)
    | .float (.finite negative mantissa exponent) =>
      pure (n.isIntegral &&
        rangeContains start stop step (Number.Binary64.truncate negative mantissa exponent))
    | .decimal (.finite negative coefficient exponent) =>
      pure (n.isIntegral &&
        rangeContains start stop step (Number.Decimal.truncate negative coefficient exponent))
    | _ => pure false

/-- Whether one list occurs in another without gaps. -/
def occursIn {α : Type} [BEq α] (part : List α) : List α → Bool
  | [] => part.isEmpty
  | a :: rest => part.isPrefixOf (a :: rest) || occursIn part rest

/-- Whether bytes hold a byte or a part. -/
def bytesHold (bytes : List UInt8) : Value → Attempt Bool
  | .bytes part => pure (occursIn part bytes)
  | .bool b => pure (bytes.any fun x => x.toNat == b.toNat)
  | .number (.int n) =>
    if 0 ≤ n ∧ n < 256 then pure (bytes.any fun x => (x.toNat : Int) == n) else refuse .byteRange
  | v => refuse (.notBytes v.operandName)

/-- Whether a value is a key among others. -/
def isKeyOf (keys : List Value) (value : Value) : Attempt Bool := do
  value.checkKey
  return keys.any (·.sameKey value)

/-- Whether a container has a value as a member, one that is equal to it.  That a member may be the very same
object as the value, which matters for NaN and what holds one, is left out. -/
def contains (container value : Value) : Attempt Bool :=
  match container with
  | .list items | .tuple items => value.memberOf items
  | .set items => isKeyOf items value
  | .dict entries => isKeyOf (entries.map (·.1)) value
  | .text s | .textMember s =>
    match value.text? with
    | some part => pure (occursIn part.toList s.toList)
    | none => refuse (.textContainer value.operandName)
  | .bytes b => bytesHold b value
  | .range start stop step =>
    match value.numeric? with
    | some n => rangeHolds start stop step n
    | none => pure false
  | v => refuse (.notContainer v.operandName)

end RecordCheck.Value
