import RecordCheck.Fault

/-!
# Equality and order of values

Numbers are equal by value across their kinds, and a truth value counts as one or zero; texts are equal
however they are spelled; lists, tuples, sets and mappings are equal member by member, mappings and sets
without regard to order.  Values of different kinds are different.  Only a signaling NaN makes the
comparison itself fail.  Order is defined within numbers, texts, bytes, dates, sets (inclusion), and
lists and tuples, which compare at their first difference.

Values have no identity here.  A NaN is equal to nothing, also where two containers hold one and the same
NaN object, which they would find equal to itself.
-/

set_option autoImplicit false

namespace RecordCheck.Value

/-- Equality of two numbers. -/
def sameNumber (a b : Number) : Attempt Bool :=
  match a.equal? b with
  | some answer => pure answer
  | none => refuse (.decimal .invalidOperation)

/-- Whether two ranges have the same members in the same order. -/
def sameRange (start stop step start' stop' step' : Int) : Bool :=
  let n := rangeLength start stop step
  n == rangeLength start' stop' step' &&
    (n == 0 || (start == start' && (n == 1 || step == step')))

mutual

/-- Equality of two values by what they hold.  That two values may be one and the same object is left out. -/
def same : Value → Value → Attempt Bool
  | .null, .null => pure true
  | .bool a, b =>
    match b.numeric? with
    | some b => sameNumber (.int (if a then 1 else 0)) b
    | none => pure false
  | .number a, b =>
    match b.numeric? with
    | some b => sameNumber a b
    | none => pure false
  | .text a, b | .textMember a, b => pure (b.text? == some a)
  | .bytes a, .bytes b => pure (a == b)
  | .list a, .list b => if a.length = b.length then sameList a b else pure false
  | .tuple a, .tuple b => if a.length = b.length then sameList a b else pure false
  | .set a, .set b => if a.length = b.length then within a b else pure false
  | .dict a, .dict b => if a.length = b.length then entriesWithin a b else pure false
  | .range a b c, .range d e f => pure (sameRange a b c d e f)
  | .date a, .date b => pure (a == b)
  | .dateTime a, .dateTime b => pure (a.same b)
  | .pattern a, .pattern b => pure (a.same b)
  | .member a, .member b => same a b
  | .entry code message details, .entry code' message' details' => do
    if !(← same code code') then return false
    if !(← same message message') then return false
    if details.length = details'.length then entriesWithin details details' else return false
  | .result valid value errors, .result valid' value' errors' => do
    if valid != valid' then return false
    if !(← same value value') then return false
    same errors errors'
  | _, _ => pure false
termination_by structural a => a

/-- Equality of two lists at every position they share. -/
def sameList : List Value → List Value → Attempt Bool
  | a :: as, b :: bs => do
    if ← same a b then sameList as bs else return false
  | _, _ => pure true
termination_by structural a => a

/-- Whether every value of the first list equals one of the second. -/
def within : List Value → List Value → Attempt Bool
  | [], _ => pure true
  | a :: as, bs => do
    if ← bs.anyM (same a ·) then within as bs else return false
termination_by structural a => a

/-- Whether every entry of the first mapping is one of the second. -/
def entriesWithin : List (Value × Value) → List (Value × Value) → Attempt Bool
  | [], _ => pure true
  | (key, value) :: rest, bs => do
    match ← bs.findM? (fun b => same key b.1) with
    | none => return false
    | some b => if ← same value b.2 then entriesWithin rest bs else return false
termination_by structural a => a

end

/-- Whether a value is equal to a member of a list; the list's members are asked first to last.  A member that
is the very same object counts only if it is equal, too. -/
def memberOf (value : Value) (items : List Value) : Attempt Bool := items.anyM (same value ·)

/-! ## Order -/

/-- Whether an order of two things satisfies a relation. -/
def holds : Comparison → Ordering → Bool
  | .less, o => o == .lt
  | .lessOrEqual, o => o != .gt
  | .greater, o => o == .gt

/-- Order of two numbers. -/
def compareNumbers (relation : Comparison) (a b : Number) : Attempt Bool :=
  match a.order? b with
  | some o => pure ((o.map (holds relation)).getD false)
  | none => refuse (.decimal .invalidOperation)

/-- Order of two lists of natural numbers at their first difference. -/
def compareCodes : List Nat → List Nat → Ordering
  | [], [] => .eq
  | [], _ :: _ => .lt
  | _ :: _, [] => .gt
  | a :: as, b :: bs => if a = b then compareCodes as bs else compare a b

/-- Order of two texts, character by character. -/
def compareTexts (a b : String) : Ordering :=
  compareCodes (a.toList.map Char.toNat) (b.toList.map Char.toNat)

/-- Order of two dates. -/
def compareDates (a b : Calendar.Date) : Ordering := compare a.dayNumber b.dayNumber

/-- The first list is a part of the second, or the other way round, as the relation asks. -/
def compareSets (relation : Comparison) (a b : List Value) : Attempt Bool :=
  match relation with
  | .less => if a.length < b.length then within a b else pure false
  | .lessOrEqual => if a.length ≤ b.length then within a b else pure false
  | .greater => if b.length < a.length then within b a else pure false

/-- Two values whose kinds have no order. -/
def unordered (relation : Comparison) (a b : Value) : Attempt Bool :=
  refuse (.unordered relation a.operandName b.operandName)

mutual

/-- Whether a relation holds between two values. -/
def compareWith (relation : Comparison) : Value → Value → Attempt Bool
  | .bool a, b =>
    match b.numeric? with
    | some n => compareNumbers relation (.int (if a then 1 else 0)) n
    | none => unordered relation (.bool a) b
  | .number a, b =>
    match b.numeric? with
    | some n => compareNumbers relation a n
    | none => unordered relation (.number a) b
  | .text a, b =>
    match b.text? with
    | some s => pure (holds relation (compareTexts a s))
    | none => unordered relation (.text a) b
  | .textMember a, b =>
    match b.text? with
    | some s => pure (holds relation (compareTexts a s))
    | none => unordered relation (.textMember a) b
  | .bytes a, .bytes b =>
    pure (holds relation (compareCodes (a.map UInt8.toNat) (b.map UInt8.toNat)))
  | .date a, .date b => pure (holds relation (compareDates a b))
  | .dateTime a, .dateTime b =>
    if a.offset.isSome == b.offset.isSome then
      pure (holds relation (compare a.instant b.instant))
    else refuse .mixedAwareness
  | .date _, .dateTime _ | .dateTime _, .date _ => refuse .dateWithTime
  | .set a, .set b => compareSets relation a b
  | .list a, .list b => compareLists relation a b
  | .tuple a, .tuple b => compareLists relation a b
  | a, b => unordered relation a b
termination_by structural a => a

/-- Whether a relation holds between two lists: between their first different items, or between their
lengths if one begins with the other. -/
def compareLists (relation : Comparison) : List Value → List Value → Attempt Bool
  | [], [] => pure (holds relation .eq)
  | [], _ :: _ => pure (holds relation .lt)
  | _ :: _, [] => pure (holds relation .gt)
  | a :: as, b :: bs => do
    if ← same a b then compareLists relation as bs else compareWith relation a b
termination_by structural a => a

end

/-! ## Keys -/

mutual

/-- Refuse a value that cannot be a key of a mapping or a member of a set. -/
def checkKey : Value → Attempt Unit
  | .number n => if n.isSignaling then refuse .signalingKey else pure ()
  | .list _ => refuse (.unhashable "list")
  | .dict _ => refuse (.unhashable "dict")
  | .set _ => refuse (.unhashable "set")
  | .result .. => refuse (.unhashable "ValidationResult")
  | .entry .. => refuse (.unhashable "mappingproxy")
  | .tuple items => checkKeys items
  | _ => pure ()

/-- Refuse a list with a value that cannot be a key. -/
def checkKeys : List Value → Attempt Unit
  | [] => pure ()
  | v :: rest => do
    checkKey v
    checkKeys rest

end

/-- Whether two keys are the same key.  Keys never fail to compare. -/
def sameKey (a b : Value) : Bool :=
  match same a b with
  | .ok answer => answer
  | .error _ => false

end Value

namespace Entries

/-- The entry under a key. -/
def find? (entries : Entries) (key : Value) : Option (Value × Value) :=
  List.find? (fun e => e.1.sameKey key) entries

/-- The value under a key. -/
def get? (entries : Entries) (key : Value) : Option Value := (entries.find? key).map (·.2)

/-- Whether there is an entry under a key. -/
def has (entries : Entries) (key : Value) : Bool := (entries.find? key).isSome

/-- The entries with the value under a key replaced, or with a new entry at the end. -/
def put : Entries → Value → Value → Entries
  | [], key, value => [(key, value)]
  | e :: rest, key, value =>
    if e.1.sameKey key then (e.1, value) :: rest else e :: put rest key value

/-- The entries with all of a second mapping put into them. -/
def update (entries more : Entries) : Entries := more.foldl (fun all e => put all e.1 e.2) entries

end Entries

namespace Value

/-- The list without the values that equal an earlier one. -/
def distinct (items : List Value) : List Value :=
  items.foldl (fun found v => if found.any (·.sameKey v) then found else found ++ [v]) []

/-- The members that a value yields one by one. -/
def items : Value → Attempt (List Value)
  | .list items | .tuple items | .set items => pure items
  | .dict entries => pure (entries.map (·.1))
  | .text s | .textMember s => pure (s.toList.map fun c => .ofChars [c])
  | .bytes b => pure (b.map fun x => .int x.toNat)
  | .range start stop step => pure (rangeItems start stop step)
  | v => refuse (.notIterable v.operandName)

/-- The number of members of a value. -/
def length : Value → Attempt Nat
  | .list items | .tuple items | .set items => pure items.length
  | .dict entries => pure entries.length
  | .text s | .textMember s => pure s.length
  | .bytes b => pure b.length
  | .range start stop step => pure (rangeLength start stop step)
  | v => refuse (.noLength v.operandName)

/-- The pair that a member of a sequence of pairs is. -/
def pair (index : Nat) (v : Value) : Attempt (Value × Value) := do
  let parts ← match v.items with
    | .ok parts => pure parts
    | .error _ => refuse (.notPair index)
  match parts with
  | [key, value] => return (key, value)
  | parts => refuse (.pairLength index parts.length)

/-- The entries that pairs make, the first of them being number `index`. -/
def entriesOfPairs (entries : Entries) : (index : Nat) → List Value → Attempt Entries
  | _, [] => pure entries
  | index, v :: rest => do
    let (key, value) ← pair index v
    checkKey key
    entriesOfPairs (entries.put key value) (index + 1) rest

/-- The mapping that a value makes: its entries if it is one, else the pairs that it holds. -/
def toEntries : Value → Attempt Entries
  | .dict entries => pure entries
  | v => do entriesOfPairs [] 0 (← v.items)

end RecordCheck.Value
