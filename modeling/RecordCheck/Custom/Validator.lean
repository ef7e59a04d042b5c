import RecordCheck.Hook
import RecordCheck.Value.Text

/-!
# Custom validators

A custom validator checks a value by the caller's own rules.  It is registered as a function of up to
three arguments (the value, the context, the rule), or as an object that takes all of them.  Either form
is brought into the same shape when it is registered, and everything else is refused then.
-/

set_option autoImplicit false

namespace RecordCheck.Custom

/-- What a rule tells the custom validator that it refers to. -/
structure Request where
  typeName : Value
  options : Entries
  required : Value

/-- What a function receives: the value, what it takes besides, and the number of arguments. -/
structure Received where
  value : Value
  context : Option Context
  request : Option Request
  count : Nat

/-- Something that may be registered as a custom validator: a function with a number of positional
parameters, perhaps open to more; an object that validates; a class of such objects that leaves
validating undefined; something that fails while its shape is found out, as a class does that makes no
object; or something of another kind. -/
inductive Candidate where
  | function (parameters : Nat) (isOpen : Bool) (run : Received → Attempt Value)
  | object (run : Received → Attempt Value)
  | abstractClass
  | faulty (fault : Fault)
  | other (kind : String)

/-- A custom validator in the shape in which it is called. -/
abbrev Validator := Value → Context → Request → Attempt Value

namespace Candidate

/-- The arguments for a function that takes the first `count` of value, context and rule. -/
def receive (count : Nat) (value : Value) (context : Context) (request : Request) : Received where
  value
  context := if 2 ≤ count then some context else none
  request := if 3 ≤ count then some request else none
  count

/-- The number of arguments that a function is called with; one open to more gets all three. -/
def arity (parameters : Nat) (isOpen : Bool) : Nat := if isOpen then 3 else parameters

/-- The validator that a candidate for a name is. -/
def toValidator (name : Value) : Candidate → Attempt Validator
  | function parameters isOpen run => do
    let count := arity parameters isOpen
    if 1 ≤ count ∧ count ≤ 3 then
      return fun value context request => run (receive count value context request)
    else throw (.validator (.unsupportedArity (← name.textOf) name count))
  | object run => pure fun value context request => run (receive 3 value context request)
  | abstractClass => refuse .abstractValidator
  | faulty fault => throw fault
  | other kind => do throw (.validator (.unsupportedValidator (← name.textOf) name kind))

end Candidate

end RecordCheck.Custom
