/-!
# Regular expressions

The syntax tree of a regular expression.  A sequence is a list of nodes.  Flags may be switched on and
off for a group, so they stand in the tree; what a node matches depends on the flags in force there.
-/

set_option autoImplicit false

namespace RecordCheck.Regex

/-- A flag of a pattern. -/
inductive Flag where
  | ascii
  | ignoreCase
  | locale
  | multiline
  | dotAll
  | template
  | unicode
  | verbose
  deriving DecidableEq, Repr

/-- A set of flags. -/
abbrev Flags := List Flag

/-- Sets of flags are compared and shown without regard to the order they were switched on. -/
def Flags.has (flags : Flags) (f : Flag) : Bool := List.elem f flags

/-- The class of characters named by an escape. -/
inductive Category where
  | digit
  | space
  | word
  deriving DecidableEq, Repr

/-- A member of a character set. -/
inductive SetItem where
  | code (code : Nat)
  | range (first last : Nat)
  | category (category : Category) (negated : Bool)
  deriving DecidableEq, Repr

/-- A position in a text. -/
inductive Anchor where
  | lineStart
  | lineEnd
  | textStart
  | textEnd
  | boundary
  | nonBoundary
  deriving DecidableEq, Repr

/-- How many repetitions are tried first: the most, the fewest, or the most without giving any back. -/
inductive Greed where
  | greedy
  | lazy
  | possessive
  deriving DecidableEq, Repr

/-- Least and greatest number of characters that a node can match. -/
structure Width where
  least : Nat
  greatest : Nat
  deriving DecidableEq, Repr

/-- A node of a regular expression. -/
inductive Node where
  | code (code : Nat) (negated : Bool)
  | any
  | set (items : List SetItem) (negated : Bool)
  | anchor (anchor : Anchor)
  | group (index : Option Nat) (on off : Flags) (body : List Node)
  | atomic (body : List Node)
  | branch (alternatives : List (List Node))
  | repetition (greed : Greed) (least : Nat) (greatest : Option Nat) (body : List Node)
  | look (behind negated : Bool) (body : List Node)
  | backref (index : Nat) (width : Width)
  | conditional (index : Nat) (present absent : List Node)
  deriving Repr, Inhabited

/-- A sequence of nodes. -/
abbrev Sequence := List Node

/-- A compiled pattern: its text, the flags in force for the whole of it, and its syntax tree. -/
structure Pattern where
  source : String
  flags : Flags
  body : Sequence
  deriving Repr, Inhabited

/-- Whether two patterns are the same: they have the same text and flags. -/
def Pattern.same (p q : Pattern) : Bool :=
  p.source == q.source && p.flags.all q.flags.has && q.flags.all p.flags.has

/-! ## Width -/

/-- Widths are not told apart from this one on. -/
def unbounded : Nat := Nat.pow 2 64

/-- Repetition counts must be below this limit. -/
def repetitionLimit : Nat := 4294967295

namespace Width

/-- The width of nothing. -/
def zero : Width := ⟨0, 0⟩

/-- The width of one character. -/
def one : Width := ⟨1, 1⟩

/-- A width with both ends cut off at `unbounded`. -/
def clip (w : Width) : Width := ⟨min w.least unbounded, min w.greatest unbounded⟩

/-- The width of one after the other. -/
def append (v w : Width) : Width := ⟨v.least + w.least, v.greatest + w.greatest⟩

/-- The width of one or the other. -/
def either (v w : Width) : Width := ⟨min v.least w.least, max v.greatest w.greatest⟩

/-- The width of repetitions. -/
def repeated (w : Width) (least : Nat) (greatest : Option Nat) : Width :=
  ⟨w.least * least,
    match greatest with
    | some n => w.greatest * n
    | none => if w.greatest = 0 then 0 else unbounded⟩

end Width

mutual

/-- The width of a node. -/
def Node.width : Node → Width
  | .code .. | .any | .set .. => .one
  | .anchor _ | .look .. => .zero
  | .group _ _ _ body | .atomic body => sequenceWidth body
  | .branch alternatives => branchWidth alternatives
  | .repetition _ least greatest body => (sequenceWidth body).repeated least greatest
  | .backref _ width => width
  | .conditional _ present absent => (sequenceWidth present).either (sequenceWidth absent)

/-- The width of a sequence. -/
def sequenceWidth : List Node → Width
  | [] => .zero
  | node :: rest => (node.width.append (sequenceWidth rest)).clip

/-- The width of alternatives. -/
def branchWidth : List (List Node) → Width
  | [] => .zero
  | [body] => sequenceWidth body
  | body :: rest => (sequenceWidth body).either (branchWidth rest)

end

mutual

/-- Whether every look-behind in a node has a body of fixed width. -/
def Node.looksBehindFixed : Node → Bool
  | .look behind _ body =>
    (!behind || (sequenceWidth body).least == (sequenceWidth body).greatest) &&
      sequenceLooksBehindFixed body
  | .group _ _ _ body | .atomic body | .repetition _ _ _ body => sequenceLooksBehindFixed body
  | .branch alternatives => branchLooksBehindFixed alternatives
  | .conditional _ present absent =>
    sequenceLooksBehindFixed present && sequenceLooksBehindFixed absent
  | _ => true

/-- Whether every look-behind in a sequence has a body of fixed width. -/
def sequenceLooksBehindFixed : List Node → Bool
  | [] => true
  | node :: rest => node.looksBehindFixed && sequenceLooksBehindFixed rest

/-- Whether every look-behind in some alternatives has a body of fixed width. -/
def branchLooksBehindFixed : List (List Node) → Bool
  | [] => true
  | body :: rest => sequenceLooksBehindFixed body && branchLooksBehindFixed rest

end

end RecordCheck.Regex
