import RecordCheck.Report.Entry

/-!
# Error trees

Errors are collected in a tree shaped like the record: a leaf holds what was found at one place, a node
has a child for every field or element with errors below it.  Flattening a tree addresses every leaf by
the path to it, the names on the way joined by dots.
-/

set_option autoImplicit false

namespace RecordCheck

/-- A tree with named children. -/
inductive Tree (α : Type) where
  | leaf (content : α)
  | node (children : List (Value × Tree α))

instance {α : Type} : Inhabited (Tree α) := ⟨.node []⟩

/-- A tree of errors: a leaf holds the entries of one place. -/
abbrev ErrorTree := Tree (List Entry)

namespace Tree

variable {α β : Type}

mutual

/-- The tree with every leaf replaced, from left to right. -/
def traverse (f : α → Attempt β) : Tree α → Attempt (Tree β)
  | leaf content => do return leaf (← f content)
  | node children => do return node (← traverseChildren f children)

/-- Children with every leaf replaced, from left to right. -/
def traverseChildren (f : α → Attempt β) :
    List (Value × Tree α) → Attempt (List (Value × Tree β))
  | [] => pure []
  | (key, t) :: rest => do return (key, ← traverse f t) :: (← traverseChildren f rest)

end

mutual

/-- A tree as a value. -/
def toValue (f : α → Value) : Tree α → Value
  | leaf content => f content
  | node children => .dict (childrenToEntries f children)

/-- Children as the entries of a mapping. -/
def childrenToEntries (f : α → Value) : List (Value × Tree α) → Entries
  | [] => []
  | (key, t) :: rest => (key, toValue f t) :: childrenToEntries f rest

end

mutual

/-- The tree that a value is: a mapping is a node, anything else a leaf. -/
def ofValue : Value → Tree Value
  | .dict entries => node (childrenOf entries)
  | v => leaf v

/-- The children that entries are. -/
def childrenOf : List (Value × Value) → List (Value × Tree Value)
  | [] => []
  | (key, v) :: rest => (key, ofValue v) :: childrenOf rest

end

/-! ## Paths -/

/-- The path of a child: its name, after the path of its parent if that is not empty. -/
def childPath (parent : String) (key : Value) : Attempt String := do
  let name ← key.textOf
  return if parent = "" then name else parent ++ "." ++ name

mutual

/-- Every leaf with its path, depth first; a leaf is read when it is reached. -/
def leavesUnder (read : α → Attempt β) (path : String) : Tree α → Attempt (List (String × β))
  | leaf content => do return [(path, ← read content)]
  | node children => leavesOf read path children

/-- Every leaf under children with its path, depth first. -/
def leavesOf (read : α → Attempt β) (path : String) :
    List (Value × Tree α) → Attempt (List (String × β))
  | [] => pure []
  | (key, t) :: rest => do
    let own ← leavesUnder read (← childPath path key) t
    return own ++ (← leavesOf read path rest)

end

/-- The mapping of paths to leaves; a path that occurs again keeps its place and takes the later
leaf. -/
def flatMap (leaves : List (String × Value)) : Entries :=
  leaves.foldl (fun all l => Entries.put all (.text l.1) l.2) []

/-- A tree as one flat mapping, with a path before all others. -/
def flattenWith (read : α → Attempt (List Value)) (path : String) (t : Tree α) :
    Attempt Entries := do
  let leaves ← leavesUnder (fun a => return .list (← read a)) path t
  return flatMap leaves

/-- The messages of the entries of every leaf, by path. -/
def flatten (t : ErrorTree) : Attempt Entries :=
  flattenWith (fun entries => pure (entries.map (·.message))) "" t

end Tree

/-! ## Trees read from values -/

/-- The message of an item in a leaf: an entry has one, a mapping may hold one under that name. -/
def messageOfItem : Value → Attempt Value
  | .entry _ message _ => pure message
  | .dict entries =>
    match Entries.get? entries (.text "message") with
    | some m => pure m
    | none => refuse (.missingKey "'message'")
  | .text _ | .textMember _ => refuse (.badIndex "str" "str")
  | .bytes _ => refuse (.badIndex "bytes" "str")
  | .list _ => refuse (.badIndex "list" "str")
  | .tuple _ => refuse (.badIndex "tuple" "str")
  | .range .. => refuse (.badIndex "range" "str")
  | v => refuse (.notSubscriptable v.operandName)

/-- The messages of a leaf. -/
def messagesOfLeaf (leaf : Value) : Attempt (List Value) := do
  (← leaf.items).mapM messageOfItem

/-- The mapping that a tree must be, given as a value. -/
def treeEntries (v : Value) : Attempt (Tree Value) :=
  match v with
  | .dict _ => pure (Tree.ofValue v)
  | v => refuse (.noMember v.operandName "items")

/-- A tree given as a value, flattened. -/
def flattenValue (path : String) (v : Value) : Attempt Entries := do
  Tree.flattenWith messagesOfLeaf path (← treeEntries v)

end RecordCheck
