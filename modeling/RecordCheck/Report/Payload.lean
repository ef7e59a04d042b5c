import RecordCheck.Report.Tree

/-!
# Payloads

The payload of a failed validation is made from its error tree: every message is translated, the tree is
laid out by a formatter, and a payload that is a mapping gets the flat form of the tree added to it.  A
formatter may edit the tree that it is given, in any way; the flat form is that of what it leaves.
-/

set_option autoImplicit false

namespace RecordCheck

/-- Gives the message for a code, a message and details. -/
abbrev Translator := Value → Value → Entries → Attempt Value

/-- What a formatter gives back: the payload, whether it is a mapping that may be added to, and what has
become of the tree that it was given. -/
structure Formatted where
  payload : Value
  isOpen : Bool
  tree : Value

/-- Lays out a tree. -/
abbrev Formatter := ErrorTree → Attempt Formatted

/-- A tree with its entries written as mappings. -/
def ErrorTree.toDict (t : ErrorTree) : Value :=
  t.toValue fun entries => .list (entries.map Entry.toDict)

/-- The translator that keeps every message. -/
def Translator.identity : Translator := fun _ message _ => pure message

/-- The formatter that puts the tree under a general message. -/
def Formatter.standard : Formatter := fun t =>
  pure ⟨.dict [(.text "message", .text "Validation failed"), (.text "errors", ErrorTree.toDict t)],
    true, ErrorTree.toDict t⟩

/-- How error trees become payloads. -/
structure Aggregator where
  formatter : Formatter
  translator : Translator

namespace Aggregator

/-- The name under which a payload holds the flat form of its tree. -/
def flatKey : String := "errors_flat"

/-- An entry with its message translated. -/
def render (a : Aggregator) (e : Entry) : Attempt Entry := do
  return { e with message := ← a.translator e.code e.message e.details }

/-- A tree with its messages translated. -/
def translate (a : Aggregator) (t : ErrorTree) : Attempt ErrorTree :=
  t.traverse fun entries => entries.mapM a.render

/-- A payload with the flat form of a tree added. -/
def addFlat (payload : Value) (flat : Entries) : Value :=
  match payload with
  | .dict entries => .dict (Entries.put entries (.text flatKey) (.dict flat))
  | v => v

/-- The payload for a translated tree. -/
def layOut (a : Aggregator) (translated : ErrorTree) : Attempt Value := do
  let formatted ← a.formatter translated
  if formatted.isOpen then return addFlat formatted.payload (← flattenValue "" formatted.tree)
  else return formatted.payload

/-- The payload for a tree. -/
def build (a : Aggregator) (t : ErrorTree) : Attempt Value := do a.layOut (← a.translate t)

/-- The entry that an item of a leaf must be. -/
def entryOfItem (item : Value) : Attempt Entry :=
  match Entry.ofValue? item with
  | some e => pure e
  | none => refuse (.noMember item.operandName "code")

/-- A leaf given as a value, translated. -/
def translateLeaf (a : Aggregator) (leaf : Value) : Attempt (List Entry) := do
  (← leaf.items).mapM fun item => do a.render (← entryOfItem item)

/-- The payload for a tree given as a value. -/
def buildValue (a : Aggregator) (tree : Value) : Attempt Value := do
  a.layOut (← (← treeEntries tree).traverse a.translateLeaf)

end Aggregator

end RecordCheck
