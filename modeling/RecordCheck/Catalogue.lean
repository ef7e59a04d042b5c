import RecordCheck.Rule.Argument

/-!
# Importing by path

A configuration names functions and other objects by import paths, `module:name` or `module.name`.  A
catalogue says which modules there are and what they hold.
-/

set_option autoImplicit false

namespace RecordCheck

/-- A module: its name, whether it may have modules under it, and what it holds. -/
structure Module where
  name : String
  isPackage : Bool
  objects : List (String × Argument)

/-- The modules that can be imported from. -/
abbrev Catalogue := List Module

/-- What a path refers to: a module and a name in it. -/
structure ImportPath where
  moduleName : List Char
  name : List Char

/-- A text divided at the first place where a character stands, if there is one. -/
def divideFirst (c : Char) (s : List Char) : List Char × List Char :=
  (s.takeWhile (· != c), (s.dropWhile (· != c)).drop 1)

/-- A text divided at the last place where a character stands; without one all of it is the second
part. -/
def divideLast (c : Char) (s : List Char) : List Char × List Char :=
  let (after, before) := divideFirst c s.reverse
  (before.reverse, after.reverse)

/-- The module and name that a path refers to, unless one of them is empty. -/
def readImportPath (path : List Char) : Option ImportPath :=
  let (moduleName, name) := divideFirst ':' path
  let (moduleName, name) := if name.isEmpty then divideLast '.' path else (moduleName, name)
  if moduleName.isEmpty || name.isEmpty then none else some ⟨moduleName, name⟩

/-- The names of a module and of the packages that it is in, outermost first. -/
def packagesOf (moduleName : List Char) : List String :=
  let parts := Text.splitOn ['.'] moduleName
  (List.range parts.length).map fun n =>
    String.ofList (['.'].intercalate (parts.take (n + 1)))

namespace Catalogue

/-- The module of a name. -/
def find? (c : Catalogue) (name : String) : Option Module := List.find? (fun m => m.name == name) c

/-- The module reached through a chain of names, each in the package before it; otherwise the reason why
there is none. -/
def follow (c : Catalogue) (parent : Option Module) : List String → Except String (Option Module)
  | [] => pure parent
  | name :: rest =>
    match c.find? name with
    | some m => follow c (some m) rest
    | none =>
      let missing := "No module named '" ++ name ++ "'"
      match parent with
      | some p =>
        if p.isPackage then throw missing
        else throw (missing ++ "; '" ++ p.name ++ "' is not a package")
      | none => throw missing

/-- The object that a name refers to in a module; otherwise the reason why there is none. -/
def objectIn (m : Module) (name : String) : Except String Argument :=
  match m.objects.lookup name with
  | some a => pure a
  | none => throw ("module '" ++ m.name ++ "' has no attribute '" ++ name ++ "'")

/-- The place and the object that a path refers to. -/
def locate (c : Catalogue) (path : String) : Attempt (String × String × Argument) :=
  match readImportPath path.toList with
  | none => throw (.configuration (.badImportPath path))
  | some p => do
    let moduleName := String.ofList p.moduleName
    let name := String.ofList p.name
    if p.moduleName.head? = some '.' then refuse (.relativeImport moduleName)
    let found := do
      match ← c.follow none (packagesOf p.moduleName) with
      | some m => objectIn m name
      | none => throw ("No module named '" ++ moduleName ++ "'")
    match found with
    | .ok a => return (moduleName, name, a)
    | .error reason => throw (.configuration (.cannotImport path reason))

/-- The object that a path refers to. -/
def importObject (c : Catalogue) (path : String) : Attempt Argument := do
  return (← c.locate path).2.2

/-- What an argument refers to: a text is an import path, anything else stands for itself. -/
def resolve (c : Catalogue) (a : Argument) : Attempt Argument :=
  match a with
  | .value v =>
    match v.text? with
    | some path => c.importObject path
    | none => pure a
  | a => pure a

end Catalogue

end RecordCheck
