import RecordCheck.Regex.Error
import RecordCheck.Number.Numeral
import RecordCheck.Text.Alphanumeric

/-!
# Reading patterns

From the text of a pattern to its syntax tree.  The text is a list of tokens, single characters and
escapes of a backslash with the character after it.  Every step of the reader takes at least one token
or goes one level down, so a bound computed from the number of tokens is never reached.
-/

set_option autoImplicit false

namespace RecordCheck.Regex

open Text

/-! ## Tokens -/

/-- A token of a pattern.  A backslash at the very end is a token of its own that nothing accepts. -/
inductive Token where
  | plain (c : Char)
  | escape (c : Char)
  | dangling
  deriving DecidableEq, Repr

/-- The characters of a token. -/
def Token.text : Token → List Char
  | .plain c => [c]
  | .escape c => ['\\', c]
  | .dangling => ['\\']

/-- The tokens of a text. -/
def tokens : List Char → List Token
  | [] => []
  | ['\\'] => [.dangling]
  | '\\' :: c :: rest => .escape c :: tokens rest
  | c :: rest => .plain c :: tokens rest

/-- What the reader knows at a point of the pattern: the tokens ahead and the position of the first of
them; the width of each group closed so far, none for an open one; the named groups; the flags of the
whole pattern; the number of groups at the beginning of the look-behind being read; and the groups
that conditionals refer to, with the positions of the references. -/
structure Input where
  source : List Char
  ahead : List Token
  position : Nat
  widths : List (Option Width)
  names : List (List Char × Nat)
  flags : Flags
  behindFrom : Option Nat
  references : List (Nat × Nat)

/-- A step of the reader. -/
abbrev Read (α : Type) := StateT Input (Except Error) α

/-- Fail with a problem at the current position, less an offset. -/
def failAt {α : Type} (problem : Problem) (offset : Nat) : Read α := do
  let i ← get
  throw ⟨problem, i.source, some (i.position - offset)⟩

/-- Fail with a problem at a given position. -/
def failFrom {α : Type} (problem : Problem) (position : Nat) : Read α := do
  throw ⟨problem, (← get).source, some position⟩

/-- A dangling backslash is refused as soon as it is next. -/
def checkDangling : Read Unit := do
  let i ← get
  match i.ahead with
  | .dangling :: _ => throw ⟨.escapeAtEnd, i.source, some (i.source.length - 1)⟩
  | _ => pure ()

/-- The next token, without taking it. -/
def peek : Read (Option Token) := return (← get).ahead.head?

/-- Take the next token. -/
def take : Read (Option Token) := do
  let i ← get
  match i.ahead with
  | [] => return none
  | t :: rest =>
    set { i with ahead := rest, position := i.position + t.text.length }
    checkDangling
    return some t

/-- Take the next token if it is the given character. -/
def accept (c : Char) : Read Bool := do
  if (← peek) = some (.plain c) then
    let _ ← take
    return true
  else return false

/-- Take at most `n` single characters of a class. -/
def takeWhile (p : Char → Bool) : Nat → Read (List Char)
  | 0 => return []
  | n + 1 => do
    match ← peek with
    | some (.plain c) =>
      if p c then
        let _ ← take
        return c :: (← takeWhile p n)
      else return []
    | _ => return []

/-- The text up to a terminator, which is taken too.  `fuel` bounds the number of tokens. -/
def takeUntil (terminator : Char) (what : String) : (fuel : Nat) → List Char → Read (List Char)
  | 0, _ => failAt .tooDeep 0
  | fuel + 1, found => do
    match ← take with
    | none =>
      if found.isEmpty then failAt (.missingName what) 0
      else failAt (.unterminatedName terminator) found.length
    | some t =>
      if t = .plain terminator then
        if found.isEmpty then failAt (.missingName what) 1 else return found
      else takeUntil terminator what fuel (found ++ t.text)

/-- A name up to a terminator. -/
def takeName (terminator : Char) (what : String) : Read (List Char) := do
  takeUntil terminator what ((← get).ahead.length + 1) []

/-! ## Groups -/

/-- The number of groups opened so far, the whole pattern included. -/
def groupCount : Read Nat := return (← get).widths.length

/-- The width of a group that is closed. -/
def closedWidth? (index : Nat) : Read (Option Width) := return ((← get).widths[index]?).join

/-- Inside a look-behind only groups closed before it may be referred to. -/
def checkBehind (index : Nat) : Read Unit := do
  match (← get).behindFrom with
  | none => pure ()
  | some first =>
    if (← closedWidth? index).isNone then failAt .openGroup 0
    else if first ≤ index then failAt .groupInLookbehind 0
    else pure ()

/-- A name of a group: letters, digits and underscores, not beginning with a digit. -/
def isGroupName : List Char → Bool
  | [] => false
  | c :: rest => isWordChar c && !isDigit c && rest.all isWordChar

/-- Refuse a text that is no name of a group. -/
def checkGroupName (name : List Char) : Read Unit :=
  if isGroupName name then pure () else failAt (.badGroupName name) (name.length + 1)

/-- Open a group, with a name or without. -/
def openGroup (name : Option (List Char)) : Read Nat := do
  let i ← get
  let index := i.widths.length
  set { i with widths := i.widths ++ [none] }
  match name with
  | none => return index
  | some name =>
    match i.names.lookup name with
    | some earlier => failAt (.groupRedefined name index earlier) (name.length + 1)
    | none =>
      modify fun i => { i with names := (name, index) :: i.names }
      return index

/-- Close a group with a body of this width. -/
def closeGroup (index : Nat) (width : Width) : Read Unit :=
  modify fun i => { i with widths := i.widths.set index (some width) }

/-! ## Escapes -/

/-- Whether a character is an octal digit. -/
def isOctal (c : Char) : Bool := '0' ≤ c && c ≤ '7'

/-- Whether a character is an ASCII digit. -/
def isAsciiDigit (c : Char) : Bool := '0' ≤ c && c ≤ '9'

/-- Whether a character is an ASCII letter. -/
def isAsciiLetter (c : Char) : Bool := ('a' ≤ c && c ≤ 'z') || ('A' ≤ c && c ≤ 'Z')

/-- The number that digits denote in a base. -/
def ofBase (base : Nat) (ds : List Char) : Nat :=
  ds.foldl (fun n c => base * n + (hexValue? c).getD 0) 0

/-- The control characters with an escape of one letter. -/
def control? : Char → Option Nat
  | 'a' => some 7
  | 'f' => some 12
  | 'n' => some 10
  | 'r' => some 13
  | 't' => some 9
  | 'v' => some 11
  | '\\' => some 92
  | _ => none

/-- The character classes with an escape of one letter. -/
def category? : Char → Option (Category × Bool)
  | 'd' => some (.digit, false)
  | 'D' => some (.digit, true)
  | 's' => some (.space, false)
  | 'S' => some (.space, true)
  | 'w' => some (.word, false)
  | 'W' => some (.word, true)
  | _ => none

/-- The positions with an escape of one letter. -/
def anchor? : Char → Option Anchor
  | 'A' => some .textStart
  | 'Z' => some .textEnd
  | 'b' => some .boundary
  | 'B' => some .nonBoundary
  | _ => none

/-- A character given by exactly `count` hexadecimal digits. -/
def hexEscape (letter : Char) (count : Nat) : Read Nat := do
  let ds ← takeWhile (fun c => (hexValue? c).isSome) count
  let escape := '\\' :: letter :: ds
  if ds.length < count then failAt (.incompleteEscape escape) escape.length
  else
    let code := ofBase 16 ds
    if 0x10FFFF < code then failAt (.badEscape escape) escape.length else return code

/-- A character given by its name; no names are known. -/
def namedEscape : Read Nat := do
  if ← accept '{' then
    let name ← takeName '}' "character name"
    failAt (.undefinedCharacterName name) (name.length + 4)
  else failAt .missingBrace 0

/-- The escapes of characters by code, shared by sets and the rest of a pattern. -/
def codeEscape? (c : Char) : Option (Read Nat) :=
  match c with
  | 'x' => some (hexEscape 'x' 2)
  | 'u' => some (hexEscape 'u' 4)
  | 'U' => some (hexEscape 'U' 8)
  | 'N' => some namedEscape
  | _ => none

/-- Any other escaped character stands for itself, unless it is an ASCII letter. -/
def selfEscape (c : Char) : Read Nat :=
  if isAsciiLetter c then failAt (.badEscape ['\\', c]) 2 else return c.toNat

/-- An octal escape in a set: up to three digits, the first given. -/
def octalEscape (c : Char) : Read Nat := do
  let ds := c :: (← takeWhile isOctal 2)
  let code := ofBase 8 ds
  if 0o377 < code then failAt (.largeOctal ('\\' :: ds)) (ds.length + 1) else return code

/-- The escape of a character inside a set. -/
def setEscape (c : Char) : Read SetItem := do
  if c = 'b' then return .code 8
  match control? c, category? c, codeEscape? c with
  | some code, _, _ => return .code code
  | _, some (kind, negated), _ => return .category kind negated
  | _, _, some read => return .code (← read)
  | _, _, _ =>
    if isOctal c then return .code (← octalEscape c)
    else if isAsciiDigit c then failAt (.badEscape ['\\', c]) 2
    else return .code (← selfEscape c)

/-- A reference to the group whose digits are given. -/
def groupReference (ds : List Char) : Read Node := do
  let index := ofBase 10 ds
  if index < (← groupCount) then
    match ← closedWidth? index with
    | none => failAt .openGroup (ds.length + 1)
    | some width =>
      checkBehind index
      return .backref index width
  else failAt (.invalidGroup index) ds.length

/-- An escape that begins with a digit other than zero: three octal digits are a character, one or two
digits are a group. -/
def digitEscape (c : Char) : Read Node := do
  match ← takeWhile isAsciiDigit 1 with
  | [] => groupReference [c]
  | second =>
    let ds := c :: second
    if ds.all isOctal then
      match ← takeWhile isOctal 1 with
      | [] => groupReference ds
      | third =>
        let ds := ds ++ third
        let code := ofBase 8 ds
        if 0o377 < code then failAt (.largeOctal ('\\' :: ds)) (ds.length + 1)
        else return .code code false
    else groupReference ds

/-- The escape of a character outside a set. -/
def escape (c : Char) : Read Node := do
  match anchor? c, category? c, control? c, codeEscape? c with
  | some anchor, _, _, _ => return .anchor anchor
  | _, some (kind, negated), _, _ => return .set [.category kind negated] false
  | _, _, some code, _ => return .code code false
  | _, _, _, some read => return .code (← read) false
  | _, _, _, _ =>
    if c = '0' then return .code (ofBase 8 (← takeWhile isOctal 2)) false
    else if isAsciiDigit c then digitEscape c
    else return .code (← selfEscape c) false

/-! ## Sets -/

/-- The member of a set that a token stands for. -/
def setMember : Token → Read SetItem
  | .escape c => setEscape c
  | .plain c => return .code c.toNat
  | .dangling => failAt .escapeAtEnd 0

/-- The members of a set up to its closing bracket.  `start` is the position of the opening one. -/
def setMembers (start : Nat) : (fuel : Nat) → List SetItem → Read (List SetItem)
  | 0, _ => failAt .tooDeep 0
  | fuel + 1, found => do
    match ← take with
    | none => failFrom .unterminatedSet start
    | some this =>
      if this = .plain ']' ∧ found ≠ [] then return found
      let first ← setMember this
      if ← accept '-' then
        match ← take with
        | none => failFrom .unterminatedSet start
        | some that =>
          if that = .plain ']' then return found ++ [first, .code '-'.toNat]
          let last ← setMember that
          let refuse : Read (List SetItem) :=
            failAt (.badRange this.text that.text) (this.text.length + 1 + that.text.length)
          match first, last with
          | .code low, .code high =>
            if high < low then refuse else setMembers start fuel (found ++ [.range low high])
          | _, _ => refuse
      else setMembers start fuel (found ++ [first])

/-- A set whose opening bracket has been taken. -/
def readSet : Read Node := do
  let start := (← get).position - 1
  let negated ← accept '^'
  let items ← setMembers start ((← get).ahead.length + 1) []
  return .set items negated

/-! ## Repetitions -/

/-- A repetition count in braces; `none` if the braces hold something else and stand for themselves. -/
def readCounts : Read (Option (Nat × Option Nat)) := do
  let entry ← get
  let start := entry.position
  let count := entry.ahead.length
  let low ← takeWhile isAsciiDigit count
  let high ← if ← accept ',' then takeWhile isAsciiDigit count else pure low
  if !(← accept '}') then
    set entry
    return none
  let least := ofBase 10 low
  let greatest := ofBase 10 high
  let tooLarge : Read (Option (Nat × Option Nat)) := do
    throw ⟨.largeRepetition, entry.source, none⟩
  if repetitionLimit ≤ least then tooLarge
  else if high.isEmpty then return some (least, none)
  else if repetitionLimit ≤ greatest then tooLarge
  else if greatest < least then failFrom .leastOverGreatest start
  else return some (least, some greatest)

/-- The counts that a repetition character stands for. -/
def repetitionCounts (c : Char) : Read (Option (Nat × Option Nat)) := do
  match c with
  | '?' => return some (0, some 1)
  | '*' => return some (0, none)
  | '+' => return some (1, none)
  | _ => if (← peek) = some (.plain '}') then return none else readCounts

/-- Repeat the last node read, which is first in the list.  `start` is the position after the
repetition character. -/
def repeatLast (start : Nat) (least : Nat) (greatest : Option Nat) :
    List Node → Read (List Node)
  | [] | .anchor _ :: _ => failFrom .nothingToRepeat (start - 1)
  | .repetition .. :: _ => failFrom .multipleRepeat (start - 1)
  | node :: earlier => do
    let body := match node with
      | .group none [] [] body => body
      | node => [node]
    let greed ← if ← accept '?' then pure .lazy
      else if ← accept '+' then pure .possessive
      else pure Greed.greedy
    return .repetition greed least greatest body :: earlier

/-! ## Flags -/

/-- The flag of a letter. -/
def flag? : Token → Option Flag
  | .plain 'a' => some .ascii
  | .plain 'i' => some .ignoreCase
  | .plain 'L' => some .locale
  | .plain 'm' => some .multiline
  | .plain 's' => some .dotAll
  | .plain 't' => some .template
  | .plain 'u' => some .unicode
  | .plain 'x' => some .verbose
  | _ => none

/-- The flags of which only one can be in force. -/
def isTypeFlag (f : Flag) : Bool := f = .ascii || f = .locale || f = .unicode

/-- A flag set with one more. -/
def withFlag (flags : Flags) (f : Flag) : Flags := if flags.has f then flags else flags ++ [f]

/-- Fail on a token that is no flag: a letter is an unknown flag, after anything else the flags lack
their end. -/
def refuseFlag {α : Type} (t : Token) (otherwise : Problem) : Read α :=
  let isLetter : Bool := match t with
    | .plain c => isAlphanumeric c && !isDigit c
    | _ => false
  failAt (if isLetter then .unknownFlag else otherwise) t.text.length

/-- Flags to switch on, the first token taken, up to the token that ends them. -/
def flagsOn : (fuel : Nat) → Flags → Token → Read (Flags × Char)
  | 0, _, _ => failAt .tooDeep 0
  | fuel + 1, on, t => do
    match flag? t with
    | none => refuseFlag t .missingFlagEnd
    | some f =>
      if f = .locale then failAt .localeFlag 0
      let on := withFlag on f
      if isTypeFlag f && (on.filter isTypeFlag).length > 1 then failAt .incompatibleFlags 0
      match ← take with
      | none => failAt .missingFlagEnd 0
      | some (.plain ')') => return (on, ')')
      | some (.plain '-') => return (on, '-')
      | some (.plain ':') => return (on, ':')
      | some t => flagsOn fuel on t

/-- Flags to switch off, the first token taken, up to a colon. -/
def flagsOff : (fuel : Nat) → Flags → Token → Problem → Read Flags
  | 0, _, _, _ => failAt .tooDeep 0
  | fuel + 1, off, t, missing => do
    match flag? t with
    | none => refuseFlag t missing
    | some f =>
      if isTypeFlag f then failAt .typeFlagOff 0
      let off := withFlag off f
      match ← take with
      | none => failAt .missingColon 0
      | some (.plain ':') => return off
      | some t => flagsOff fuel off t .missingColon

/-- Inline flags, the first token taken: flags of the whole pattern give `none`, flags of a group the
ones to switch on and off. -/
def inlineFlags (t : Token) : Read (Option (Flags × Flags)) := do
  let fuel := (← get).ahead.length + 2
  let (on, ending) : Flags × Char ← if t = .plain '-' then pure ([], '-') else flagsOn fuel [] t
  if ending = ')' then
    modify fun i => { i with flags := on.foldl withFlag i.flags }
    return none
  if on.has .template then failAt .globalFlagOn 1
  let off : Flags ← if ending = '-' then
      match ← take with
      | none => failAt .missingFlag 0
      | some t => flagsOff fuel [] t .missingFlag
    else pure []
  if off.has .template then failAt .globalFlagOff 1
  if on.any off.has then failAt .contradictoryFlags 1
  return some (on, off)

/-! ## Groups and sequences -/

/-- What an opening parenthesis begins. -/
inductive Opening where
  | capture (name : Option (List Char))
  | scoped (on off : Flags)
  | atomic
  | look (behind negated : Bool)
  | conditional (index : Nat)
  | node (node : Node)
  | nothing

/-- Skip a comment up to its closing parenthesis. -/
def skipComment (start : Nat) : (fuel : Nat) → Read Unit
  | 0 => failAt .tooDeep 0
  | fuel + 1 => do
    match ← take with
    | none => failFrom .unterminatedComment start
    | some (.plain ')') => pure ()
    | some _ => skipComment start fuel

/-- A reference to a group by name. -/
def namedReference : Read Node := do
  let name ← takeName ')' "group name"
  checkGroupName name
  match (← get).names.lookup name with
  | none => failAt (.unknownGroupName name) (name.length + 1)
  | some index =>
    match ← closedWidth? index with
    | none => failAt .openGroup (name.length + 1)
    | some width =>
      checkBehind index
      return .backref index width

/-- The group that a conditional asks for, by name or number. -/
def conditionalGroup : Read Nat := do
  let name ← takeName ')' "group name"
  let offset := name.length + 1
  let index ←
    if isGroupName name then
      match (← get).names.lookup name with
      | none => failAt (.unknownGroupName name) offset
      | some index => pure index
    else match Number.lenientInteger? name with
      | none => failAt (.badGroupName name) offset
      | some (negative, ds) =>
        let index := Number.ofDigits ds
        if negative && index != 0 then failAt (.badGroupName name) offset
        else if index = 0 then failAt .badGroupNumber offset
        else
          modify fun i => { i with references := i.references ++ [(index, i.position - offset)] }
          pure index
  checkBehind index
  return index

/-- What follows an opening parenthesis at `start`.  Flags of the whole pattern are allowed only at its
very beginning. -/
def readOpening (start : Nat) (atStart : Bool) : Read Opening := do
  if !(← accept '?') then return .capture none
  match ← take with
  | none => failAt .unexpectedEnd 0
  | some (.plain 'P') =>
    if ← accept '<' then
      let name ← takeName '>' "group name"
      checkGroupName name
      return .capture (some name)
    else if ← accept '=' then return .node (← namedReference)
    else match ← take with
      | none => failAt .unexpectedEnd 0
      | some t => failAt (.unknownExtension ('P' :: t.text)) (t.text.length + 2)
  | some (.plain ':') => return .scoped [] []
  | some (.plain '#') =>
    skipComment start ((← get).ahead.length + 1)
    return .nothing
  | some (.plain '=') => return .look false false
  | some (.plain '!') => return .look false true
  | some (.plain '<') =>
    match ← take with
    | none => failAt .unexpectedEnd 0
    | some (.plain '=') => return .look true false
    | some (.plain '!') => return .look true true
    | some t => failAt (.unknownExtension ('<' :: t.text)) (t.text.length + 2)
  | some (.plain '(') => return .conditional (← conditionalGroup)
  | some (.plain '>') => return .atomic
  | some t =>
    if (flag? t).isSome ∨ t = .plain '-' then
      match ← inlineFlags t with
      | some (on, off) => return .scoped on off
      | none => if atStart then return .nothing else failFrom .lateFlags start
    else failAt (.unknownExtension t.text) (t.text.length + 1)

/-- Take the closing parenthesis of the group that began at `start`. -/
def closeParenthesis (start : Nat) : Read Unit := do
  if ← accept ')' then pure () else failFrom .unterminatedGroup start

/-- The characters skipped under the verbose flag. -/
def isLayout (c : Char) : Bool := c = ' ' || ('\t' ≤ c && c ≤ '\r')

/-- Skip a comment that runs to the end of the line. -/
def skipLine : (fuel : Nat) → Read Unit
  | 0 => pure ()
  | fuel + 1 => do
    match ← take with
    | none | some (.plain '\n') => pure ()
    | some _ => skipLine fuel

/-- Where in a pattern the reader is: how to treat layout, whether it is inside a group, and whether no
alternative has been completed yet. -/
structure Place where
  verbose : Bool
  nested : Bool
  first : Bool

mutual

/-- Alternatives up to the end of the group or pattern. -/
def readAlternatives : (fuel : Nat) → Place → Read Sequence
  | 0, _ => failAt .tooDeep 0
  | fuel + 1, place => do
    match ← readBranches fuel place with
    | [single] => return single
    | several => return [.branch several]

/-- The sequences between bars. -/
def readBranches : (fuel : Nat) → Place → Read (List Sequence)
  | 0, _ => failAt .tooDeep 0
  | fuel + 1, place => do
    let body ← readSequence fuel place []
    if ← accept '|' then
      let verbose ← if place.nested then pure place.verbose else pure ((← get).flags.has .verbose)
      return body :: (← readBranches fuel { place with verbose, first := false })
    else return [body]

/-- A sequence up to a bar, a closing parenthesis or the end.  The nodes read so far are given last
first. -/
def readSequence : (fuel : Nat) → Place → List Node → Read Sequence
  | 0, _, _ => failAt .tooDeep 0
  | fuel + 1, place, found => do
    match ← peek with
    | none | some (.plain '|') | some (.plain ')') => return found.reverse
    | some t =>
      let _ ← take
      match t with
      | .dangling => failAt .escapeAtEnd 0
      | .escape c => readSequence fuel place ((← escape c) :: found)
      | .plain c =>
        if place.verbose && isLayout c then readSequence fuel place found
        else if place.verbose && c = '#' then
          skipLine ((← get).ahead.length + 1)
          readSequence fuel place found
        else if c = '[' then readSequence fuel place ((← readSet) :: found)
        else if c = '.' then readSequence fuel place (.any :: found)
        else if c = '^' then readSequence fuel place (.anchor .lineStart :: found)
        else if c = '$' then readSequence fuel place (.anchor .lineEnd :: found)
        else if c = '*' ∨ c = '+' ∨ c = '?' ∨ c = '{' then
          let start := (← get).position
          match ← repetitionCounts c with
          | none => readSequence fuel place (.code c.toNat false :: found)
          | some (least, greatest) =>
            readSequence fuel place (← repeatLast start least greatest found)
        else if c = '(' then
          let start := (← get).position - 1
          let atStart := place.first && !place.nested && found.isEmpty
          let opening ← readOpening start atStart
          match ← readGroup fuel place start opening with
          | some node => readSequence fuel place (node :: found)
          | none =>
            let whole := (← get).flags.has .verbose
            readSequence fuel { place with verbose := if atStart then whole else place.verbose } found
        else readSequence fuel place (.code c.toNat false :: found)

/-- The rest of a group whose opening has been read. -/
def readGroup : (fuel : Nat) → Place → (start : Nat) → Opening → Read (Option Node)
  | 0, _, _, _ => failAt .tooDeep 0
  | fuel + 1, place, start, opening => do
    let inner : Place := { place with nested := true, first := false }
    match opening with
    | .nothing => return none
    | .node node => return some node
    | .capture name =>
      let index ← openGroup name
      let body ← readAlternatives fuel inner
      closeParenthesis start
      closeGroup index (sequenceWidth body)
      return some (.group (some index) [] [] body)
    | .scoped on off =>
      let verbose := (place.verbose || on.has .verbose) && !off.has .verbose
      let body ← readAlternatives fuel { inner with verbose }
      closeParenthesis start
      return some (.group none on off body)
    | .atomic =>
      let body ← readAlternatives fuel inner
      closeParenthesis start
      return some (.atomic body)
    | .look behind negated =>
      let outer := (← get).behindFrom
      if behind && outer.isNone then
        modify fun i => { i with behindFrom := some i.widths.length }
      let body ← readAlternatives fuel inner
      if behind && outer.isNone then modify fun i => { i with behindFrom := none }
      closeParenthesis start
      return some (.look behind negated body)
    | .conditional index =>
      let present ← readSequence fuel inner []
      let absent ← if ← accept '|' then readSequence fuel inner [] else pure []
      if (← peek) = some (.plain '|') then failAt .manyBranches 0
      closeParenthesis start
      return some (.conditional index present absent)

end

/-- The whole of a pattern. -/
def readPattern : Read Sequence := do
  checkDangling
  let i ← get
  let fuel := 4 * i.ahead.length + 8
  let body ← readAlternatives fuel ⟨i.flags.has .verbose, false, true⟩
  let i ← get
  if i.flags.has .ascii && i.flags.has .unicode then throw ⟨.asciiAndUnicode, i.source, none⟩
  if !i.ahead.isEmpty then failAt .unbalanced 0
  match i.references.find? fun r => i.widths.length ≤ r.1 with
  | some (index, position) => failFrom (.invalidGroup index) position
  | none => return body

/-- The pattern that a text denotes, with flags given apart from it. -/
def Pattern.compile (source : String) (flags : Flags) : Except Error Pattern := do
  let text := source.toList
  let (body, i) ← readPattern.run ⟨text, tokens text, 0, [none], [], flags, none, []⟩
  if sequenceLooksBehindFixed body then return ⟨source, i.flags, body⟩
  else throw ⟨.variableLookbehind, text, none⟩

end RecordCheck.Regex
