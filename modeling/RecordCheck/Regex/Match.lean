import RecordCheck.Regex.Syntax
import RecordCheck.Text.Alphanumeric
import RecordCheck.Text.Blank
import RecordCheck.Text.Case
import RecordCheck.Text.Digit

/-!
# Matching

A backtracking matcher.  A node is matched before a continuation, which stands for all that has to
match after it; alternatives are tried in order until the continuation succeeds.  The number of tries
of a repetition is bounded by its least count and the rest of the text, because a repetition that
matched nothing is not repeated again.
-/

set_option autoImplicit false

namespace RecordCheck.Regex

open Text

/-! ## Characters -/

/-- Lower case characters that belong together beyond having the same capital or small letter. -/
def foldGroups : List (List Nat) :=
  [[0x69, 0x131], [0x73, 0x17F], [0xB5, 0x3BC], [0x345, 0x3B9, 0x1FBE], [0x390, 0x1FD3],
   [0x3B0, 0x1FE3], [0x3B2, 0x3D0], [0x3B5, 0x3F5], [0x3B8, 0x3D1], [0x3BA, 0x3F0],
   [0x3C0, 0x3D6], [0x3C1, 0x3F1], [0x3C2, 0x3C3], [0x3C6, 0x3D5], [0x432, 0x1C80],
   [0x434, 0x1C81], [0x43E, 0x1C82], [0x441, 0x1C83], [0x442, 0x1C84, 0x1C85], [0x44A, 0x1C86],
   [0x463, 0x1C87], [0x1C88, 0xA64B], [0x1E61, 0x1E9B], [0xFB05, 0xFB06]]

/-- The lower case characters that belong to a lower case one, itself first. -/
def foldGroup (lowered : Nat) : List Nat :=
  lowered :: (foldGroups.flatMap fun g => if g.contains lowered then g.filter (· != lowered) else [])

/-- Lower case for comparison; only ASCII letters change under the ASCII flag. -/
def folded (flags : Flags) (c : Char) : Nat :=
  if flags.has .ascii then
    (if 'A' ≤ c ∧ c ≤ 'Z' then c.toNat + 32 else c.toNat)
  else (lowerChar c).toNat

/-- All code points that a character matches without regard to case. -/
def caseVariants (flags : Flags) (c : Char) : List Nat :=
  let low := folded flags c
  if flags.has .ascii then
    low :: (if 0x61 ≤ low ∧ low ≤ 0x7A then [low - 32] else [])
  else
    (foldGroup low).flatMap fun low => low :: (capitalsOf (Char.ofNat low)).map Char.toNat

/-- The code points a character stands for in comparisons: itself, or its case variants. -/
def variants (flags : Flags) (c : Char) : List Nat :=
  if flags.has .ignoreCase then c.toNat :: caseVariants flags c else [c.toNat]

/-- Whether a character is in a named class. -/
def Category.contains (flags : Flags) (category : Category) (c : Char) : Bool :=
  let narrow := !flags.has .ascii || c.toNat < 0x80
  match category with
  | .digit => narrow && isDigit c
  | .space => isBlank c && (!flags.has .ascii || c == ' ' || (9 ≤ c.toNat && c.toNat ≤ 13))
  | .word => narrow && isWordChar c

/-- Whether a character is a member of a set. -/
def SetItem.contains (flags : Flags) (c : Char) : SetItem → Bool
  | .code value => (variants flags c).contains value
  | .range first last => (variants flags c).any fun v => first ≤ v && v ≤ last
  | .category kind negated => kind.contains flags c != negated

/-! ## States -/

/-- A state of the matcher: the text before the position, nearest character first, the text after it,
and the last match of each group. -/
structure State where
  before : List Char
  after : List Char
  groups : List (Nat × List Char)

namespace State

/-- The beginning of a text. -/
def start (text : List Char) : State := ⟨[], text, []⟩

/-- The last match of a group. -/
def group? (s : State) (index : Nat) : Option (List Char) := s.groups.lookup index

/-- The state with a group's match replaced. -/
def setGroup (s : State) (index : Nat) (text : List Char) : State :=
  { s with groups := (index, text) :: s.groups.filter (·.1 != index) }

/-- The state one character on. -/
def next? (s : State) : Option (Char × State) :=
  match s.after with
  | [] => none
  | c :: rest => some (c, { s with before := c :: s.before, after := rest })

/-- The state `n` characters back. -/
def back? : Nat → State → Option State
  | 0, s => some s
  | n + 1, s =>
    match s.before with
    | [] => none
    | c :: rest => back? n { s with before := rest, after := c :: s.after }

/-- The text between an earlier state and this one. -/
def textSince (s earlier : State) : List Char :=
  (s.before.take (s.before.length - earlier.before.length)).reverse

/-- Whether both states are at one position. -/
def atSamePosition (s t : State) : Bool := s.after.length == t.after.length

/-- Whether a word ends or begins at the position. -/
def atBoundary (flags : Flags) (s : State) : Bool :=
  let isWord (c : Option Char) := (c.map (Category.word.contains flags)).getD false
  isWord s.before.head? != isWord s.after.head?

/-- Whether the position is of the given kind. -/
def isAt (flags : Flags) (s : State) : Anchor → Bool
  | .textStart => s.before.isEmpty
  | .textEnd => s.after.isEmpty
  | .lineStart => s.before.isEmpty || (flags.has .multiline && s.before.head? == some '\n')
  | .lineEnd =>
    s.after.isEmpty || s.after == ['\n'] ||
      (flags.has .multiline && s.after.head? == some '\n')
  | .boundary => s.atBoundary flags
  | .nonBoundary => !(s.before.isEmpty && s.after.isEmpty) && !s.atBoundary flags

/-- The state after a given text, compared without regard to case if the flags say so. -/
def skip? (flags : Flags) : List Char → State → Option State
  | [], s => some s
  | c :: rest, s => do
    let (d, s) ← s.next?
    let same := if flags.has .ignoreCase then folded flags c == folded flags d else c == d
    if same then skip? flags rest s else none

end State

/-! ## Matching -/

/-- What has to match after a node: from a state to the state at the end of the match. -/
abbrev Continuation := State → Option State

/-- The flags inside a group. -/
def scopedFlags (flags on off : Flags) : Flags :=
  let isType (f : Flag) : Bool := f == .ascii || f == .locale || f == .unicode
  let kept := if on.any isType then flags.filter (fun f => !isType f) else flags
  (kept ++ on).filter fun f => !off.has f

/-- Repetitions of a body that prefer more, `done` of them made so far and the last one begun at
`last?`.  `fuel` bounds their number. -/
def repeatGreedy (body : Continuation → Continuation) (least : Nat) (greatest : Option Nat)
    (next : Continuation) : (fuel done : Nat) → Option State → Continuation
  | 0, _, _, _ => none
  | fuel + 1, done, last?, s =>
    let again := body (repeatGreedy body least greatest next fuel (done + 1) (some s))
    if done < least then again s
    else
      let mayRepeat := greatest.all (done < ·) && !(last?.map s.atSamePosition).getD false
      if mayRepeat then again s <|> next s else next s

/-- Repetitions of a body that prefer fewer. -/
def repeatLazy (body : Continuation → Continuation) (least : Nat) (greatest : Option Nat)
    (next : Continuation) : (fuel done : Nat) → Option State → Continuation
  | 0, _, _, _ => none
  | fuel + 1, done, last?, s =>
    let again := body (repeatLazy body least greatest next fuel (done + 1) (some s))
    if done < least then again s
    else
      let mayRepeat := greatest.all (done < ·) && !(last?.map s.atSamePosition).getD false
      next s <|> (if mayRepeat then again s else none)

/-- Enough tries for a repetition: the least count, one for each character left, and the last one. -/
def repetitionFuel (least : Nat) (s : State) : Nat := least + s.after.length + 2

mutual

/-- Match a node before a continuation. -/
def Node.run (flags : Flags) (next : Continuation) : Node → Continuation
  | .code value negated, s => do
    let (c, s) ← s.next?
    if (variants flags c).contains value != negated then next s else none
  | .any, s => do
    let (c, s) ← s.next?
    if flags.has .dotAll || c != '\n' then next s else none
  | .set items negated, s => do
    let (c, s) ← s.next?
    if items.any (·.contains flags c) != negated then next s else none
  | .anchor anchor, s => if s.isAt flags anchor then next s else none
  | .group index on off body, s =>
    let next' := match index with
      | some i => fun t : State => next (t.setGroup i (t.textSince s))
      | none => next
    runSequence (scopedFlags flags on off) next' body s
  | .atomic body, s => (runSequence flags some body s).bind next
  | .branch alternatives, s => runBranch flags next alternatives s
  | .repetition greed least greatest body, s =>
    let fuel := repetitionFuel least s
    let step (k : Continuation) : Continuation := runSequence flags k body
    match greed with
    | .greedy => repeatGreedy step least greatest next fuel 0 none s
    | .lazy => repeatLazy step least greatest next fuel 0 none s
    | .possessive => (repeatGreedy step least greatest some fuel 0 none s).bind next
  | .look behind negated body, s =>
    let found := ((if behind then s.back? (sequenceWidth body).least else some s).bind
      (runSequence flags some body))
    match found, negated with
    | none, true => next s
    | some t, false => next { s with groups := t.groups }
    | _, _ => none
  | .backref index _, s => do
    let text ← s.group? index
    let s ← s.skip? flags text
    next s
  | .conditional index present absent, s =>
    if (s.group? index).isSome then runSequence flags next present s
    else runSequence flags next absent s

/-- Match a sequence before a continuation. -/
def runSequence (flags : Flags) (next : Continuation) : List Node → Continuation
  | [], s => next s
  | node :: rest, s => node.run flags (fun t => runSequence flags next rest t) s

/-- Match the first of some alternatives for which the continuation succeeds. -/
def runBranch (flags : Flags) (next : Continuation) : List (List Node) → Continuation
  | [], _ => none
  | body :: rest, s => runSequence flags next body s <|> runBranch flags next rest s

end

namespace Pattern

/-- Match at the position of a state. -/
def matchAt? (p : Pattern) (s : State) : Option State := runSequence p.flags some p.body s

/-- Whether the pattern matches somewhere from a state on; the list is the text after it. -/
def searchFrom (p : Pattern) : (before after : List Char) → Bool
  | before, [] => (p.matchAt? ⟨before, [], []⟩).isSome
  | before, c :: rest =>
    (p.matchAt? ⟨before, c :: rest, []⟩).isSome || searchFrom p (c :: before) rest

/-- Whether the pattern matches somewhere in a text. -/
def search (p : Pattern) (text : String) : Bool := p.searchFrom [] text.toList

end Pattern

end RecordCheck.Regex
