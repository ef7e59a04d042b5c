import RecordCheck.Regex.Syntax
import RecordCheck.Text.Quoted

/-!
# Errors of patterns

What can be wrong with the text of a pattern, and where.  The message names the position, and in a
pattern of several lines also line and column.
-/

set_option autoImplicit false

namespace RecordCheck.Regex

/-- What is wrong with a pattern. -/
inductive Problem where
  | escapeAtEnd
  | missingName (what : String)
  | unterminatedName (terminator : Char)
  | badGroupName (name : List Char)
  | unknownGroupName (name : List Char)
  | incompleteEscape (escape : List Char)
  | badEscape (escape : List Char)
  | largeOctal (escape : List Char)
  | missingBrace
  | undefinedCharacterName (name : List Char)
  | openGroup
  | groupInLookbehind
  | invalidGroup (index : Nat)
  | unterminatedSet
  | badRange (first last : List Char)
  | largeRepetition
  | leastOverGreatest
  | nothingToRepeat
  | multipleRepeat
  | unexpectedEnd
  | unknownExtension (extension : List Char)
  | unterminatedComment
  | unterminatedGroup
  | badGroupNumber
  | manyBranches
  | lateFlags
  | groupRedefined (name : List Char) (index earlier : Nat)
  | localeFlag
  | incompatibleFlags
  | unknownFlag
  | missingFlag
  | missingFlagEnd
  | missingColon
  | globalFlagOn
  | globalFlagOff
  | typeFlagOff
  | contradictoryFlags
  | unbalanced
  | variableLookbehind
  | asciiAndUnicode
  | tooDeep
  deriving DecidableEq, Repr

/-- A problem and where in which pattern it was found; problems of the whole have no position. -/
structure Error where
  problem : Problem
  source : List Char
  position : Option Nat
  deriving DecidableEq, Repr

/-- The description of a problem. -/
def Problem.text : Problem → List Char
  | .escapeAtEnd => "bad escape (end of pattern)".toList
  | .missingName what => "missing ".toList ++ what.toList
  | .unterminatedName terminator => "missing ".toList ++ terminator :: ", unterminated name".toList
  | .badGroupName name => "bad character in group name ".toList ++ Text.quoted name
  | .unknownGroupName name => "unknown group name ".toList ++ Text.quoted name
  | .incompleteEscape escape => "incomplete escape ".toList ++ escape
  | .badEscape escape => "bad escape ".toList ++ escape
  | .largeOctal escape =>
    "octal escape value ".toList ++ escape ++ " outside of range 0-0o377".toList
  | .missingBrace => "missing \x7b".toList
  | .undefinedCharacterName name => "undefined character name ".toList ++ Text.quoted name
  | .openGroup => "cannot refer to an open group".toList
  | .groupInLookbehind =>
    "cannot refer to group defined in the same lookbehind subpattern".toList
  | .invalidGroup index => "invalid group reference ".toList ++ Text.digits index
  | .unterminatedSet => "unterminated character set".toList
  | .badRange first last => "bad character range ".toList ++ first ++ '-' :: last
  | .largeRepetition => "the repetition number is too large".toList
  | .leastOverGreatest => "min repeat greater than max repeat".toList
  | .nothingToRepeat => "nothing to repeat".toList
  | .multipleRepeat => "multiple repeat".toList
  | .unexpectedEnd => "unexpected end of pattern".toList
  | .unknownExtension extension => "unknown extension ?".toList ++ extension
  | .unterminatedComment => "missing ), unterminated comment".toList
  | .unterminatedGroup => "missing ), unterminated subpattern".toList
  | .badGroupNumber => "bad group number".toList
  | .manyBranches => "conditional backref with more than two branches".toList
  | .lateFlags => "global flags not at the start of the expression".toList
  | .groupRedefined name index earlier =>
    "redefinition of group name ".toList ++ Text.quoted name ++ " as group ".toList ++
      Text.digits index ++ "; was group ".toList ++ Text.digits earlier
  | .localeFlag => "bad inline flags: cannot use 'L' flag with a str pattern".toList
  | .incompatibleFlags => "bad inline flags: flags 'a', 'u' and 'L' are incompatible".toList
  | .unknownFlag => "unknown flag".toList
  | .missingFlag => "missing flag".toList
  | .missingFlagEnd => "missing -, : or )".toList
  | .missingColon => "missing :".toList
  | .globalFlagOn => "bad inline flags: cannot turn on global flag".toList
  | .globalFlagOff => "bad inline flags: cannot turn off global flag".toList
  | .typeFlagOff => "bad inline flags: cannot turn off flags 'a', 'u' and 'L'".toList
  | .contradictoryFlags => "bad inline flags: flag turned on and off".toList
  | .unbalanced => "unbalanced parenthesis".toList
  | .variableLookbehind => "look-behind requires fixed-width pattern".toList
  | .asciiAndUnicode => "ASCII and UNICODE flags are incompatible".toList
  | .tooDeep => "pattern nested too deeply".toList

/-- The line, from 1, and the column, from 1, of a position. -/
def lineAndColumn (source : List Char) (position : Nat) : Nat × Nat :=
  let before := source.take position
  ((before.filter (· = '\n')).length + 1,
    (before.reverse.takeWhile (· ≠ '\n')).length + 1)

/-- The message of an error. -/
def Error.message (e : Error) : List Char :=
  e.problem.text ++
    (match e.position with
    | none => []
    | some position =>
      " at position ".toList ++ Text.digits position ++
        (if e.source.contains '\n' then
          let (line, column) := lineAndColumn e.source position
          " (line ".toList ++ Text.digits line ++ ", column ".toList ++ Text.digits column ++ [')']
        else []))

end RecordCheck.Regex
