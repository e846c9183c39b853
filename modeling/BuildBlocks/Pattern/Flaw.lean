import BuildBlocks.Number.Whole
import BuildBlocks.Text.Quoted

/-!
# What is wrong with a pattern

A text that is no pattern has a flaw, which is reported with its position, and with line and column
if the pattern has several lines. A few things come to light only when the pattern is complete, and
have no position. Some numbers and combinations of flags are refused for other reasons than the form
of the pattern; these are kept apart, because a caller may treat them differently.
-/

namespace BuildBlocks
namespace Pattern

/-- A flaw in the form of a pattern. -/
inductive Flaw where
  | endsInBackslash
  | badEscape (escape : Text)
  | incompleteEscape (escape : Text)
  | octalRange (escape : Text)
  | missingBrace
  | missing (what : String)
  | unterminatedName (stop : Char)
  | undefinedCharacter (name : Text)
  | badRange (lo hi : Text)
  | unterminatedSet
  | nothingToRepeat
  | multipleRepeat
  | leastOverMost
  | unexpectedEnd
  | unknownExtension (letters : Text)
  | badGroupName (name : Text)
  | unknownGroupName (name : Text)
  | groupRedefined (name : Text) (index earlier : Nat)
  | openGroup
  | groupInSameLook
  | badGroupNumber
  | invalidGroup (n : Nat)
  | unterminatedComment
  | unterminatedGroup
  | manyBranches
  | unbalanced
  | flagsNotFirst
  | unknownFlag
  | localeFlag
  | clashingFlags
  | globalFlagOn
  | globalFlagOff
  | alphabetOff
  | flagOnAndOff
  deriving DecidableEq, Repr

/-- The wording of a flaw. -/
def Flaw.message : Flaw → String
  | .endsInBackslash => "bad escape (end of pattern)"
  | .badEscape escape => s!"bad escape {escape}"
  | .incompleteEscape escape => s!"incomplete escape {escape}"
  | .octalRange escape => s!"octal escape value {escape} outside of range 0-0o377"
  | .missingBrace => "missing \x7b"
  | .missing what => s!"missing {what}"
  | .unterminatedName stop => s!"missing {stop}, unterminated name"
  | .undefinedCharacter name => s!"undefined character name {Text.quoted name}"
  | .badRange lo hi => s!"bad character range {lo}-{hi}"
  | .unterminatedSet => "unterminated character set"
  | .nothingToRepeat => "nothing to repeat"
  | .multipleRepeat => "multiple repeat"
  | .leastOverMost => "min repeat greater than max repeat"
  | .unexpectedEnd => "unexpected end of pattern"
  | .unknownExtension letters => s!"unknown extension ?{letters}"
  | .badGroupName name => s!"bad character in group name {Text.quoted name}"
  | .unknownGroupName name => s!"unknown group name {Text.quoted name}"
  | .groupRedefined name index earlier =>
    s!"redefinition of group name {Text.quoted name} as group {index}; was group {earlier}"
  | .openGroup => "cannot refer to an open group"
  | .groupInSameLook => "cannot refer to group defined in the same lookbehind subpattern"
  | .badGroupNumber => "bad group number"
  | .invalidGroup n => s!"invalid group reference {n}"
  | .unterminatedComment => "missing ), unterminated comment"
  | .unterminatedGroup => "missing ), unterminated subpattern"
  | .manyBranches => "conditional backref with more than two branches"
  | .unbalanced => "unbalanced parenthesis"
  | .flagsNotFirst => "global flags not at the start of the expression"
  | .unknownFlag => "unknown flag"
  | .localeFlag => "bad inline flags: cannot use 'L' flag with a str pattern"
  | .clashingFlags => "bad inline flags: flags 'a', 'u' and 'L' are incompatible"
  | .globalFlagOn => "bad inline flags: cannot turn on global flag"
  | .globalFlagOff => "bad inline flags: cannot turn off global flag"
  | .alphabetOff => "bad inline flags: cannot turn off flags 'a', 'u' and 'L'"
  | .flagOnAndOff => "bad inline flags: flag turned on and off"

/-- Why a text cannot be used as a pattern. -/
inductive Problem where
  /-- The text has a flaw at a position. -/
  | flaw (f : Flaw) (position : Nat)
  /-- The pattern looks behind for something that has no fixed width. -/
  | looseLook
  /-- The pattern looks too far behind. -/
  | farLook
  /-- A repetition in a pattern that refuses them. -/
  | refusedRounds (what : String)
  /-- The pattern is said to be limited to ASCII and not to be. -/
  | clashingAlphabets
  /-- A number has too many digits to be read. -/
  | longNumber (digits : Nat)
  /-- A repetition has too many rounds. -/
  | manyRounds
  /-- The code point of a character is too large to be handled at all. -/
  | hugeCode
  deriving DecidableEq, Repr

/-- How a problem is to be taken. -/
inductive Problem.Weight where
  /-- The text has not the form of a pattern. -/
  | form
  /-- The form is right, but what it says cannot be meant. -/
  | meaning
  /-- A number is too large for anything to go on. -/
  | size
  deriving DecidableEq, Repr

/-- How a problem is to be taken. -/
def Problem.weight : Problem → Problem.Weight
  | .flaw .. | .looseLook | .farLook | .refusedRounds _ => .form
  | .clashingAlphabets | .longNumber _ => .meaning
  | .manyRounds | .hugeCode => .size

/-- A position in a text as line and column, both from one on. -/
def lineAndColumn (source : Text) (position : Nat) : Nat × Nat :=
  let before := source.take position
  (Text.newlines before + 1, (before.reverse.takeWhile (· ≠ '\n')).length + 1)

/-- The wording of a problem with the pattern `source`. -/
def Problem.message (source : Text) : Problem → String
  | .flaw f position =>
    let (line, column) := lineAndColumn source position
    let place := if source.contains '\n' then s!" (line {line}, column {column})" else ""
    s!"{f.message} at position {position}{place}"
  | .looseLook => "look-behind requires fixed-width pattern"
  | .farLook => "looks too much behind"
  | .refusedRounds what => s!"internal: unsupported template operator {what}"
  | .clashingAlphabets => "ASCII and UNICODE flags are incompatible"
  | .longNumber digits =>
    s!"Exceeds the limit ({Whole.maxDigits} digits) for integer string conversion: value has " ++
      s!"{digits} digits; use sys.set_int_max_str_digits() to increase the limit"
  | .manyRounds => "the repetition number is too large"
  | .hugeCode => "Python int too large to convert to C int"

end Pattern
end BuildBlocks
