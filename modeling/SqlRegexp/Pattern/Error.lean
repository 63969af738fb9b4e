import SqlRegexp.Text.Numeral

/-!
Why a pattern is refused.
-/

namespace SqlRegexp.Pattern

open SqlRegexp.Text

/-- What is wrong at a place of a pattern. -/
inductive Cause where
  /-- A character that has to stand here does not. -/
  | missing (expected : Char)
  | unbalancedParenthesis
  | nothingToRepeat
  | multipleRepeat
  | boundsReversed
  | boundTooLarge
  | unterminatedClass
  | rangeReversed
  | unknownEscape (letter : Char)
  | danglingEscape
  | incompleteEscape (letter : Char) (digits : List Char)
  | escapeTooLarge (letter : Char) (digits : List Char)
  | unknownExtension
  | unknownVerb
  | unknownProperty
  | unknownCharacterName
  | unknownGroup
  | invalidGroup
  | openGroup
  | ambiguousGroup
  | missingGroupName
  | badGroupName
  | missingRelativeNumber
  | invalidRelativeNumber
  | expectedLookaround
  | noFlagsToTurnOff
  | cannotTurnOff
  | flagOnAndOff
  | undefinedList
  /-- Constraints of an approximate match may come next, which are left out here. -/
  | approximate
  /-- The pattern is nested more deeply than it is long, which no pattern is. -/
  | tooDeep
deriving DecidableEq, Repr

namespace Cause

def text : Cause → String
  | missing c => "missing " ++ String.singleton c
  | unbalancedParenthesis => "unbalanced parenthesis"
  | nothingToRepeat => "nothing to repeat"
  | multipleRepeat => "multiple repeat"
  | boundsReversed => "min repeat greater than max repeat"
  | boundTooLarge => "repeat count too big"
  | unterminatedClass => "unterminated character set"
  | rangeReversed => "bad character range"
  | unknownEscape c => "bad escape \\" ++ String.singleton c
  | danglingEscape => "bad escape (end of pattern)"
  | incompleteEscape c ds => "incomplete escape \\" ++ String.singleton c ++ String.ofList ds
  | escapeTooLarge c ds => "bad hex escape \\" ++ String.singleton c ++ String.ofList ds
  | unknownExtension => "unknown extension"
  | unknownVerb => "unknown verb"
  | unknownProperty => "unknown property"
  | unknownCharacterName => "undefined character name"
  | unknownGroup => "unknown group"
  | invalidGroup => "invalid group reference"
  | openGroup => "cannot refer to an open group"
  | ambiguousGroup => "ambiguous group reference"
  | missingGroupName => "missing group name"
  | badGroupName => "bad character in group name"
  | missingRelativeNumber => "missing relative group number"
  | invalidRelativeNumber => "invalid relative group number"
  | expectedLookaround => "expected lookaround conditional"
  | noFlagsToTurnOff => "bad inline flags: no flags after '-'"
  | cannotTurnOff => "bad inline flags: cannot turn off global flag"
  | flagOnAndOff => "bad inline flags: flag turned on and off"
  | undefinedList => "undefined named list"
  | approximate => "approximate matching is left out"
  | tooDeep => "pattern too deep"

/-- Whether a refusal may be one of this description alone, which leaves out some of what engines
admit: search from the right and the choice of a version among the extensions, all verbs but those
that fail, most properties and names of characters, clusters of characters, and approximate
matches. -/
def mayBeAdmitted : Cause → Bool
  | unknownExtension | unknownVerb | unknownProperty | unknownCharacterName | approximate
  | tooDeep => true
  | unknownEscape letter => letter == 'X'
  | _ => false

end Cause

/-- A pattern, what is wrong with it, and where, counted from 0. -/
structure Malformed where
  pattern : List Char
  cause : Cause
  pos : Nat
deriving DecidableEq, Repr

namespace Malformed

/-- The line, counted from 1, that a place lies in. -/
def line (e : Malformed) : Nat := (e.pattern.take e.pos).count '\n' + 1

/-- The column, counted from 1, of a place in its line. -/
def column (e : Malformed) : Nat :=
  ((e.pattern.take e.pos).reverse.takeWhile (· ≠ '\n')).length + 1

/-- The message: the cause and the place, with line and column if the pattern has several lines. -/
def message (e : Malformed) : String :=
  e.cause.text ++ " at position " ++ toString e.pos
    ++ (if e.pattern.contains '\n' then
          " (line " ++ toString e.line ++ ", column " ++ toString e.column ++ ")"
        else "")

end Malformed

/-- Why a pattern cannot be compiled. -/
inductive CompileError where
  /-- The pattern is malformed. -/
  | malformed (e : Malformed)
  /-- A group number in the pattern is no numeral, though made of digit characters. -/
  | numeral (e : NumeralError)
  /-- Both repertoires of characters are asked for. -/
  | conflictingRepertoires
deriving DecidableEq, Repr

namespace CompileError

def message : CompileError → String
  | malformed e => e.message
  | numeral e => e.message
  | conflictingRepertoires => "ASCII, LOCALE and UNICODE flags are mutually incompatible"

/-- Whether a pattern is refused for something that this description may have left out. -/
def mayBeAdmitted : CompileError → Bool
  | malformed e => e.cause.mayBeAdmitted
  | _ => false

end CompileError

end SqlRegexp.Pattern
