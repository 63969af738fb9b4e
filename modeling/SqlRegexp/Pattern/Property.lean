import SqlRegexp.Text.Radix
import SqlRegexp.Unicode.CaseFolding
import SqlRegexp.Unicode.Letter
import SqlRegexp.Unicode.Script
import SqlRegexp.Unicode.Space

/-!
Character properties by name, as in `\p{Lu}`, `\p{Script=Greek}` or `[[:alpha:]]`. Names are
compared without blanks, hyphens and underscores and without regard to case.
-/

namespace SqlRegexp.Pattern

open SqlRegexp.Text SqlRegexp.Unicode

/-- A property that a character has or has not. -/
inductive Property where
  /-- The general category is one of the given. -/
  | categories (cs : List Category)
  /-- The script stands at the given place of the table. -/
  | script (index : Nat)
  | any | basicLatin | alphabetic | lowercase | uppercase | whiteSpace | word | alnum | blank
  | graph | print | hexDigit | posixAlnum | posixDigit | posixPunct | posixHexDigit
deriving DecidableEq, Repr

namespace Property

/-- The properties behind `\d`, `\s` and `\w`. -/
def digit : Property := .categories [.decimalNumber]

/-- Visible characters. -/
def isGraph (n : Nat) : Bool :=
  !isWhiteSpace n && !([Category.control, .surrogate, .unassigned].contains (category n))

/-- Blanks within a line. -/
def isLineBlank (n : Nat) : Bool := n == 0x09 || category n == .spaceSeparator

def isWesternDigit (n : Nat) : Bool := decide (0x30 ≤ n ∧ n ≤ 0x39)

/-- Western hexadecimal digits. -/
def isWesternHex (n : Nat) : Bool :=
  isWesternDigit n || decide (0x41 ≤ n ∧ n ≤ 0x46) || decide (0x61 ≤ n ∧ n ≤ 0x66)

/-- Hexadecimal digits, also those of full width. -/
def isHex (n : Nat) : Bool :=
  isWesternHex n || (decide (0xFEE0 ≤ n) && isWesternHex (n - 0xFEE0))

/-- Whether a code point is a decimal digit: decided without the table for Western ones. -/
def isNumber (n : Nat) : Bool :=
  if n < 0x80 then isWesternDigit n else category n == .decimalNumber

/-- Whether a code point has a property. -/
def holds : Property → Nat → Bool
  | categories cs, n => if cs = [.decimalNumber] then isNumber n else cs.contains (category n)
  | script i, n => inScript i n
  | any, _ => true
  | basicLatin, n => decide (n < 0x80)
  | alphabetic, n => isAlphabetic n
  | lowercase, n => isLowercase n
  | uppercase, n => isUppercase n
  | whiteSpace, n => isWhiteSpace n
  | word, n => isWordChar n
  | alnum, n => isAlphabetic n || isNumber n
  | blank, n => isLineBlank n
  | graph, n => isGraph n
  | print, n => (isGraph n || isLineBlank n) && category n != .control
  | hexDigit, n => isNumber n || isHex n
  | posixAlnum, n => isAlphabetic n || isNumber n
  | posixDigit, n => isWesternDigit n
  | posixPunct, n =>
    (category n).isMajor 'P' || (decide (n < 0x80) && (category n).isMajor 'S')
  | posixHexDigit, n => isWesternHex n

/-- Whether the property tells the cases of a letter apart. -/
def dependsOnCase : Property → Bool
  | categories cs =>
    [[Category.uppercaseLetter], [.lowercaseLetter], [.titlecaseLetter]].contains cs
  | lowercase | uppercase => true
  | _ => false

/-- What a property that tells cases apart comes to where case is ignored. -/
def holdsInSomeCase : Property → Nat → Bool
  | categories _, n =>
    [Category.uppercaseLetter, .lowercaseLetter, .titlecaseLetter].contains (category n)
  | _, n => isCased n

/-! ### Names -/

/-- A name in capitals, without blanks, hyphens and underscores. -/
def standardName (cs : List Char) : List Char :=
  (cs.filter (fun c => !(c == ' ' || c == '-' || c == '_'))).map Char.toUpper

/-- All categories of a major class. -/
def majorClass (major : Char) : Property :=
  .categories (Category.all.filter (fun c => c.isMajor major))

/-- The categories and groups of categories by name. -/
def categoryNames : List (String × Property) :=
  [("C", majorClass 'C'), ("OTHER", majorClass 'C'),
   ("L", majorClass 'L'), ("LETTER", majorClass 'L'),
   ("M", majorClass 'M'), ("MARK", majorClass 'M'), ("COMBININGMARK", majorClass 'M'),
   ("N", majorClass 'N'), ("NUMBER", majorClass 'N'),
   ("P", majorClass 'P'), ("PUNCTUATION", majorClass 'P'), ("PUNCT", majorClass 'P'),
   ("S", majorClass 'S'), ("SYMBOL", majorClass 'S'),
   ("Z", majorClass 'Z'), ("SEPARATOR", majorClass 'Z'),
   ("LC", .categories [.uppercaseLetter, .lowercaseLetter, .titlecaseLetter]),
   ("CASEDLETTER", .categories [.uppercaseLetter, .lowercaseLetter, .titlecaseLetter]),
   ("L&", .categories [.uppercaseLetter, .lowercaseLetter, .titlecaseLetter]),
   ("LU", .categories [.uppercaseLetter]), ("UPPERCASELETTER", .categories [.uppercaseLetter]),
   ("LL", .categories [.lowercaseLetter]), ("LOWERCASELETTER", .categories [.lowercaseLetter]),
   ("LT", .categories [.titlecaseLetter]), ("TITLECASELETTER", .categories [.titlecaseLetter]),
   ("LM", .categories [.modifierLetter]), ("MODIFIERLETTER", .categories [.modifierLetter]),
   ("LO", .categories [.otherLetter]), ("OTHERLETTER", .categories [.otherLetter]),
   ("MN", .categories [.nonspacingMark]), ("NONSPACINGMARK", .categories [.nonspacingMark]),
   ("MC", .categories [.spacingMark]), ("SPACINGMARK", .categories [.spacingMark]),
   ("ME", .categories [.enclosingMark]), ("ENCLOSINGMARK", .categories [.enclosingMark]),
   ("ND", digit), ("DECIMALNUMBER", digit), ("DIGIT", digit),
   ("NL", .categories [.letterNumber]), ("LETTERNUMBER", .categories [.letterNumber]),
   ("NO", .categories [.otherNumber]), ("OTHERNUMBER", .categories [.otherNumber]),
   ("PC", .categories [.connectorPunctuation]),
   ("CONNECTORPUNCTUATION", .categories [.connectorPunctuation]),
   ("PD", .categories [.dashPunctuation]), ("DASHPUNCTUATION", .categories [.dashPunctuation]),
   ("PS", .categories [.openPunctuation]), ("OPENPUNCTUATION", .categories [.openPunctuation]),
   ("PE", .categories [.closePunctuation]), ("CLOSEPUNCTUATION", .categories [.closePunctuation]),
   ("PI", .categories [.initialPunctuation]),
   ("INITIALPUNCTUATION", .categories [.initialPunctuation]),
   ("PF", .categories [.finalPunctuation]), ("FINALPUNCTUATION", .categories [.finalPunctuation]),
   ("PO", .categories [.otherPunctuation]), ("OTHERPUNCTUATION", .categories [.otherPunctuation]),
   ("SM", .categories [.mathSymbol]), ("MATHSYMBOL", .categories [.mathSymbol]),
   ("SC", .categories [.currencySymbol]), ("CURRENCYSYMBOL", .categories [.currencySymbol]),
   ("SK", .categories [.modifierSymbol]), ("MODIFIERSYMBOL", .categories [.modifierSymbol]),
   ("SO", .categories [.otherSymbol]), ("OTHERSYMBOL", .categories [.otherSymbol]),
   ("ZS", .categories [.spaceSeparator]), ("SPACESEPARATOR", .categories [.spaceSeparator]),
   ("ZL", .categories [.lineSeparator]), ("LINESEPARATOR", .categories [.lineSeparator]),
   ("ZP", .categories [.paragraphSeparator]),
   ("PARAGRAPHSEPARATOR", .categories [.paragraphSeparator]),
   ("CC", .categories [.control]), ("CONTROL", .categories [.control]),
   ("CNTRL", .categories [.control]),
   ("CF", .categories [.format]), ("FORMAT", .categories [.format]),
   ("CS", .categories [.surrogate]), ("SURROGATE", .categories [.surrogate]),
   ("CO", .categories [.privateUse]), ("PRIVATEUSE", .categories [.privateUse]),
   ("CN", .categories [.unassigned]), ("UNASSIGNED", .categories [.unassigned]),
   ("ASSIGNED", .categories (Category.all.filter (· ≠ .unassigned)))]

/-- The properties that a character simply has or has not, by name. -/
def binaryNames : List (String × Property) :=
  [("ANY", .any), ("ALPHABETIC", .alphabetic), ("ALPHA", .alphabetic), ("LOWERCASE", .lowercase),
   ("LOWER", .lowercase), ("UPPERCASE", .uppercase), ("UPPER", .uppercase),
   ("WHITESPACE", .whiteSpace), ("WSPACE", .whiteSpace), ("SPACE", .whiteSpace), ("WORD", .word),
   ("ALNUM", .alnum), ("BLANK", .blank), ("GRAPH", .graph), ("PRINT", .print),
   ("XDIGIT", .hexDigit), ("POSIXALNUM", .posixAlnum), ("POSIXDIGIT", .posixDigit),
   ("POSIXPUNCT", .posixPunct), ("POSIXXDIGIT", .posixHexDigit)]

def blockNames : List (String × Property) := [("ASCII", .basicLatin), ("BASICLATIN", .basicLatin)]

/-- The entry of a table under a name. -/
def lookup (table : List (String × Property)) (name : List Char) : Option Property :=
  (table.find? (fun e => e.1.toList == name)).map Prod.snd

def scriptNamed? (name : List Char) : Option Property := (scriptIndex? name).map .script

/-- The property of a standard name that stands alone: a category, a script, a block, a binary
property, or one of these after `IS` or `IN`. -/
def ofName? (name : List Char) : Option Property :=
  lookup categoryNames name <|> scriptNamed? name <|> lookup blockNames name
    <|> lookup binaryNames name
    <|> (match name with
      | 'I' :: 'S' :: rest => lookup binaryNames rest <|> scriptNamed? rest
      | 'I' :: 'N' :: rest => lookup blockNames rest
      | _ => none)

/-- The property, and whether it is asked for rather than its opposite, of a standard name that is
qualified, as in `SCRIPT` and `GREEK`. -/
def ofQualified? (qualifier name : List Char) : Option (Property × Bool) :=
  let yes := ["YES", "Y", "TRUE", "T"].any (fun s => s.toList == name)
  let no := ["NO", "N", "FALSE", "F"].any (fun s => s.toList == name)
  if ["GC", "GENERALCATEGORY"].any (fun s => s.toList == qualifier) then
    (lookup categoryNames name).map (·, true)
  else if ["SC", "SCRIPT"].any (fun s => s.toList == qualifier) then
    (scriptNamed? name).map (·, true)
  else if ["BLK", "BLOCK"].any (fun s => s.toList == qualifier) then
    (lookup blockNames name).map (·, true)
  else if yes || no then (lookup binaryNames qualifier).map (·, yes)
  else none

/-- The names that mean something narrower in a bracketed class. -/
def posixNames : List String := ["ALNUM", "DIGIT", "PUNCT", "XDIGIT"]

/-- The property of a written name, with the qualifier in front of it if there is one. -/
def named? (qualifier : Option (List Char)) (name : List Char) (bracketed : Bool) :
    Option (Property × Bool) :=
  let value := standardName name
  match qualifier with
  | some q => ofQualified? (standardName q) value
  | none =>
    if bracketed && posixNames.any (fun s => s.toList == value) then
      (lookup binaryNames ("POSIX".toList ++ value)).map (·, true)
    else (ofName? value).map (·, true)

end Property

/-- A property asked of a character, or its opposite. -/
structure PropertyTest where
  property : Property
  positive : Bool := true
  /-- The repertoire outside of which the property does not hold; that of the whole pattern if none
  is given. -/
  scope : Option Repertoire := none
deriving DecidableEq, Repr

namespace PropertyTest

/-- The test without its scope. -/
def unscoped (t : PropertyTest) : PropertyTest := { t with scope := none }

/-- Whether the property itself holds, whatever the test asks for. -/
def base (t : PropertyTest) (r : Repertoire) (n : Nat) : Bool :=
  (t.scope.getD r).contains n && t.property.holds n

/-- Whether a code point passes, in a pattern of a repertoire. -/
def holds (t : PropertyTest) (r : Repertoire) (n : Nat) : Bool := t.base r n == t.positive

/-- Whether a code point passes when case is ignored. A property that tells cases apart stands for
all cased letters then, in any repertoire. -/
def holdsIgnoringCase (t : PropertyTest) (r : Repertoire) (n : Nat) : Bool :=
  if t.property.dependsOnCase then t.property.holdsInSomeCase n == t.positive else t.holds r n

end PropertyTest

end SqlRegexp.Pattern
