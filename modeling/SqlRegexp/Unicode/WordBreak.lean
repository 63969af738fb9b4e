import SqlRegexp.Unicode.Letter

/-!
The word break classes of the standard and its default rules for word boundaries. Most classes are
a general category with a few code points added or taken away.
-/

namespace SqlRegexp.Unicode

/-- The word break classes that the boundary rules tell apart. -/
inductive WordBreak where
  | carriageReturn | lineFeed | newline | extend | joiner | format | regionalIndicator | katakana
  | hebrewLetter | letter | singleQuote | doubleQuote | midNumLet | midLetter | midNum | numeric
  | extendNumLet | space | other
deriving DecidableEq, Repr, Inhabited

namespace WordBreak

/-- Katakana and the marks that go with it. -/
def katakanaRanges : Array Range := readRanges
  "3031-3035 309B-309C 30A0-30FA 30FC-30FF 31F0-31FF 32D0-32FE 3300-3357 FF66-FF9D 
   1AFF0-1AFF3 1AFF5-1AFFB 1AFFD-1AFFE 1B000 1B120-1B122 1B155 1B164-1B167"

def hebrewRanges : Array Range := readRanges
  "5D0-5EA 5EF-5F2 FB1D FB1F-FB28 FB2A-FB36 FB38-FB3C FB3E FB40-FB41 FB43-FB44 FB46-FB4F"

/-- Signs that count as letters between letters. -/
def addedLetters : Array Range := readRanges
  "2C2-2C5 2D2-2D7 2DE-2DF 2E5-2EB 2ED 2EF-2FF 55A-55C 55E 58A 5F3 A708-A716 A720-A721 
   A789-A78A AB5B"

/-- Letters of scripts whose words are not separated by spaces. -/
def unspacedLetters : Array Range := readRanges
  "E01-E30 E32-E33 E40-E46 E81-E82 E84 E86-E8A E8C-EA3 EA5 EA7-EB0 EB2-EB3 EBD EC0-EC4 EC6 
   EDC-EDF 1000-102A 103F 1050-1055 105A-105D 1061 1065-1066 106E-1070 1075-1081 108E 1780-17B3 
   17D7 17DC 1950-196D 1970-1974 1980-19AB 19B0-19C9 1A20-1A54 1AA7 3006-3007 3021-3029 
   3038-303A 3041-3096 309D-309F 3400-4DBF 4E00-9FFF A9E0-A9E4 A9E6-A9EF A9FA-A9FE AA60-AA76 
   AA7A AA7E-AAAF AAB1 AAB5-AAB6 AAB9-AABD AAC0 AAC2 AADB-AADD F900-FA6D FA70-FAD9 11700-1171A 
   11740-11746 17000-187F7 18800-18CD5 18D00-18D08 1B001-1B11F 1B132 1B150-1B152 1B170-1B2FB 
   20000-2A6DF 2A700-2B739 2B740-2B81D 2B820-2CEA1 2CEB0-2EBE0 2F800-2FA1D 30000-3134A 
   31350-323AF"

/-- Signs that may stand between digits. -/
def midNumPoints : List Nat :=
  [0x2C, 0x3B, 0x37E, 0x589, 0x60C, 0x60D, 0x66C, 0x7F8, 0x2044, 0xFE10, 0xFE14, 0xFE50, 0xFE54,
   0xFF0C, 0xFF1B]

/-- Signs that may stand between digits or between letters. -/
def midNumLetPoints : List Nat := [0x2E, 0x2018, 0x2019, 0x2024, 0xFE52, 0xFF07, 0xFF0E]

/-- Signs that may stand between letters. -/
def midLetterPoints : List Nat :=
  [0x3A, 0xB7, 0x387, 0x55F, 0x5F4, 0x2027, 0xFE13, 0xFE55, 0xFF1A]

/-- Whether a code point extends the character before it. -/
def isExtend (n : Nat) : Bool :=
  (category n).isMajor 'M' || n == 0x200C || n == 0xFF9E || n == 0xFF9F
    || decide (0x1F3FB ≤ n ∧ n ≤ 0x1F3FF) || decide (0xE0020 ≤ n ∧ n ≤ 0xE007F)

/-- The class of a code point. -/
def ofPoint (n : Nat) : WordBreak :=
  if n = 0x0D then .carriageReturn
  else if n = 0x0A then .lineFeed
  else if n = 0x0B ∨ n = 0x0C ∨ n = 0x85 ∨ n = 0x2028 ∨ n = 0x2029 then .newline
  else if n = 0x200D then .joiner
  else if n = 0x22 then .doubleQuote
  else if n = 0x27 then .singleQuote
  else if midNumPoints.contains n then .midNum
  else if midNumLetPoints.contains n then .midNumLet
  else if midLetterPoints.contains n then .midLetter
  else if 0x1F1E6 ≤ n ∧ n ≤ 0x1F1FF then .regionalIndicator
  else if isExtend n then .extend
  else if category n = .format ∧ n ≠ 0x200B then .format
  else if category n = .decimalNumber ∨ n = 0x66B then .numeric
  else if category n = .connectorPunctuation ∨ n = 0x202F then .extendNumLet
  else if inRanges katakanaRanges n then .katakana
  else if inRanges hebrewRanges n then .hebrewLetter
  else if inRanges addedLetters n ∨ (isAlphabetic n ∧ ¬ inRanges unspacedLetters n) then .letter
  else if category n = .spaceSeparator ∧ n ≠ 0xA0 ∧ n ≠ 0x2007 then .space
  else .other

/-- Letters, Hebrew ones included. -/
def isLetter (w : WordBreak) : Bool := w == .letter || w == .hebrewLetter

/-- Ends of lines. -/
def isLineBreak (w : WordBreak) : Bool := w == .carriageReturn || w == .lineFeed || w == .newline

/-- Characters that the rules look through. -/
def isIgnorable (w : WordBreak) : Bool := w == .extend || w == .format || w == .joiner

/-- Signs that may stand between letters. -/
def joinsLetters (w : WordBreak) : Bool := w == .midLetter || w == .midNumLet || w == .singleQuote

/-- Signs that may stand between digits. -/
def joinsDigits (w : WordBreak) : Bool := w == .midNum || w == .midNumLet || w == .singleQuote

end WordBreak

/-- Code points that a zero width joiner binds to what precedes it. -/
def pictographs : Array Range := readRanges
  "A9 AE 203C 2049 2122 2139 2194-2199 21A9-21AA 231A-231B 2328 2388 23CF 23E9-23F3 23F8-23FA
   24C2 25AA-25AB 25B6 25C0 25FB-25FE 2600-2605 2607-2612 2614-2685 2690-2705 2708-2712 2714
   2716 271D 2721 2728 2733-2734 2744 2747 274C 274E 2753-2755 2757 2763-2767 2795-2797 27A1
   27B0 27BF 2934-2935 2B05-2B07 2B1B-2B1C 2B50 2B55 3030 303D 3297 3299 1F000-1F0FF
   1F10D-1F10F 1F12F 1F16C-1F171 1F17E-1F17F 1F18E 1F191-1F19A 1F1AD-1F1E5 1F201-1F20F 1F21A
   1F22F 1F232-1F23A 1F23C-1F23F 1F249-1F3FA 1F400-1F53D 1F546-1F64F 1F680-1F6FF 1F774-1F77F
   1F7D5-1F7FF 1F80C-1F80F 1F848-1F84F 1F85A-1F85F 1F888-1F88F 1F8AE-1F8FF 1F90C-1F93A
   1F93C-1F945 1F947-1FAFF 1FC00-1FFFD"

/-- Whether the rules keep two neighbouring classes together. The lists hold what precedes the
place, nearest first, and what follows it, both without characters that the rules look through. -/
def keepsTogether (before after : List WordBreak) : Bool :=
  match before, after with
  | a :: as, b :: bs =>
    let beyond : WordBreak → Bool := fun w => bs.head? == some w
    let back : WordBreak → Bool := fun w => as.head? == some w
    (a.isLetter && b.isLetter)
    || (a.isLetter && b.joinsLetters && (bs.head?.any WordBreak.isLetter))
    || (a.joinsLetters && b.isLetter && (as.head?.any WordBreak.isLetter))
    || (a == .hebrewLetter && b == .singleQuote)
    || (a == .hebrewLetter && b == .doubleQuote && beyond .hebrewLetter)
    || (a == .doubleQuote && b == .hebrewLetter && back .hebrewLetter)
    || (a == .numeric && b == .numeric)
    || (a.isLetter && b == .numeric)
    || (a == .numeric && b.isLetter)
    || (a.joinsDigits && b == .numeric && back .numeric)
    || (a == .numeric && b.joinsDigits && beyond .numeric)
    || (a == .katakana && b == .katakana)
    || ((a.isLetter || a == .numeric || a == .katakana || a == .extendNumLet) && b == .extendNumLet)
    || (a == .extendNumLet && (b.isLetter || b == .numeric || b == .katakana))
    -- flags are pairs of indicators, counted from the first one
    || (a == .regionalIndicator && b == .regionalIndicator
        && ((a :: as).takeWhile (· == .regionalIndicator)).length % 2 == 1)
  | _, _ => false

/-- Whether a word boundary lies between two parts of a text, the first of which is given from its
end backwards. Every end of a text that is not empty is a boundary. -/
def isDefaultBoundary (before after : List Nat) : Bool :=
  match before, after with
  | [], [] => false
  | [], _ => true
  | _, [] => true
  | p :: ps, q :: qs =>
    let a := WordBreak.ofPoint p
    let b := WordBreak.ofPoint q
    if a == .carriageReturn && b == .lineFeed then false
    else if a.isLineBreak || b.isLineBreak then true
    else if a == .joiner && inRanges pictographs q then false
    else if a == .space && b == .space then false
    else if b.isIgnorable then false
    else
      let visible := fun (w : WordBreak) => !w.isIgnorable
      !keepsTogether (((p :: ps).map WordBreak.ofPoint).filter visible)
        (((q :: qs).map WordBreak.ofPoint).filter visible)

end SqlRegexp.Unicode
