import SqlRegexp.Text.Radix
import SqlRegexp.Yaml.Cursor

/-!
Scalars in quotes. In single quotes a quote is written twice; in double quotes a backslash starts an
escape. Line ends are folded: a single one counts as a space, and of several the first counts
nothing.
-/

namespace SqlRegexp.Yaml

open SqlRegexp.Text

namespace Reading

/-- The character that an escape letter stands for. -/
def namedEscape? (c : Char) : Option Char :=
  [('0', 0), ('a', 7), ('b', 8), ('t', 9), ('\t', 9), ('n', 0xA), ('v', 0xB), ('f', 0xC),
   ('r', 0xD), ('e', 0x1B), (' ', 0x20), ('"', 0x22), ('\\', 0x5C), ('/', 0x2F), ('N', 0x85),
   ('_', 0xA0), ('L', 0x2028), ('P', 0x2029)].lookup c |>.map Char.ofNat

/-- The number of hexadecimal digits after an escape letter. -/
def escapeWidth? (c : Char) : Option Nat := [('x', 2), ('u', 4), ('U', 8)].lookup c

/-- The character of a code. A code that only a pair can use is replaced by the sign for that. -/
def characterOf (code : Nat) : Reading Char :=
  if 0x10FFFF < code then throw (.noCharacter code)
  else if 0xD800 ≤ code ∧ code < 0xE000 then return Char.ofNat 0xFFFD
  else return Char.ofNat code

/-- The character of an escape with hexadecimal digits. -/
def numberedEscape (width : Nat) : Reading Char := do
  let ds := ((← get).rest.take width).filterMap hexValue?
  demand (ds.length == width)
  skip width
  characterOf (ofDigits 16 ds)

/-- Passes line ends with the blanks before each of them, within quotes, and gives what they stand
for. No mark between documents may follow a line end. -/
def quotedBreaks : (limit : Nat) → Reading (List Char)
  | 0 => refuse
  | limit + 1 => do
    if (← isDocumentFence) then refuse
    skipWhile isGap
    match (← lineBreak) with
    | [] => return []
    | b => return b ++ (← quotedBreaks limit)

/-- What a line end stands for, given the further line ends after it. -/
def folded (first more : List Char) : List Char :=
  if first != ['\n'] then first ++ more else if more.isEmpty then [' '] else more

/-- Blanks within quotes, and line ends after them. -/
def quotedGap (limit : Nat) : Reading (List Char) := do
  let blanks ← takeWhile isGap
  match (← peek) with
  | none => refuse
  | some _ =>
    match (← lineBreak) with
    | [] => return blanks
    | b => return folded b (← quotedBreaks limit)

/-- An escape, after its backslash. -/
def escape (limit : Nat) : Reading (List Char) := do
  match (← peek) with
  | none => refuse
  | some c =>
    match namedEscape? c, escapeWidth? c with
    | some d, _ => skip 1; return [d]
    | none, some width => skip 1; return [(← numberedEscape width)]
    | none, none =>
      if isBreak c then
        let _ ← lineBreak
        quotedBreaks limit
      else refuse

/-- The inside of quotes, up to and with the closing quote. -/
def quotedRest (quote : Char) : (limit : Nat) → Reading (List Char)
  | 0 => refuse
  | limit + 1 => do
    match (← peek) with
    | none => refuse
    | some c =>
      if c = quote then
        skip 1
        if quote = '\'' && (← isAhead 0 (· == '\'')) then
          skip 1
          return '\'' :: (← quotedRest quote limit)
        return []
      let part ←
        if isGap c || isBreak c then quotedGap limit
        else if c = '\\' && quote = '"' then do skip 1; escape limit
        else do skip 1; pure [c]
      return part ++ (← quotedRest quote limit)

def quotedScalar (quote : Char) : Reading (List Char) := do
  skip 1
  quotedRest quote ((← get).rest.length + 1)

end Reading

end SqlRegexp.Yaml
