import SqlRegexp.Unicode.Repertoire

/-!
The options under which a pattern is read and matched. Those that a call cannot ask for are left
out: search from the right, the choice of a version, and the characters of the locale.
-/

namespace SqlRegexp.Pattern

open SqlRegexp.Unicode

/-- How case enters a comparison of letters. -/
inductive Casing where
  /-- Letters match themselves only. -/
  | exact
  /-- Letters match their variants. -/
  | simple
  /-- Letters match their variants and the several letters that they fold to. -/
  | full
deriving DecidableEq, Repr

structure Options where
  /-- Letters match in either case. -/
  ignoreCase : Bool := false
  /-- `^` and `$` match at every line. -/
  multiline : Bool := false
  /-- `.` matches the end of a line too. -/
  dotAll : Bool := false
  /-- Classes cover all scripts; they do anyway unless `ascii` is set. -/
  unicode : Bool := false
  /-- Blanks and comments in the pattern are ignored. -/
  verbose : Bool := false
  /-- Classes cover the Western characters only. -/
  ascii : Bool := false
  /-- Word boundaries and line ends follow the standard's default rules. -/
  word : Bool := false
  /-- Of approximate matches the best is wanted. -/
  bestMatch : Bool := false
  /-- Together with `ignoreCase`, one letter may match the several it folds to. -/
  fullCase : Bool := false
  /-- An approximate match is improved. -/
  enhanceMatch : Bool := false
  /-- Of the matches at a place the longest is taken. -/
  posix : Bool := false
deriving DecidableEq, Repr, Inhabited

namespace Options

/-- The options in the order of their bits. -/
def bits (o : Options) : List (Bool × Nat) :=
  [(o.ignoreCase, 0x2), (o.multiline, 0x8), (o.dotAll, 0x10), (o.unicode, 0x20), (o.verbose, 0x40),
   (o.ascii, 0x80), (o.word, 0x800), (o.bestMatch, 0x1000), (o.fullCase, 0x4000),
   (o.enhanceMatch, 0x8000), (o.posix, 0x10000)]

/-- The options as one number, a bit for each. -/
def mask (o : Options) : Nat := o.bits.foldl (fun total b => if b.1 then total + b.2 else total) 0

/-- The options set in either. -/
def union (a b : Options) : Options where
  ignoreCase := a.ignoreCase || b.ignoreCase
  multiline := a.multiline || b.multiline
  dotAll := a.dotAll || b.dotAll
  unicode := a.unicode || b.unicode
  verbose := a.verbose || b.verbose
  ascii := a.ascii || b.ascii
  word := a.word || b.word
  bestMatch := a.bestMatch || b.bestMatch
  fullCase := a.fullCase || b.fullCase
  enhanceMatch := a.enhanceMatch || b.enhanceMatch
  posix := a.posix || b.posix

/-- The options set in the first and not in the second. -/
def without (a b : Options) : Options where
  ignoreCase := a.ignoreCase && !b.ignoreCase
  multiline := a.multiline && !b.multiline
  dotAll := a.dotAll && !b.dotAll
  unicode := a.unicode && !b.unicode
  verbose := a.verbose && !b.verbose
  ascii := a.ascii && !b.ascii
  word := a.word && !b.word
  bestMatch := a.bestMatch && !b.bestMatch
  fullCase := a.fullCase && !b.fullCase
  enhanceMatch := a.enhanceMatch && !b.enhanceMatch
  posix := a.posix && !b.posix

/-- The options set in both. -/
def inter (a b : Options) : Options := a.without (a.without b)

/-- Those of the options that hold for the whole pattern wherever they are set. -/
def global (o : Options) : Options :=
  { bestMatch := o.bestMatch, enhanceMatch := o.enhanceMatch, posix := o.posix }

def isEmpty (o : Options) : Bool := o == {}

/-- The options after some are switched on and others off. -/
def adjust (o on off : Options) : Options := (o.union on).without off

/-- The options inside a parenthesis that switches some on and others off. The repertoire is what
this parenthesis asks for, and nothing in particular if it asks for none. -/
def adjustInside (o on off : Options) : Options :=
  { o.adjust on off with ascii := on.ascii, unicode := on.unicode }

/-- The repertoire that the options ask for, if they do. -/
def repertoire? (o : Options) : Option Repertoire :=
  if o.ascii then some .western else if o.unicode then some .worldwide else none

/-- How letters match under the options. Only outside the Western repertoire do letters fold to
several. -/
def casing (o : Options) : Casing :=
  if !o.ignoreCase then .exact else if o.fullCase && !o.ascii then .full else .simple

end Options

end SqlRegexp.Pattern
