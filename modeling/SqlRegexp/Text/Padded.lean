/-!
Texts and numbers brought to a least width.
-/

namespace SqlRegexp.Text

/-- A text followed by blanks up to a width. -/
def padRight (width : Nat) (cs : List Char) : List Char :=
  cs ++ List.replicate (width - cs.length) ' '

/-- A text with blanks in front of it up to a width. -/
def padLeft (fill : Char) (width : Nat) (cs : List Char) : List Char :=
  List.replicate (width - cs.length) fill ++ cs

/-- The digits of a number with zeros in front up to a width, of which a minus sign is a part. -/
def zeroPadded (width : Nat) (n : Int) : List Char :=
  let ds := Nat.toDigits 10 n.natAbs
  if n < 0 then '-' :: padLeft '0' (width - 1) ds else padLeft '0' width ds

end SqlRegexp.Text
