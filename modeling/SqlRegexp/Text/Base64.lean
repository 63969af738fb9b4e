import SqlRegexp.Text.Radix

/-!
Reading Base64 leniently: characters outside the alphabet are skipped, and the padding that
completes a group of four ends the text.
-/

namespace SqlRegexp.Text.Base64

/-- The value of a character of the alphabet. -/
def digit? (c : Char) : Option Nat :=
  if 'A' ≤ c ∧ c ≤ 'Z' then some (c.toNat - 'A'.toNat)
  else if 'a' ≤ c ∧ c ≤ 'z' then some (c.toNat - 'a'.toNat + 26)
  else if c = '+' then some 62
  else if c = '/' then some 63
  else (decimalValue? c).map (· + 52)

/-- The bytes that the digits of a group complete. -/
def bytesOf : List Nat → List UInt8
  | [a, b, c, d] =>
    let n := ((a * 64 + b) * 64 + c) * 64 + d
    [UInt8.ofNat (n / 65536), UInt8.ofNat (n / 256), UInt8.ofNat n]
  | [a, b, c] =>
    let n := (a * 64 + b) * 64 + c
    [UInt8.ofNat (n / 1024), UInt8.ofNat (n / 4)]
  | [a, b] => [UInt8.ofNat ((a * 64 + b) / 16)]
  | _ => []

/-- Reads on with the digits of an open group and the number of pads after them. A text that ends
within a group is refused. -/
def readFrom : (group : List Nat) → (pads : Nat) → List Char → Option (List UInt8)
  | [], _, [] => some []
  | _ :: _, _, [] => none
  | group, pads, c :: cs =>
    if c = '=' then
      if 2 ≤ group.length ∧ 4 ≤ group.length + (pads + 1) then some (bytesOf group)
      else readFrom group (if 2 ≤ group.length then pads + 1 else pads) cs
    else
      match digit? c with
      | none => readFrom group pads cs
      | some d =>
        if group.length = 3 then
          (readFrom [] 0 cs).map (bytesOf (group ++ [d]) ++ ·)
        else readFrom (group ++ [d]) 0 cs

/-- The bytes that a text denotes. -/
def decode (cs : List Char) : Option (List UInt8) := readFrom [] 0 cs

end SqlRegexp.Text.Base64
