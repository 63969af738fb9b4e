import SqlRegexp.Unicode.Ranges

/-!
Decimal digits of every script, and the digit characters that have a digit's value without being
part of a decimal system, such as superscripts and circled digits.
-/

namespace SqlRegexp.Unicode

/-- The zeros of the decimal systems; the digits one to nine follow each of them. -/
def decimalZeros : Array Nat := ((words table).map readHex).toArray
where
  /-- The written zeros. -/
  table : String :=
    "30 660 6F0 7C0 966 9E6 A66 AE6 B66 BE6 C66 CE6 D66 DE6 E50 ED0 F20 1040 1090 17E0 1810 1946
     19D0 1A80 1A90 1B50 1BB0 1C40 1C50 A620 A8D0 A900 A9D0 A9F0 AA50 ABF0 FF10 104A0 10D30
     11066 110F0 11136 111D0 112F0 11450 114D0 11650 116C0 11730 118E0 11950 11C50 11D50 11DA0
     11F50 16A60 16AC0 16B50 1D7CE 1D7D8 1D7E2 1D7EC 1D7F6 1E140 1E2F0 1E4F0 1E950 1FBF0"

/-- The value of a decimal digit of any script. -/
def decimalDigit? (n : Nat) : Option Nat :=
  if n < 0x80 then if 0x30 ≤ n ∧ n ≤ 0x39 then some (n - 0x30) else none
  else
    match governing? decimalZeros id n with
    | some low => if n < low + 10 then some (n - low) else none
    | none => none

/-- Whether a code point is a decimal digit of some script. -/
def isDecimalDigit (n : Nat) : Bool := (decimalDigit? n).isSome

/-- Digit characters outside the decimal systems. -/
def otherDigits : Array Range := readRanges
  "B2-B3 B9 1369-1371 19DA 2070 2074-2079 2080-2089 2460-2468 2474-247C 2488-2490 24EA 
   24F5-24FD 24FF 2776-277E 2780-2788 278A-2792 10A40-10A43 10E60-10E68 11052-1105A 
   1F100-1F10A"

/-- Whether a code point is a digit character, inside or outside the decimal systems. -/
def isDigitChar (n : Nat) : Bool :=
  if n < 0x80 then isDecimalDigit n else isDecimalDigit n || inRanges otherDigits n

end SqlRegexp.Unicode
