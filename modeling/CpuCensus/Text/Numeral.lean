/-!
# Decimal numerals

Reading of whole numbers: an optional sign and one or more ASCII digits, nothing else, with a
value inside a given range.
-/

namespace CpuCensus.Text

/-- One more than the largest 32-bit number. -/
def bound32 : Nat := UInt32.size

/-- One more than the largest 64-bit number. -/
def bound64 : Nat := UInt64.size

/-- The value of a digit. -/
def digitValue (c : Char) : Nat := c.toNat - '0'.toNat

/-- The number that the digits write after those that wrote `acc`. -/
def digitsFrom (acc : Nat) : List Char → Option Nat
  | [] => some acc
  | c :: cs => if c.isDigit then digitsFrom (10 * acc + digitValue c) cs else none

/-- The number that one or more digits write. -/
def ofDigits? : List Char → Option Nat
  | [] => none
  | c :: cs => digitsFrom 0 (c :: cs)

/-- Read digits after an optional plus sign. -/
def unsignedChars? : List Char → Option Nat
  | '+' :: cs => ofDigits? cs
  | cs => ofDigits? cs

/-- Read a number below the bound: digits after an optional plus sign. -/
def unsigned? (bound : Nat) (s : String) : Option Nat :=
  (unsignedChars? s.toList).filter (· < bound)

/-- Read digits after an optional sign. -/
def signedChars? : List Char → Option Int
  | '-' :: cs => (ofDigits? cs).map fun (n : Nat) => -(n : Int)
  | cs => (unsignedChars? cs).map fun (n : Nat) => (n : Int)

/-- Read a number of the 64-bit signed range: digits after an optional sign. -/
def signed? (s : String) : Option Int :=
  (signedChars? s.toList).filter fun n => -9223372036854775808 ≤ n && n ≤ 9223372036854775807

/-- The decimal digits of a number, with zeros in front up to a width. -/
def padded (width n : Nat) : String :=
  let digits := Nat.repr n
  String.ofList (List.replicate (width - digits.length) '0') ++ digits

end CpuCensus.Text
