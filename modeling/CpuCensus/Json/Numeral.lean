import CpuCensus.Json.Literal
import CpuCensus.Text.Numeral

/-!
# Number literals

The parts of a number literal, and what it is worth to a reader of whole numbers. A number whose
rounding to 53 binary digits reaches 2 to the 1024 is out of range: its digits, the power of ten and
their product are rounded one after the other.
-/

namespace CpuCensus.Json

/-- The parts of a number literal. -/
structure Numeral where
  negative : Bool
  whole : List Char
  fraction : Option (List Char) := none
  /-- Whether the exponent is negative, and its digits. -/
  exponent : Option (Bool × List Char) := none
  deriving DecidableEq, Repr

/-- What the scan of a number literal finds. -/
inductive NumeralScan where
  | complete (numeral : Numeral) (rest : List Char)
  /-- A digit is missing; `atEnd` tells whether the text ends there. -/
  | broken (atEnd : Bool)

/-- Scan digits of which there must be one. -/
def scanDigits (cs : List Char) : Except Bool (List Char × List Char) :=
  let digits := cs.takeWhile Char.isDigit
  if digits.isEmpty then .error cs.isEmpty else .ok (digits, cs.dropWhile Char.isDigit)

/-- Take off the sign of an exponent; the answer tells whether it is negative. -/
def scanSign : List Char → Bool × List Char
  | '+' :: cs => (false, cs)
  | '-' :: cs => (true, cs)
  | cs => (false, cs)

/-- Scan an exponent if there is one. -/
def scanExponent (n : Numeral) (cs : List Char) : NumeralScan :=
  match cs with
  | c :: cs =>
    if c == 'e' || c == 'E' then
      let sign := scanSign cs
      match scanDigits sign.2 with
      | .error atEnd => .broken atEnd
      | .ok (digits, rest) => .complete { n with exponent := some (sign.1, digits) } rest
    else .complete n (c :: cs)
  | [] => .complete n []

/-- Scan a fraction and an exponent as far as there are any. -/
def scanFraction (n : Numeral) (cs : List Char) : NumeralScan :=
  match cs with
  | '.' :: cs =>
    match scanDigits cs with
    | .error atEnd => .broken atEnd
    | .ok (digits, rest) => scanExponent { n with fraction := some digits } rest
  | cs => scanExponent n cs

/-- Scan a number literal without its minus sign; a zero in front of digits is refused. -/
def scanUnsigned (negative : Bool) (cs : List Char) : NumeralScan :=
  match scanDigits cs with
  | .error atEnd => .broken atEnd
  | .ok (digits, rest) =>
    match digits with
    | '0' :: _ :: _ => .broken false
    | _ => scanFraction { negative, whole := digits } rest

/-- Scan a number literal. -/
def scanNumeral (cs : List Char) : NumeralScan :=
  match cs with
  | '-' :: cs => scanUnsigned true cs
  | cs => scanUnsigned false cs

/-- Round to 53 binary digits, a tie to the even neighbour. -/
def round53 (n : Nat) : Nat :=
  let unit := 1 <<< (n.log2 - 52)
  let low := n / unit
  let twice := 2 * (n % unit)
  (if twice < unit then low else if unit < twice then low + 1 else low + low % 2) * unit

/-- The number `significand · 10 ^ exponent` is out of range. -/
def outOfRange (significand : Nat) (exponent : Int) : Bool :=
  significand != 0 && 0 ≤ exponent &&
    (308 < exponent ||
      1 <<< 1024 ≤ round53 (round53 significand * round53 (Nat.pow 10 exponent.toNat)))

/-- Digits taken into a number as long as it stays a 64-bit number, and how many are left over. -/
def takeDigits (acc : Nat) : List Char → Nat × Nat
  | [] => (acc, 0)
  | c :: cs =>
    let next := 10 * acc + Text.digitValue c
    if next < Text.bound64 then takeDigits next cs else (acc, cs.length + 1)

namespace Numeral

/-- The exponent as it is written. -/
def writtenExponent (n : Numeral) : Int :=
  match n.exponent with
  | none => 0
  | some (negative, digits) =>
    let value : Int := ((Text.digitsFrom 0 digits).getD 0 : Nat)
    if negative then -value else value

/-- The number is out of range. Its digits count as far as they fit a 64-bit number. -/
def overflows (n : Numeral) : Bool :=
  let (whole, left) := takeDigits 0 n.whole
  let fraction := n.fraction.getD []
  let (significand, unused) := takeDigits whole fraction
  outOfRange significand (left - ((fraction.length - unused : Nat) : Int) + n.writtenExponent)

/-- What the number is to a reader of whole numbers: its value if it is written as digits alone and
fits 64 bits, nothing if it is another number in range. -/
def value (n : Numeral) : Except Fault (Option Nat) :=
  let plain := !n.negative && n.fraction.isNone && n.exponent.isNone
  match (Text.digitsFrom 0 n.whole).filter (· < Text.bound64) with
  | some value =>
    if plain then .ok (some value) else if n.overflows then .error .malformed else .ok none
  | none => if n.overflows then .error .malformed else .ok none

end Numeral

end CpuCensus.Json
