/-!
# Lossy decoding

Bytes read as UTF-8, where every longest run that starts a character and breaks off is replaced by
one replacement character.
-/

namespace CpuCensus.Text

/-- The character that stands for bytes that cannot be read. -/
def replacement : Char := Char.ofNat 0xFFFD

/-- The low six bits of a continuation byte. -/
def tailBits (b : UInt8) : Nat := b.toNat % 0x40

/-- The byte may continue a character. -/
def isTail (b : UInt8) : Bool := 0x80 ≤ b.toNat && b.toNat ≤ 0xBF

/-- The second byte may follow the first of a character of three bytes. -/
def fitsThree (first second : UInt8) : Bool :=
  isTail second && (first != 0xE0 || 0xA0 ≤ second.toNat) && (first != 0xED || second.toNat ≤ 0x9F)

/-- The second byte may follow the first of a character of four bytes. -/
def fitsFour (first second : UInt8) : Bool :=
  isTail second && (first != 0xF0 || 0x90 ≤ second.toNat) && (first != 0xF4 || second.toNat ≤ 0x8F)

/-- The first character of the bytes, and how many bytes after the first one it takes. -/
def decodeFirst (first : UInt8) (rest : List UInt8) : Char × Nat :=
  let n := first.toNat
  if n < 0x80 then (Char.ofNat n, 0)
  else if 0xC2 ≤ n && n ≤ 0xDF then
    match rest with
    | b :: _ =>
      if isTail b then (Char.ofNat (n % 0x20 * 0x40 + tailBits b), 1) else (replacement, 0)
    | [] => (replacement, 0)
  else if 0xE0 ≤ n && n ≤ 0xEF then
    match rest with
    | b :: c :: _ =>
      if !fitsThree first b then (replacement, 0)
      else if !isTail c then (replacement, 1)
      else (Char.ofNat ((n % 0x10 * 0x40 + tailBits b) * 0x40 + tailBits c), 2)
    | [b] => (replacement, if fitsThree first b then 1 else 0)
    | [] => (replacement, 0)
  else if 0xF0 ≤ n && n ≤ 0xF4 then
    match rest with
    | b :: c :: d :: _ =>
      if !fitsFour first b then (replacement, 0)
      else if !isTail c then (replacement, 1)
      else if !isTail d then (replacement, 2)
      else
        (Char.ofNat (((n % 0x08 * 0x40 + tailBits b) * 0x40 + tailBits c) * 0x40 + tailBits d), 3)
    | [b, c] => (replacement, if !fitsFour first b then 0 else if !isTail c then 1 else 2)
    | [b] => (replacement, if fitsFour first b then 1 else 0)
    | [] => (replacement, 0)
  else (replacement, 0)

/-- The characters of the bytes. -/
def decodeLossy : List UInt8 → List Char
  | [] => []
  | b :: rest =>
    let (c, taken) := decodeFirst b rest
    c :: decodeLossy (rest.drop taken)
termination_by bytes => bytes.length
decreasing_by simp only [List.length_drop, List.length_cons]; omega

/-- The text of the bytes. -/
def ofBytesLossy (bytes : ByteArray) : String := String.ofList (decodeLossy bytes.toList)

end CpuCensus.Text
