/-!
# Text literals

Reading of the characters between the quotation marks of a text. A text can be read for its value or
only skipped: skipping accepts escapes that stand for no character.
-/

namespace CpuCensus.Json

/-- Why a JSON text is refused. -/
inductive Fault where
  /-- It breaks the rules of the notation or the range of numbers. -/
  | malformed
  /-- It follows the rules but says something else than what is asked for. -/
  | mismatch
  /-- It ends too early. -/
  | truncated
  deriving DecidableEq, Repr

/-- The value of a hexadecimal digit. -/
def hexValue? (c : Char) : Option Nat :=
  if c.isDigit then some (c.toNat - 48)
  else if 'a' ≤ c ∧ c ≤ 'f' then some (c.toNat - 87)
  else if 'A' ≤ c ∧ c ≤ 'F' then some (c.toNat - 55)
  else none

/-- How many bytes the characters take. -/
def byteCount : List Char → Nat
  | [] => 0
  | c :: cs => c.utf8Size + byteCount cs

/-- The number that the first four characters write in hexadecimal. It is cut off if fewer than four
bytes are left, whatever they are. -/
def hexUnit (cs : List Char) : Except Fault Nat :=
  match cs with
  | a :: b :: c :: d :: _ =>
    match hexValue? a, hexValue? b, hexValue? c, hexValue? d with
    | some a, some b, some c, some d => .ok (((a * 16 + b) * 16 + c) * 16 + d)
    | _, _, _, _ => .error .malformed
  | short => if byteCount short < 4 then .error .truncated else .error .malformed

/-- The character that a letter after a backslash stands for. -/
def shortEscape? (c : Char) : Option Char :=
  match c with
  | '"' => some '"'
  | '\\' => some '\\'
  | '/' => some '/'
  | 'b' => some '\x08'
  | 'f' => some '\x0c'
  | 'n' => some '\n'
  | 'r' => some '\r'
  | 't' => some '\t'
  | _ => none

/-- The unit is the first of a pair that stands for one character. -/
def isLeading (n : Nat) : Bool := 0xD800 ≤ n && n ≤ 0xDBFF

/-- The unit is the second of such a pair. -/
def isTrailing (n : Nat) : Bool := 0xDC00 ≤ n && n ≤ 0xDFFF

/-- The character that a pair of units stands for. -/
def ofPair (leading trailing : Nat) : Char :=
  Char.ofNat ((leading - 0xD800) * 0x400 + (trailing - 0xDC00) + 0x10000)

/-- Skip a text whose opening mark has been read; the answer is what follows its closing mark. -/
def skipText : List Char → Except Fault (List Char)
  | [] => .error .truncated
  | '"' :: cs => .ok cs
  | ['\\'] => .error .truncated
  | '\\' :: 'u' :: cs =>
    match hexUnit cs with
    | .ok _ => skipText cs
    | .error fault => .error fault
  | '\\' :: c :: cs => if (shortEscape? c).isSome then skipText cs else .error .malformed
  | c :: cs => if c.toNat < 0x20 then .error .malformed else skipText cs

/-- Read the second unit of a pair, which must follow the first one at once. -/
def trailingUnit : List Char → Except Fault Nat
  | [] => .error .truncated
  | ['\\'] => .error .truncated
  | '\\' :: 'u' :: cs =>
    match hexUnit cs with
    | .ok n => if isTrailing n then .ok n else .error .malformed
    | .error fault => .error fault
  | _ => .error .malformed

/-- Read a text whose opening mark has been read. -/
def readText : List Char → Except Fault (List Char)
  | [] => .error .truncated
  | '"' :: _ => .ok []
  | ['\\'] => .error .truncated
  | '\\' :: 'u' :: cs =>
    match hexUnit cs with
    | .error fault => .error fault
    | .ok n =>
      if isTrailing n then .error .malformed
      else if isLeading n then
        match trailingUnit (cs.drop 4) with
        | .error fault => .error fault
        | .ok m => (readText (cs.drop 10)).map (ofPair n m :: ·)
      else (readText (cs.drop 4)).map (Char.ofNat n :: ·)
  | '\\' :: c :: cs =>
    match shortEscape? c with
    | some e => (readText cs).map (e :: ·)
    | none => .error .malformed
  | c :: cs => if c.toNat < 0x20 then .error .malformed else (readText cs).map (c :: ·)
termination_by cs => cs.length
decreasing_by all_goals (simp only [List.length_drop, List.length_cons]; omega)

/-- Skipping a text leaves no more than there was. -/
theorem length_skipText {cs rest : List Char} (h : skipText cs = .ok rest) :
    rest.length ≤ cs.length := by
  fun_induction skipText cs <;> grind

end CpuCensus.Json
