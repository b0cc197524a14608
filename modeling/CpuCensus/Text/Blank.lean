/-!
# Blank characters

The characters of the Unicode property White_Space, and the text that remains when they are
taken off both ends.
-/

namespace CpuCensus.Text

/-- The characters of the Unicode property White_Space. -/
def isBlank (c : Char) : Bool :=
  let n := c.toNat
  (0x09 ≤ n && n ≤ 0x0D) || n == 0x20 || n == 0x85 || n == 0xA0 || n == 0x1680 ||
    (0x2000 ≤ n && n ≤ 0x200A) || n == 0x2028 || n == 0x2029 || n == 0x202F || n == 0x205F ||
    n == 0x3000

/-- The characters that remain when blanks are taken off the end. -/
def trimEndChars (cs : List Char) : List Char := (cs.reverse.dropWhile isBlank).reverse

/-- The characters that remain when blanks are taken off both ends. -/
def trimChars (cs : List Char) : List Char := trimEndChars (cs.dropWhile isBlank)

/-- The text that remains when blanks are taken off both ends. -/
def trim (s : String) : String := String.ofList (trimChars s.toList)

/-- Nothing remains of the text when blanks are taken off. -/
def isAllBlank (s : String) : Bool := (trim s).isEmpty

/-- Trimming a text trims its characters. -/
@[simp] theorem toList_trim (s : String) : (trim s).toList = trimChars s.toList := by
  simp [trim]

end CpuCensus.Text
