/-!
# Writing JSON

Literals of texts and numbers, and the two layouts of objects: on one line, and spread over lines
with two spaces for each level.
-/

namespace CpuCensus.Json

/-- A hexadecimal digit, in small letters. -/
def hexDigit (n : Nat) : Char := if n < 10 then Char.ofNat (48 + n) else Char.ofNat (87 + n)

/-- A character as it stands inside a text literal. -/
def escapedChar (c : Char) : List Char :=
  if c == '"' then ['\\', '"']
  else if c == '\\' then ['\\', '\\']
  else if c == '\x08' then ['\\', 'b']
  else if c == '\x09' then ['\\', 't']
  else if c == '\x0a' then ['\\', 'n']
  else if c == '\x0c' then ['\\', 'f']
  else if c == '\x0d' then ['\\', 'r']
  else if c.toNat < 0x20 then
    ['\\', 'u', '0', '0', hexDigit (c.toNat / 16), hexDigit (c.toNat % 16)]
  else [c]

/-- The literal of a text. -/
def text (s : String) : String :=
  String.ofList ('"' :: (s.toList.flatMap escapedChar ++ ['"']))

/-- The literal of a number. -/
def number (n : Nat) : String := Nat.repr n

/-- The literal of a value that may be absent. -/
def optional {α : Type} (literal : α → String) : Option α → String
  | none => "null"
  | some a => literal a

/-- A member of an object: its key and the literal of its value. -/
abbrev Member := String × String

/-- An object on one line. -/
def compactObject (members : List Member) : String :=
  "\x7b" ++ String.intercalate "," (members.map fun (key, value) => text key ++ ":" ++ value) ++
    "\x7d"

/-- The start of a line at a level. -/
def indent (level : Nat) : String := String.ofList (List.replicate (2 * level) ' ')

/-- An object whose members stand on lines of their own, one level in from its braces. -/
def object (level : Nat) (members : List Member) : String :=
  "\x7b\n" ++
    String.intercalate ",\n"
      (members.map fun (key, value) => indent (level + 1) ++ text key ++ ": " ++ value) ++
    "\n" ++ indent level ++ "\x7d"

/-- An array whose items stand on lines of their own; the items are laid out for the next level. -/
def array (level : Nat) (items : List String) : String :=
  if items.isEmpty then "[]"
  else
    "[\n" ++ String.intercalate ",\n" (items.map fun item => indent (level + 1) ++ item) ++ "\n" ++
      indent level ++ "]"

end CpuCensus.Json
