import CpuCensus.Text.Alphanumeric
import CpuCensus.Text.Blank
import CpuCensus.Text.Search

/-!
# Environment files

A file of lines `KEY=VALUE` that set the variables that are not set yet. A line goes on over its
end while a quote is open or a blank or backslash comes last. Between single quotes all is literal;
elsewhere a backslash escapes and `$NAME` stands for the value of a variable. The first malformed
line ends the reading, and what was set before it stays set. A value that no variable can hold makes
the whole file fail.
-/

namespace CpuCensus

/-- Variables with their values. -/
abbrev Variables := List (String × String)

/-- The value of a variable: what follows the name and an equals sign in the first entry
`KEY=VALUE` that starts with them. A name with an equals sign in it may reach into a value. -/
def Variables.value? (env : Variables) (name : String) : Option String :=
  env.findSome? fun (key, value) =>
    ((name.toList ++ ['=']).isPrefixOf? (key.toList ++ '=' :: value.toList)).map String.ofList

namespace EnvFile

/-- Where a line stands when its end may come. -/
inductive Mode where
  | plain
  | blank
  | escape
  | weak
  | weakEscape
  | strong
  | strongEscape
  deriving DecidableEq, Repr

/-- Where a character leads outside quotes. -/
def Mode.outside (c : Char) : Mode :=
  if c == '\\' then .escape
  else if c == '"' then .weak
  else if c == '\'' then .strong
  else .plain

/-- Where the next character leads; nowhere if it begins a comment. -/
def Mode.next (m : Mode) (c : Char) : Option Mode :=
  match m with
  | .plain =>
    some (if Text.isBlank c && c != '\n' && c != '\r' then .blank else .outside c)
  | .blank => if c == '#' then none else some (.outside c)
  | .escape => some .plain
  | .weak => some (if c == '\\' then .weakEscape else if c == '"' then .plain else .weak)
  | .weakEscape => some .weak
  | .strong => some (if c == '\\' then .strongEscape else if c == '\'' then .plain else .strong)
  | .strongEscape => some .strong

/-- Where a line leads, or what stands before the comment in it. -/
inductive Reach where
  | mode (mode : Mode)
  | comment (before : List Char)
  deriving DecidableEq, Repr

/-- Follow a line to its end or to a comment. -/
def follow (mode : Mode) (passed : List Char) : List Char → Reach
  | [] => .mode mode
  | c :: cs =>
    match mode.next c with
    | some mode => follow mode (c :: passed) cs
    | none => .comment passed.reverse

/-- The lines of a text, each with the line feed that ends it. -/
def physicalLines : List Char → List (List Char)
  | [] => []
  | c :: cs =>
    if c == '\n' then [c] :: physicalLines cs
    else match physicalLines cs with
      | line :: lines => (c :: line) :: lines
      | [] => [[c]]

/-- A line without its line feed and the carriage return before it. -/
def withoutEnd (line : List Char) : List Char :=
  match line.reverse with
  | '\n' :: '\r' :: rest => rest.reverse
  | '\n' :: rest => rest.reverse
  | _ => line

/-- Join the lines that go on; an entry without text is a line that goes on over the end of the
file. -/
def joined (held : List Char) (mode : Mode) : List (List Char) → List (Option (List Char))
  | [] => if mode = .plain then [] else [none]
  | line :: lines =>
    let whole := held ++ line
    if (whole.dropWhile Text.isBlank).head? == some '#' then some [] :: joined [] .plain lines
    else match follow mode [] line with
      | .comment before => some (held ++ before) :: joined [] .plain lines
      | .mode .plain => some (withoutEnd whole) :: joined [] .plain lines
      | .mode mode => joined whole mode lines

/-- Where the reader of a value stands. -/
inductive Spot where
  | text
  | escape
  | strong
  /-- In a name after a dollar sign, what was read of it in reverse. -/
  | name (read : List Char)
  /-- In a name in braces. -/
  | braced (read : List Char)
  /-- After the value, where only a comment may stand. -/
  | after
  deriving DecidableEq, Repr

/-- The character that an escape stands for. -/
def escaped? (c : Char) : Option Char :=
  if c == 'n' then some '\n'
  else if c == '\\' || c == '\'' || c == '"' || c == '$' || c == ' ' then some c
  else none

/-- Where a character leads in text that is not quoted, if it is not part of the value: between
double quotes or not, and the spot. -/
def mark? (weak : Bool) (c : Char) : Option (Bool × Spot) :=
  if c == '$' then some (weak, .name [])
  else if c == '"' then some (!weak, .text)
  else if c == '\\' then some (weak, .escape)
  else if !weak && c == '\'' then some (weak, .strong)
  else if !weak && (c == ' ' || c == '\t') then some (weak, .after)
  else none

/-- Read a value. The character that ends a name outside braces is kept as it is. -/
def readValue (valueOf : String → String) (weak : Bool) (spot : Spot) :
    List Char → Option (List Char)
  | [] =>
    match spot, weak with
    | .name read, false => some (valueOf (String.ofList read.reverse)).toList
    | .text, false | .escape, false | .after, false => some []
    | _, _ => none
  | c :: cs =>
    match spot with
    | .text =>
      match mark? weak c with
      | some (weak, spot) => readValue valueOf weak spot cs
      | none => (readValue valueOf weak .text cs).map (c :: ·)
    | .escape => do
      let e ← escaped? c
      return e :: (← readValue valueOf weak .text cs)
    | .strong =>
      if c == '\'' then readValue valueOf weak .text cs
      else (readValue valueOf weak .strong cs).map (c :: ·)
    | .name read =>
      if Text.isAlphanumeric c then readValue valueOf weak (.name (c :: read)) cs
      else if c == '\x7b' && read.isEmpty then readValue valueOf weak (.braced []) cs
      else
        let rest :=
          if c == '$' then readValue valueOf weak (.name []) cs
          else (readValue valueOf weak .text cs).map (c :: ·)
        rest.map ((valueOf (String.ofList read.reverse)).toList ++ ·)
    | .braced read =>
      if c == '\x7d' then
        (readValue valueOf weak .text cs).map
          ((valueOf (String.ofList read.reverse)).toList ++ ·)
      else readValue valueOf weak (.braced (c :: read)) cs
    | .after =>
      if c == ' ' || c == '\t' then readValue valueOf weak .after cs
      else if c == '#' then some []
      else none

/-- Read a key, and drop the blanks after it. -/
def readKey : List Char → Option (String × List Char)
  | [] => none
  | c :: cs =>
    let inKey (c : Char) := c.isAlphanum || c == '_' || c == '.'
    if c.isAlpha || c == '_' then
      some (String.ofList (c :: cs.takeWhile inKey), (cs.dropWhile inKey).dropWhile Text.isBlank)
    else none

/-- Read a key and the equals sign after it; the word `export` may stand before the key. -/
def readAssignee (line : List Char) : Option (String × List Char) := do
  match ← readKey line with
  | (key, '=' :: rest) => some (key, rest)
  | ("export", rest) =>
    match ← readKey rest with
    | (key, '=' :: rest) => some (key, rest)
    | _ => none
  | _ => none

/-- What a line says. -/
inductive Line where
  | nothing
  | entry (key value : String)
  | malformed
  deriving DecidableEq, Repr

/-- A line with nothing but a comment, if that. -/
def isVoid (line : List Char) : Bool := line.isEmpty || line.head? == some '#'

/-- Read a line. -/
def readLine (valueOf : String → String) (line : List Char) : Line :=
  let line := (Text.trimEndChars line).dropWhile Text.isBlank
  if isVoid line then .nothing
  else match readAssignee line with
    | none => .malformed
    | some (key, rest) =>
      let rest := rest.dropWhile Text.isBlank
      if isVoid rest then .entry key ""
      else match readValue valueOf false .text rest with
        | some value => .entry key (String.ofList value)
        | none => .malformed

/-- The variable cannot be set to the value that it is given. -/
structure Unsettable where
  key : String
  deriving DecidableEq, Repr

/-- A variable can hold the value: every text without the character of number zero. -/
def isHoldable (value : String) : Bool := !Text.contains value "\x00"

/-- Set a variable that is not set yet. -/
def setNew (env : Variables) (key value : String) : Except Unsettable Variables :=
  if (env.value? key).isSome then .ok env
  else if isHoldable value then .ok (env ++ [(key, value)])
  else .error { key }

/-- Read lines up to the first malformed one. -/
def loadLines (env : Variables) : List (Option (List Char)) → Except Unsettable Variables
  | [] | none :: _ => .ok env
  | some line :: lines =>
    match readLine (fun name => (env.value? name).getD "") line with
    | .nothing => loadLines env lines
    | .entry key value => (setNew env key value).bind fun env => loadLines env lines
    | .malformed => .ok env

/-- Set the variables that a file sets; a mark of the byte order at its start is dropped. -/
def load (env : Variables) (text : String) : Except Unsettable Variables :=
  let cs := match text.toList with
    | '\uFEFF' :: cs => cs
    | cs => cs
  loadLines env (joined [] .plain (physicalLines cs))

end EnvFile

end CpuCensus
