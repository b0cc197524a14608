import CpuCensus.Json.Token

/-!
# Skipping values

A value that nobody asks for is skipped, however deeply it is nested: a stack tells the arrays and
objects that are open.
-/

namespace CpuCensus.Json

/-- What is open around a position. -/
inductive Frame where
  | array
  | object
  deriving DecidableEq, Repr

/-- What may come next while a value is skipped. -/
inductive Awaited where
  | value
  /-- The first item of an array or the first key of an object, or its end. -/
  | first
  /-- A comma or the end of what is open. -/
  | next
  | key
  | colon
  deriving DecidableEq, Repr

/-- Skip the rest of a value; the answer is what follows it. -/
def skip (awaited : Awaited) (stack : List Frame) : List Token → Except Fault (List Token)
  | [] => .error .truncated
  | token :: tokens =>
    let leave (stack : List Frame) :=
      if stack.isEmpty then .ok tokens else skip .next stack tokens
    match awaited, stack, token with
    | .value, _, .word _ | .value, _, .number _ | .value, _, .text _ => leave stack
    | .value, _, .openBracket => skip .first (.array :: stack) tokens
    | .value, _, .openBrace => skip .first (.object :: stack) tokens
    | .value, _, .brokenText _ skipped | .value, _, .broken _ skipped => .error skipped
    | .first, .array :: stack, .closeBracket => leave stack
    | .first, .array :: _, .word _
    | .first, .array :: _, .number _
    | .first, .array :: _, .text _ =>
      skip .next stack tokens
    | .first, .array :: _, .openBracket => skip .first (.array :: stack) tokens
    | .first, .array :: _, .openBrace => skip .first (.object :: stack) tokens
    | .first, .array :: _, .brokenText _ skipped | .first, .array :: _, .broken _ skipped =>
      .error skipped
    | .first, .object :: stack, .closeBrace => leave stack
    | .first, .object :: _, .text _ | .key, _, .text _ => skip .colon stack tokens
    | .first, .object :: _, .brokenText _ skipped | .key, _, .brokenText _ skipped =>
      .error skipped
    | .colon, _, .colon => skip .value stack tokens
    | .next, .array :: _, .comma => skip .value stack tokens
    | .next, .object :: _, .comma => skip .key stack tokens
    | .next, .array :: stack, .closeBracket => leave stack
    | .next, .object :: stack, .closeBrace => leave stack
    | _, _, _ => .error .malformed

/-- Skip one value; the answer is what follows it. -/
def skipValue (tokens : List Token) : Except Fault (List Token) := skip .value [] tokens

/-- Skipping takes at least one token. -/
theorem length_skip {awaited : Awaited} {stack : List Frame} {tokens rest : List Token}
    (h : skip awaited stack tokens = .ok rest) : rest.length < tokens.length := by
  induction tokens generalizing awaited stack with
  | nil => simp [skip] at h
  | cons token tokens ih =>
    have leave {s : List Frame}
        (h : (if s.isEmpty then .ok tokens else skip .next s tokens) = .ok rest) :
        rest.length < (token :: tokens).length := by
      split at h
      · simp_all
      · have := ih h
        simp only [List.length_cons]
        omega
    have goOn {a : Awaited} {s : List Frame} (h : skip a s tokens = .ok rest) :
        rest.length < (token :: tokens).length := by
      have := ih h
      simp only [List.length_cons]
      omega
    unfold skip at h
    simp only at h
    split at h
    all_goals first | exact leave h | exact goOn h | simp at h

end CpuCensus.Json
