import CpuCensus.Json.Numeral

/-!
# JSON tokens

A JSON text cut into tokens, with blanks dropped. A token carries what its literal is worth; one
that breaks off is the last of its text and tells what a reader and what a skipper of values makes
of it.
-/

namespace CpuCensus.Json

/-- The words of JSON. -/
inductive Word where
  | null
  | yes
  | no
  deriving DecidableEq, Repr

/-- A piece of a JSON text. -/
inductive Token where
  | openBrace
  | closeBrace
  | openBracket
  | closeBracket
  | comma
  | colon
  | word (word : Word)
  | number (value : Except Fault (Option Nat))
  | text (value : Except Fault String)
  /-- A text without end or with a fault that even skipping meets. -/
  | brokenText (read skipped : Fault)
  /-- Any other piece that is no token. -/
  | broken (read skipped : Fault)

/-- The blanks of JSON. -/
def isSpace (c : Char) : Bool := c == ' ' || c == '\n' || c == '\t' || c == '\r'

/-- The rest of a word whose first letter has been read. -/
def scanWord (word : Word) : List Char → List Char → Token × List Char
  | [], cs => (.word word, cs)
  | _ :: _, [] => (.broken .truncated .truncated, [])
  | expected :: letters, c :: cs =>
    if c == expected then scanWord word letters cs else (.broken .malformed .malformed, [])

/-- The text whose opening mark has been read. -/
def scanText (cs : List Char) : Token × List Char :=
  match skipText cs with
  | .ok rest => (.text ((readText cs).map String.ofList), rest)
  | .error skipped =>
    match readText cs with
    | .ok _ => (.brokenText skipped skipped, [])
    | .error read => (.brokenText read skipped, [])

/-- The number that starts here. -/
def scanNumber (cs : List Char) : Token × List Char :=
  match scanNumeral cs with
  | .complete n rest => (.number n.value, rest)
  | .broken atEnd => (.broken (if atEnd then .truncated else .malformed) .malformed, [])

/-- The token that starts with a character which is no blank, and what follows it. -/
def scanToken (c : Char) (cs : List Char) : Token × List Char :=
  match c with
  | '\x7b' => (.openBrace, cs)
  | '\x7d' => (.closeBrace, cs)
  | '[' => (.openBracket, cs)
  | ']' => (.closeBracket, cs)
  | ',' => (.comma, cs)
  | ':' => (.colon, cs)
  | 'n' => scanWord .null ['u', 'l', 'l'] cs
  | 't' => scanWord .yes ['r', 'u', 'e'] cs
  | 'f' => scanWord .no ['a', 'l', 's', 'e'] cs
  | '"' => scanText cs
  | c =>
    if c == '-' || c.isDigit then scanNumber (c :: cs) else (.broken .malformed .malformed, [])

/-- Scanning digits takes at least one and leaves the rest. -/
theorem length_scanDigits {cs digits rest : List Char} (h : scanDigits cs = .ok (digits, rest)) :
    rest.length < cs.length := by
  unfold scanDigits at h
  simp only at h
  split at h
  · simp at h
  · next hd =>
    simp only [Except.ok.injEq, Prod.mk.injEq] at h
    have hl := congrArg List.length (List.takeWhile_append_dropWhile (p := Char.isDigit) (l := cs))
    simp only [List.length_append] at hl
    have : 0 < (cs.takeWhile Char.isDigit).length :=
      List.length_pos_iff.mpr (by simpa using hd)
    rw [← h.2]
    omega

private theorem length_scanSign (cs : List Char) : (scanSign cs).2.length ≤ cs.length := by
  unfold scanSign
  split <;> simp

private theorem length_scanExponent {n m : Numeral} {cs rest : List Char}
    (h : scanExponent n cs = .complete m rest) : rest.length ≤ cs.length := by
  unfold scanExponent at h
  split at h
  · next c cs =>
    split at h
    · simp only at h
      split at h
      · simp at h
      · next hd =>
        have hl := length_scanDigits hd
        have hs := length_scanSign cs
        simp only [NumeralScan.complete.injEq] at h
        rw [← h.2, List.length_cons]
        omega
    · simp only [NumeralScan.complete.injEq] at h
      exact h.2 ▸ Nat.le_refl _
  · simp only [NumeralScan.complete.injEq] at h
    exact h.2 ▸ Nat.le_refl _

private theorem length_scanFraction {n m : Numeral} {cs rest : List Char}
    (h : scanFraction n cs = .complete m rest) : rest.length ≤ cs.length := by
  unfold scanFraction at h
  split at h
  · next cs =>
    split at h
    · simp at h
    · next hd =>
      have hl := length_scanDigits hd
      have he := length_scanExponent h
      rw [List.length_cons]
      omega
  · exact length_scanExponent h

private theorem length_scanUnsigned {negative : Bool} {m : Numeral} {cs rest : List Char}
    (h : scanUnsigned negative cs = .complete m rest) : rest.length < cs.length := by
  unfold scanUnsigned at h
  split at h
  · simp at h
  · next hd =>
    have hl := length_scanDigits hd
    split at h
    · simp at h
    · have := length_scanFraction h
      omega

private theorem length_scanNumeral {m : Numeral} {cs rest : List Char}
    (h : scanNumeral cs = .complete m rest) : rest.length < cs.length := by
  unfold scanNumeral at h
  split at h
  · have := length_scanUnsigned h
    rw [List.length_cons]
    omega
  · exact length_scanUnsigned h

private theorem length_scanWord (word : Word) (letters cs : List Char) :
    (scanWord word letters cs).2.length ≤ cs.length := by
  fun_induction scanWord word letters cs <;> grind

private theorem length_scanText (cs : List Char) : (scanText cs).2.length ≤ cs.length := by
  unfold scanText
  split
  · next h => exact length_skipText h
  · split <;> simp

private theorem length_scanNumber (cs : List Char) (h : cs ≠ []) :
    (scanNumber cs).2.length < cs.length := by
  unfold scanNumber
  split
  · next hs => exact length_scanNumeral hs
  · simpa using List.length_pos_iff.mpr h

/-- A token takes its first character, so the rest is shorter. -/
theorem length_scanToken (c : Char) (cs : List Char) :
    (scanToken c cs).2.length ≤ cs.length := by
  unfold scanToken
  split
  case h_7 | h_8 | h_9 => exact length_scanWord ..
  case h_10 => exact length_scanText cs
  case h_11 =>
    split
    · have := length_scanNumber (c :: cs) (by simp)
      simp only [List.length_cons] at this
      omega
    · simp
  all_goals exact Nat.le_refl _

/-- The tokens of a text. -/
def scan : List Char → List Token
  | [] => []
  | c :: cs =>
    if isSpace c then scan cs
    else
      let next := scanToken c cs
      next.1 :: scan next.2
termination_by cs => cs.length
decreasing_by
  · simp
  · have := length_scanToken c cs
    simp only [List.length_cons]
    omega

end CpuCensus.Json
