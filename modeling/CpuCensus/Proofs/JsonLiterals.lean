import CpuCensus.Json.Token
import CpuCensus.Json.Writer
import CpuCensus.Proofs.TextReading

/-!
# Literals that are read back

What a reader of JSON makes of the literals that are written: a text is read back whatever
characters it holds, and a number as long as nothing follows that could belong to it. Each
statement leaves open what follows the literal.
-/

namespace CpuCensus.Json

/-! ### Characters of a text -/

private theorem hexValue?_hexDigit {n : Nat} (h : n < 16) : hexValue? (hexDigit n) = some n := by
  have hall : ∀ n < 16, hexValue? (hexDigit n) = some n := by decide
  exact hall n h

/-- The character stands for itself inside a text. -/
def IsPlain (c : Char) : Prop := c ≠ '"' ∧ c ≠ '\\' ∧ 0x20 ≤ c.toNat

instance (c : Char) : Decidable (IsPlain c) :=
  inferInstanceAs (Decidable (c ≠ '"' ∧ c ≠ '\\' ∧ 0x20 ≤ c.toNat))

private theorem isPlain_hexDigit {n : Nat} (h : n < 16) : IsPlain (hexDigit n) := by
  have hall : ∀ n < 16, hexDigit n ≠ '"' ∧ hexDigit n ≠ '\\' ∧ 0x20 ≤ (hexDigit n).toNat := by
    decide
  exact hall n h

/-- A character is written by a short escape, by its number or by itself. -/
theorem escapedChar_cases (c : Char) :
    (∃ e, shortEscape? e = some c ∧ escapedChar c = ['\\', e]) ∨
    (c.toNat < 0x20 ∧ escapedChar c =
      ['\\', 'u', '0', '0', hexDigit (c.toNat / 16), hexDigit (c.toNat % 16)]) ∨
    (IsPlain c ∧ escapedChar c = [c]) := by
  fun_cases escapedChar c with
  | case1 h => exact .inl ⟨'"', by rw [beq_iff_eq.mp h]; rfl, rfl⟩
  | case2 _ h => exact .inl ⟨'\\', by rw [beq_iff_eq.mp h]; rfl, rfl⟩
  | case3 _ _ h => exact .inl ⟨'b', by rw [beq_iff_eq.mp h]; rfl, rfl⟩
  | case4 _ _ _ h => exact .inl ⟨'t', by rw [beq_iff_eq.mp h]; rfl, rfl⟩
  | case5 _ _ _ _ h => exact .inl ⟨'n', by rw [beq_iff_eq.mp h]; rfl, rfl⟩
  | case6 _ _ _ _ _ h => exact .inl ⟨'f', by rw [beq_iff_eq.mp h]; rfl, rfl⟩
  | case7 _ _ _ _ _ _ h => exact .inl ⟨'r', by rw [beq_iff_eq.mp h]; rfl, rfl⟩
  | case8 _ _ _ _ _ _ _ h => exact .inr (.inl ⟨h, rfl⟩)
  | case9 hq hb _ _ _ _ _ h =>
    exact .inr (.inr ⟨⟨by simpa using hq, by simpa using hb, Nat.le_of_not_lt h⟩, rfl⟩)

section chars

variable {c e : Char} (cs : List Char)

theorem readText_plain (h : IsPlain c) : readText (c :: cs) = (readText cs).map (c :: ·) := by
  obtain ⟨hq, hb, hc⟩ := h
  rw [readText.eq_def]
  split <;> simp_all

theorem skipText_plain (h : IsPlain c) : skipText (c :: cs) = skipText cs := by
  obtain ⟨hq, hb, hc⟩ := h
  rw [skipText.eq_def]
  split <;> simp_all

theorem readText_short (h : shortEscape? e = some c) :
    readText ('\\' :: e :: cs) = (readText cs).map (c :: ·) := by
  have hu : e ≠ 'u' := by rintro rfl; cases h
  rw [readText.eq_5 e cs hu, h]

theorem skipText_short (h : shortEscape? e = some c) :
    skipText ('\\' :: e :: cs) = skipText cs := by
  have hu : e ≠ 'u' := by rintro rfl; cases h
  rw [skipText.eq_5 e cs hu, h]
  rfl

/-- The four digits of a control character. -/
theorem hexUnit_control (h : c.toNat < 0x20) :
    hexUnit ('0' :: '0' :: hexDigit (c.toNat / 16) :: hexDigit (c.toNat % 16) :: cs) =
      .ok c.toNat := by
  have h0 : hexValue? '0' = some 0 := rfl
  have hhigh := hexValue?_hexDigit (n := c.toNat / 16) (by omega)
  have hlow := hexValue?_hexDigit (n := c.toNat % 16) (by omega)
  simp only [hexUnit, h0, hhigh, hlow]
  congr 1
  omega

private theorem readText_control (h : c.toNat < 0x20) :
    readText ('\\' :: 'u' :: '0' :: '0' :: hexDigit (c.toNat / 16) :: hexDigit (c.toNat % 16) ::
      cs) = (readText cs).map (c :: ·) := by
  have htrailing : isTrailing c.toNat = false := by simp [isTrailing]; omega
  have hleading : isLeading c.toNat = false := by simp [isLeading]; omega
  rw [readText.eq_4, hexUnit_control cs h]
  simp [htrailing, hleading, Char.ofNat_toNat]

private theorem skipText_control (h : c.toNat < 0x20) :
    skipText ('\\' :: 'u' :: '0' :: '0' :: hexDigit (c.toNat / 16) :: hexDigit (c.toNat % 16) ::
      cs) = skipText cs := by
  have hzero : IsPlain '0' := isPlain_hexDigit (n := 0) (by decide)
  have hhigh : IsPlain (hexDigit (c.toNat / 16)) := isPlain_hexDigit (by omega)
  have hlow : IsPlain (hexDigit (c.toNat % 16)) := isPlain_hexDigit (by omega)
  rw [skipText.eq_4, hexUnit_control cs h]
  -- A skipper checks the four digits and then meets them again as characters of the text.
  simp only [skipText_plain _ hzero, skipText_plain _ hhigh, skipText_plain _ hlow]

/-- A character is read back from the way it is written. -/
theorem readText_escapedChar (c : Char) :
    readText (escapedChar c ++ cs) = (readText cs).map (c :: ·) := by
  obtain ⟨e, he, hw⟩ | ⟨hc, hw⟩ | ⟨hp, hw⟩ := escapedChar_cases c <;> rw [hw]
  · exact readText_short cs he
  · exact readText_control cs hc
  · exact readText_plain cs hp

private theorem skipText_escapedChar (c : Char) : skipText (escapedChar c ++ cs) = skipText cs := by
  obtain ⟨e, he, hw⟩ | ⟨hc, hw⟩ | ⟨hp, hw⟩ := escapedChar_cases c <;> rw [hw]
  · exact skipText_short cs he
  · exact skipText_control cs hc
  · exact skipText_plain cs hp

end chars

/-! ### Texts -/

section texts

variable (cs rest : List Char)

private theorem readText_escaped : readText (cs.flatMap escapedChar ++ '"' :: rest) = .ok cs := by
  induction cs with
  | nil => rw [List.flatMap_nil, List.nil_append, readText.eq_2]
  | cons c cs ih =>
    rw [List.flatMap_cons, List.append_assoc, readText_escapedChar, ih]
    rfl

private theorem skipText_escaped : skipText (cs.flatMap escapedChar ++ '"' :: rest) = .ok rest := by
  induction cs with
  | nil => rw [List.flatMap_nil, List.nil_append, skipText.eq_2]
  | cons c cs ih => rw [List.flatMap_cons, List.append_assoc, skipText_escapedChar, ih]

/-- A text is read back up to its closing mark. -/
theorem scanText_escaped (s : String) :
    scanText (s.toList.flatMap escapedChar ++ '"' :: rest) = (.text (.ok s), rest) := by
  rw [scanText, skipText_escaped, readText_escaped]
  simp [Except.map, String.ofList_toList]

theorem toList_text (s : String) :
    (text s).toList = '"' :: (s.toList.flatMap escapedChar ++ ['"']) :=
  String.toList_ofList

end texts

/-! ### Numbers -/

/-- Nothing here could belong to a number that ends before it. -/
def EndsNumber (rest : List Char) : Prop :=
  ∀ c ∈ rest.head?, c.isDigit = false ∧ c ≠ '.' ∧ c ≠ 'e' ∧ c ≠ 'E'

theorem scanDigits_append {digits rest : List Char} (hd : ∀ c ∈ digits, c.isDigit = true)
    (hne : digits ≠ []) (hr : ∀ c ∈ rest.head?, c.isDigit = false) :
    scanDigits (digits ++ rest) = .ok (digits, rest) := by
  have htake : rest.takeWhile Char.isDigit = [] := by
    cases rest with
    | nil => rfl
    | cons c cs => rw [List.takeWhile_cons_of_neg (by simp [hr c rfl])]
  have hdrop : rest.dropWhile Char.isDigit = rest := by
    cases rest with
    | nil => rfl
    | cons c cs => rw [List.dropWhile_cons_of_neg (by simp [hr c rfl])]
  simp only [scanDigits, List.takeWhile_append_of_pos hd, List.dropWhile_append_of_pos hd, htake,
    hdrop, List.append_nil]
  rw [if_neg (by simpa using hne)]

theorem repr_eq_cons (n : Nat) : ∃ c cs, (Nat.repr n).toList = c :: cs ∧ c.isDigit = true := by
  cases hcs : (Nat.repr n).toList with
  | nil => exact absurd (Nat.toList_repr ▸ hcs) Nat.toDigits_ne_nil
  | cons c cs => exact ⟨c, cs, rfl, Text.isDigit_of_mem_repr (hcs ▸ List.mem_cons_self)⟩

/-- Decimal digits have no zero in front. -/
theorem repr_ne_zero_cons (n : Nat) (c : Char) (cs : List Char) :
    (Nat.repr n).toList ≠ '0' :: c :: cs := by
  rw [Nat.toList_repr]
  induction n using Nat.strongRecOn generalizing c cs with
  | ind n ih =>
    intro h
    by_cases hn : n < 10
    · rw [Nat.toDigits_of_lt_base hn] at h
      simp at h
    · rw [Nat.toDigits_of_base_le (by decide) (by omega)] at h
      cases hd : Nat.toDigits 10 (n / 10) with
      | nil => exact Nat.toDigits_ne_nil hd
      | cons d ds =>
        rw [hd, List.cons_append, List.cons.injEq] at h
        cases ds with
        | cons e es => exact ih (n / 10) (by omega) e es (h.1 ▸ hd)
        | nil =>
          -- A zero alone would be the number without its last digit.
          have hv := Nat.ofDigitChars_ten_toDigits (n := n / 10)
          rw [hd, h.1] at hv
          have hzero : n / 10 = 0 := hv.symm
          omega

private theorem scanFraction_of_endsNumber (n : Numeral) {rest : List Char} (h : EndsNumber rest) :
    scanFraction n rest = .complete n rest := by
  cases rest with
  | nil => rfl
  | cons c cs =>
    obtain ⟨-, hdot, he, hE⟩ := h c rfl
    rw [scanFraction.eq_def]
    split
    · simp_all
    · simp [scanExponent, he, hE]

/-- Decimal digits, with a zero in front only if it is the only one. -/
def IsWhole (digits : List Char) : Prop :=
  Text.IsNumeral digits ∧ ∀ c cs, digits ≠ '0' :: c :: cs

theorem IsWhole.eq_cons {digits : List Char} (h : IsWhole digits) :
    ∃ c cs, digits = c :: cs ∧ c.isDigit = true := by
  obtain ⟨c, cs, rfl⟩ := List.exists_cons_of_ne_nil h.1.1
  exact ⟨c, cs, rfl, h.1.2 c List.mem_cons_self⟩

theorem isWhole_repr (n : Nat) : IsWhole (Nat.repr n).toList :=
  ⟨Text.isNumeral_repr n, repr_ne_zero_cons n⟩

/-- Digits without a sign are scanned up to a fraction, an exponent or the end. -/
theorem scanUnsigned_append {digits rest : List Char} (h : IsWhole digits)
    (hr : ∀ c ∈ rest.head?, c.isDigit = false) (negative : Bool) :
    scanUnsigned negative (digits ++ rest) = scanFraction { negative, whole := digits } rest := by
  rw [scanUnsigned, scanDigits_append h.1.2 h.1.1 hr]
  simp only
  split
  · exact absurd rfl (h.2 _ _)
  · rfl

theorem IsWhole.scanNumeral_append {digits : List Char} (h : IsWhole digits) (rest : List Char) :
    scanNumeral (digits ++ rest) = scanUnsigned false (digits ++ rest) := by
  obtain ⟨c, cs, rfl, hc⟩ := h.eq_cons
  unfold scanNumeral
  split
  · next hminus =>
    rw [(List.cons.inj hminus).1] at hc
    cases hc
  · rfl

/-- A number of 64 bits is read if what follows cannot belong to it. -/
theorem scanNumber_whole {digits rest : List Char} (hw : IsWhole digits)
    (hn : Nat.ofDigitChars 10 digits 0 < Text.bound64) (h : EndsNumber rest) :
    scanNumber (digits ++ rest) = (.number (.ok (some (Nat.ofDigitChars 10 digits 0))), rest) := by
  have hscan : scanNumeral (digits ++ rest) =
      .complete { negative := false, whole := digits } rest := by
    rw [hw.scanNumeral_append, scanUnsigned_append hw fun c hc => (h c hc).1,
      scanFraction_of_endsNumber _ h]
  have hvalue := Text.digitsFrom_of_isDigit hw.1.2 0
  simp only [scanNumber, hscan, Numeral.value, hvalue, Option.filter_some, hn, decide_true, if_true]
  rfl

/-! ### Tokens -/

/-- The character of a token that is a single mark. -/
def Token.mark? : Token → Option Char
  | .openBrace => some '\x7b'
  | .closeBrace => some '\x7d'
  | .openBracket => some '['
  | .closeBracket => some ']'
  | .comma => some ','
  | .colon => some ':'
  | _ => none

private theorem scan_space {c : Char} (h : isSpace c = true) (rest : List Char) :
    scan (c :: rest) = scan rest := by
  rw [scan, if_pos h]

theorem isSpace_of_isDigit {c : Char} (h : c.isDigit = true) : isSpace c = false := by
  by_contra hs
  simp only [isSpace, Bool.not_eq_false, Bool.or_eq_true, beq_iff_eq] at hs
  obtain ((rfl | rfl) | rfl) | rfl := hs <;> cases h

theorem scan_of_scanToken {c : Char} {cs rest : List Char} {token : Token}
    (hc : isSpace c = false) (h : scanToken c cs = (token, rest)) :
    scan (c :: cs) = token :: scan rest := by
  rw [scan, if_neg (by simp [hc]), h]

theorem scan_mark (token : Token) {c : Char} (h : token.mark? = some c) (rest : List Char) :
    scan (c :: rest) = token :: scan rest := by
  cases token <;> cases h <;> exact scan_of_scanToken rfl rfl

theorem endsNumber_mark (token : Token) {c : Char} (h : token.mark? = some c) (rest : List Char) :
    EndsNumber (c :: rest) := by
  rintro d ⟨⟩
  cases token <;> cases h <;> decide

theorem scan_blanks {blanks : List Char} (h : ∀ c ∈ blanks, isSpace c = true) (rest : List Char) :
    scan (blanks ++ rest) = scan rest := by
  induction blanks with
  | nil => rfl
  | cons c cs ih =>
    rw [List.cons_append, scan_space (h c List.mem_cons_self)]
    exact ih fun d hd => h d (List.mem_cons_of_mem c hd)

theorem endsNumber_space {c : Char} (h : isSpace c = true) (rest : List Char) :
    EndsNumber (c :: rest) := by
  rintro d ⟨⟩
  simp only [isSpace, Bool.or_eq_true, beq_iff_eq] at h
  obtain ((rfl | rfl) | rfl) | rfl := h <;> decide

/-- Where nothing follows that could belong to a number, the literal is scanned as the token. -/
def ReadsAs (literal : String) (token : Token) : Prop :=
  ∀ rest, EndsNumber rest → scan (literal.toList ++ rest) = token :: scan rest

theorem readsAs_null : ReadsAs "null" (.word .null) := fun _ _ => scan_of_scanToken rfl rfl

theorem readsAs_text (s : String) : ReadsAs (text s) (.text (.ok s)) := by
  intro rest _
  rw [toList_text, List.cons_append, List.append_assoc]
  exact scan_of_scanToken rfl (scanText_escaped rest s)

theorem scanToken_number {c : Char} (h : c = '-' ∨ c.isDigit = true) (cs : List Char) :
    scanToken c cs = scanNumber (c :: cs) := by
  rw [scanToken.eq_def]
  split <;> simp_all

/-- Digits are scanned as the token of their number. -/
theorem scan_whole {digits rest : List Char} (hw : IsWhole digits)
    (hn : Nat.ofDigitChars 10 digits 0 < Text.bound64) (h : EndsNumber rest) :
    scan (digits ++ rest) = .number (.ok (some (Nat.ofDigitChars 10 digits 0))) :: scan rest := by
  have hnumber := scanNumber_whole hw hn h
  obtain ⟨c, cs, rfl, hc⟩ := hw.eq_cons
  exact scan_of_scanToken (isSpace_of_isDigit hc) ((scanToken_number (.inr hc) _).trans hnumber)

theorem readsAs_number {n : Nat} (hn : n < Text.bound64) :
    ReadsAs (number n) (.number (.ok (some n))) := by
  intro rest h
  have hvalue := Text.ofDigitChars_repr n
  have hscan := scan_whole (isWhole_repr n) (hvalue.symm ▸ hn) h
  rwa [hvalue] at hscan

/-- The token of a value that may be absent. -/
def optionalToken {α : Type} (token : α → Token) : Option α → Token
  | none => .word .null
  | some a => token a

theorem readsAs_optional {α : Type} {literal : α → String} {token : α → Token} {v : Option α}
    (h : ∀ a ∈ v, ReadsAs (literal a) (token a)) :
    ReadsAs (optional literal v) (optionalToken token v) := by
  cases v with
  | none => exact readsAs_null
  | some a => exact h a rfl

/-! ### Parts with marks between them -/

/-- Parts with a mark between them are the first part and then each other one after its mark. -/
theorem toList_intercalate_cons (mark part : String) (parts : List String) :
    (String.intercalate mark (part :: parts)).toList =
      part.toList ++ parts.flatMap fun p => mark.toList ++ p.toList := by
  rw [String.toList_intercalate]
  induction parts generalizing part with
  | nil => simp
  | cons p parts ih =>
    rw [List.map_cons, List.map_cons, List.intercalate_cons_cons, ← List.map_cons, ih p,
      List.flatMap_cons]
    simp only [List.append_assoc]

end CpuCensus.Json
