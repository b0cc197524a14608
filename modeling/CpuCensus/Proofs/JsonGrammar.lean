import CpuCensus.Json.Skip
import CpuCensus.Proofs.JsonLiterals

/-!
# The grammar of JSON

Which characters are a JSON value, said without the scanner: literals first, then arrays and objects
of any depth, by what derives what. Every value is scanned to its end and skipped as a whole, with
whatever stands around it left open.
-/

namespace CpuCensus.Json

/-! ### Texts -/

/-- The character is the hexadecimal digit of the value: from ten on a small or a capital letter. -/
def HexDigit (c : Char) (n : Nat) : Prop :=
  "0123456789abcdef".toList[n]? = some c ∨ "0123456789ABCDEF".toList[n]? = some c

/-- Four hexadecimal digits that write the number. -/
inductive HexUnit : List Char → Nat → Prop
  | mk {a b c d : Char} {i j k l : Nat} : HexDigit a i → HexDigit b j → HexDigit c k →
      HexDigit d l → HexUnit [a, b, c, d] (((i * 16 + j) * 16 + k) * 16 + l)

/-- The letters that may follow a backslash, with the characters that they stand for. -/
def shortEscapes : List (Char × Char) :=
  [('"', '"'), ('\\', '\\'), ('/', '/'), ('b', '\x08'), ('f', '\x0c'), ('n', '\n'), ('r', '\r'),
    ('t', '\t')]

/-- The characters may stand between quotation marks. -/
inductive IsBody : List Char → Prop
  | nil : IsBody []
  | plain {c : Char} {cs : List Char} : IsPlain c → IsBody cs → IsBody (c :: cs)
  | short {e c : Char} {cs : List Char} : (e, c) ∈ shortEscapes → IsBody cs →
      IsBody ('\\' :: e :: cs)
  | unit {digits cs : List Char} {n : Nat} : HexUnit digits n → IsBody cs →
      IsBody ('\\' :: 'u' :: (digits ++ cs))

/-- What stands between quotation marks spells these characters: each by itself, by a short escape,
by its number, or by a pair of numbers if its own has more than four digits. -/
inductive Spells : List Char → List Char → Prop
  | nil : Spells [] []
  | plain {c : Char} {cs s : List Char} : IsPlain c → Spells cs s → Spells (c :: cs) (c :: s)
  | short {e c : Char} {cs s : List Char} : (e, c) ∈ shortEscapes → Spells cs s →
      Spells ('\\' :: e :: cs) (c :: s)
  | unit {c : Char} {digits cs s : List Char} : HexUnit digits c.toNat → Spells cs s →
      Spells ('\\' :: 'u' :: (digits ++ cs)) (c :: s)
  | pair {c : Char} {high low cs s : List Char} {m n : Nat} :
      HexUnit high (0xD800 + m) → HexUnit low (0xDC00 + n) → m < 0x400 → n < 0x400 →
      c.toNat = 0x10000 + m * 0x400 + n → Spells cs s →
      Spells ('\\' :: 'u' :: (high ++ '\\' :: 'u' :: (low ++ cs))) (c :: s)

private theorem HexDigit.lt {c : Char} {n : Nat} (h : HexDigit c n) : n < 16 := by
  rcases h with h | h
  · exact (List.getElem?_eq_some_iff.mp h).1
  · exact (List.getElem?_eq_some_iff.mp h).1

private theorem hexValue?_of_hexDigit {c : Char} {n : Nat} (h : HexDigit c n) :
    hexValue? c = some n := by
  have hall : ∀ n < 16, ("0123456789abcdef".toList[n]?.bind hexValue?) = some n ∧
      ("0123456789ABCDEF".toList[n]?.bind hexValue?) = some n := by decide
  obtain ⟨hsmall, hcapital⟩ := hall n h.lt
  rcases h with h | h
  · rwa [h] at hsmall
  · rwa [h] at hcapital

private theorem isPlain_of_hexDigit {c : Char} {n : Nat} (h : HexDigit c n) : IsPlain c := by
  have hall : ("0123456789abcdef".toList ++ "0123456789ABCDEF".toList).all
      (fun c => IsPlain c) = true := by decide
  have hmem : c ∈ "0123456789abcdef".toList ++ "0123456789ABCDEF".toList := by
    rcases h with h | h
    · exact List.mem_append_left _ (List.mem_of_getElem? h)
    · exact List.mem_append_right _ (List.mem_of_getElem? h)
  exact of_decide_eq_true (List.all_eq_true.mp hall c hmem)

private theorem shortEscape?_of_mem {e c : Char} (h : (e, c) ∈ shortEscapes) :
    shortEscape? e = some c := by
  have hall : ∀ p ∈ shortEscapes, shortEscape? p.1 = some p.2 := by decide
  exact hall (e, c) h

section units

variable {digits : List Char} {n : Nat} (cs : List Char)

theorem HexUnit.length (h : HexUnit digits n) : digits.length = 4 := by
  cases h
  rfl

private theorem HexUnit.hexUnit_append (h : HexUnit digits n) : hexUnit (digits ++ cs) = .ok n := by
  cases h with
  | mk ha hb hc hd =>
    simp only [List.cons_append, List.nil_append, hexUnit, hexValue?_of_hexDigit ha,
      hexValue?_of_hexDigit hb, hexValue?_of_hexDigit hc, hexValue?_of_hexDigit hd]

/-- A skipper checks the four digits and then meets them again as characters of the text. -/
theorem HexUnit.skipText_append (h : HexUnit digits n) : skipText (digits ++ cs) = skipText cs := by
  cases h with
  | mk ha hb hc hd =>
    simp only [List.cons_append, List.nil_append, skipText_plain _ (isPlain_of_hexDigit ha),
      skipText_plain _ (isPlain_of_hexDigit hb), skipText_plain _ (isPlain_of_hexDigit hc),
      skipText_plain _ (isPlain_of_hexDigit hd)]

private theorem HexUnit.drop_append (h : HexUnit digits n) : (digits ++ cs).drop 4 = cs := by
  rw [← h.length, List.drop_left]

end units

/-- No character has the number of half a pair. -/
theorem toNat_not_surrogate (c : Char) : c.toNat < 0xD800 ∨ 0xDFFF < c.toNat := by
  rcases c.valid with h | h
  · exact .inl h
  · exact .inr h.1

private theorem readText_unit {c : Char} {digits : List Char} (h : HexUnit digits c.toNat)
    (cs : List Char) :
    readText ('\\' :: 'u' :: (digits ++ cs)) = (readText cs).map (c :: ·) := by
  have htrailing : isTrailing c.toNat = false := by
    have := toNat_not_surrogate c
    simp only [isTrailing, Bool.and_eq_false_iff, decide_eq_false_iff_not]
    omega
  have hleading : isLeading c.toNat = false := by
    have := toNat_not_surrogate c
    simp only [isLeading, Bool.and_eq_false_iff, decide_eq_false_iff_not]
    omega
  rw [readText.eq_4, h.hexUnit_append]
  simp [htrailing, hleading, h.drop_append, Char.ofNat_toNat]

private theorem readText_pair {c : Char} {high low : List Char} {m n : Nat}
    (hhigh : HexUnit high (0xD800 + m)) (hlow : HexUnit low (0xDC00 + n)) (hm : m < 0x400)
    (hn : n < 0x400) (hc : c.toNat = 0x10000 + m * 0x400 + n) (cs : List Char) :
    readText ('\\' :: 'u' :: (high ++ '\\' :: 'u' :: (low ++ cs))) =
      (readText cs).map (c :: ·) := by
  have hnotTrailing : isTrailing (0xD800 + m) = false := by
    simp only [isTrailing, Bool.and_eq_false_iff, decide_eq_false_iff_not]
    omega
  have hleading : isLeading (0xD800 + m) = true := by
    simp only [isLeading, Bool.and_eq_true, decide_eq_true_eq]
    omega
  have htrailing : isTrailing (0xDC00 + n) = true := by
    simp only [isTrailing, Bool.and_eq_true, decide_eq_true_eq]
    omega
  have hsecond : trailingUnit ('\\' :: 'u' :: (low ++ cs)) = .ok (0xDC00 + n) := by
    simp [trailingUnit, hlow.hexUnit_append, htrailing]
  have hpair : ofPair (0xD800 + m) (0xDC00 + n) = c := by
    have hnumber : (0xD800 + m - 0xD800) * 0x400 + (0xDC00 + n - 0xDC00) + 0x10000 = c.toNat := by
      omega
    rw [ofPair, hnumber, Char.ofNat_toNat]
  have hafter : (high ++ '\\' :: 'u' :: (low ++ cs)).drop 10 = cs := by
    rw [← List.drop_drop (i := 6) (j := 4), hhigh.drop_append]
    exact hlow.drop_append cs
  rw [readText.eq_4, hhigh.hexUnit_append]
  simp [hnotTrailing, hleading, hhigh.drop_append, hsecond, hpair, hafter]

private theorem IsBody.skipText_append {body : List Char} (h : IsBody body) (rest : List Char) :
    skipText (body ++ '"' :: rest) = .ok rest := by
  induction h with
  | nil => rw [List.nil_append, skipText.eq_2]
  | plain hc _ ih => rw [List.cons_append, skipText_plain _ hc, ih]
  | short he _ ih =>
    rw [List.cons_append, List.cons_append, skipText_short _ (shortEscape?_of_mem he), ih]
  | @unit digits cs n hn _ ih =>
    rw [List.cons_append, List.cons_append, List.append_assoc, skipText.eq_4,
      hn.hexUnit_append, hn.skipText_append, ih]

theorem Spells.isBody {body s : List Char} (h : Spells body s) : IsBody body := by
  induction h with
  | nil => exact .nil
  | plain hc _ ih => exact .plain hc ih
  | short he _ ih => exact .short he ih
  | unit hn _ ih => exact .unit hn ih
  | pair hm hn _ _ _ _ ih => exact .unit hm (.unit hn ih)

theorem Spells.readText_append {body s : List Char} (h : Spells body s) (rest : List Char) :
    readText (body ++ '"' :: rest) = .ok s := by
  induction h with
  | nil => rw [List.nil_append, readText.eq_2]
  | plain hc _ ih =>
    rw [List.cons_append, readText_plain _ hc, ih]
    rfl
  | short he _ ih =>
    rw [List.cons_append, List.cons_append, readText_short _ (shortEscape?_of_mem he), ih]
    rfl
  | @unit c digits cs s hn _ ih =>
    rw [List.cons_append, List.cons_append, List.append_assoc, readText_unit hn, ih]
    rfl
  | @pair c high low cs s m n hhigh hlow hm hn hc _ ih =>
    simp only [List.cons_append, List.append_assoc]
    rw [readText_pair hhigh hlow hm hn hc, ih]
    rfl

/-! ### Numbers -/

/-- A point and digits, or nothing. -/
def IsFraction (cs : List Char) : Prop :=
  cs = [] ∨ ∃ digits, Text.IsNumeral digits ∧ cs = '.' :: digits

/-- The letter of an exponent, a sign or none, and digits, or nothing. -/
def IsExponent (cs : List Char) : Prop :=
  cs = [] ∨ ∃ e sign digits, (e = 'e' ∨ e = 'E') ∧ (sign = [] ∨ sign = ['+'] ∨ sign = ['-']) ∧
    Text.IsNumeral digits ∧ cs = e :: (sign ++ digits)

/-- The characters are a number. -/
inductive IsNumber : List Char → Prop
  | positive {whole fraction exponent : List Char} : IsWhole whole → IsFraction fraction →
      IsExponent exponent → IsNumber (whole ++ (fraction ++ exponent))
  | negative {whole fraction exponent : List Char} : IsWhole whole → IsFraction fraction →
      IsExponent exponent → IsNumber ('-' :: (whole ++ (fraction ++ exponent)))

section numbers

variable {whole fraction exponent digits rest : List Char}

private theorem scanSign_append {sign : List Char} (hs : sign = [] ∨ sign = ['+'] ∨ sign = ['-'])
    (hd : Text.IsNumeral digits) (rest : List Char) :
    (scanSign (sign ++ (digits ++ rest))).2 = digits ++ rest := by
  rcases hs with rfl | rfl | rfl
  · obtain ⟨c, cs, rfl⟩ := List.exists_cons_of_ne_nil hd.1
    have hc := hd.2 c List.mem_cons_self
    rw [List.nil_append, List.cons_append, scanSign.eq_def]
    split
    · next heq =>
      rw [(List.cons.inj heq).1] at hc
      cases hc
    · next heq =>
      rw [(List.cons.inj heq).1] at hc
      cases hc
    · rfl
  · rfl
  · rfl

private theorem scanExponent_append (h : IsExponent exponent) (hr : EndsNumber rest) (n : Numeral) :
    ∃ m, scanExponent n (exponent ++ rest) = .complete m rest := by
  rcases h with rfl | ⟨e, sign, digits, he, hs, hd, rfl⟩
  · refine ⟨n, ?_⟩
    cases rest with
    | nil => rfl
    | cons c cs =>
      obtain ⟨-, -, he, hE⟩ := hr c rfl
      simp [scanExponent, he, hE]
  · have hletter : (e == 'e' || e == 'E') = true := by rcases he with rfl | rfl <;> rfl
    have hsign := scanSign_append hs hd rest
    have hdigits := scanDigits_append hd.2 hd.1 fun c hc => (hr c hc).1
    rw [List.cons_append, List.append_assoc, scanExponent.eq_1]
    simp only [hletter, if_true, hsign, hdigits]
    exact ⟨_, rfl⟩

/-- After the digits of a number comes no digit, and after its fraction no point. -/
theorem head?_exponent (h : IsExponent exponent) (hr : EndsNumber rest) :
    ∀ c ∈ (exponent ++ rest).head?, c.isDigit = false ∧ c ≠ '.' := by
  rcases h with rfl | ⟨e, sign, digits, he, -, -, rfl⟩
  · exact fun c hc => ⟨(hr c hc).1, (hr c hc).2.1⟩
  · rintro c ⟨⟩
    rcases he with rfl | rfl <;> decide

private theorem head?_fraction (hf : IsFraction fraction) (h : IsExponent exponent)
    (hr : EndsNumber rest) :
    ∀ c ∈ (fraction ++ (exponent ++ rest)).head?, c.isDigit = false := by
  rcases hf with rfl | ⟨digits, -, rfl⟩
  · exact fun c hc => (head?_exponent h hr c hc).1
  · rintro c ⟨⟩
    rfl

private theorem scanFraction_append (hf : IsFraction fraction) (h : IsExponent exponent)
    (hr : EndsNumber rest) (n : Numeral) :
    ∃ m, scanFraction n (fraction ++ (exponent ++ rest)) = .complete m rest := by
  have hhead := head?_exponent h hr
  rcases hf with rfl | ⟨digits, hd, rfl⟩
  · have hnone : scanFraction n (exponent ++ rest) = scanExponent n (exponent ++ rest) := by
      rw [scanFraction.eq_def]
      split
      · next heq => exact absurd rfl (hhead '.' (by rw [heq]; rfl)).2
      · rfl
    rw [List.nil_append, hnone]
    exact scanExponent_append h hr n
  · have hdigits := scanDigits_append hd.2 hd.1 fun c hc => (hhead c hc).1
    rw [List.cons_append, scanFraction.eq_1, hdigits]
    exact scanExponent_append h hr _

private theorem scanUnsigned_number (hw : IsWhole whole) (hf : IsFraction fraction)
    (h : IsExponent exponent) (hr : EndsNumber rest) (negative : Bool) :
    ∃ m, scanUnsigned negative (whole ++ (fraction ++ (exponent ++ rest))) = .complete m rest := by
  rw [scanUnsigned_append hw (head?_fraction hf h hr)]
  exact scanFraction_append hf h hr _

private theorem scan_of_scanNumeral {c : Char} {cs : List Char} {m : Numeral}
    (hc : c = '-' ∨ c.isDigit = true) (h : scanNumeral (c :: cs) = .complete m rest) :
    scan (c :: cs) = .number m.value :: scan rest := by
  have hspace : isSpace c = false := by
    rcases hc with rfl | hc
    · rfl
    · exact isSpace_of_isDigit hc
  apply scan_of_scanToken hspace
  rw [scanToken_number hc, scanNumber, h]

/-- A number is scanned as one token, whatever it is worth. -/
theorem IsNumber.scan_append {cs : List Char} (h : IsNumber cs) (hr : EndsNumber rest) :
    ∃ value, scan (cs ++ rest) = .number value :: scan rest := by
  cases h with
  | @positive whole fraction exponent hw hf he =>
    obtain ⟨m, hm⟩ := scanUnsigned_number hw hf he hr false
    rw [← hw.scanNumeral_append] at hm
    obtain ⟨c, digits, rfl, hc⟩ := hw.eq_cons
    rw [List.append_assoc, List.append_assoc]
    exact ⟨m.value, scan_of_scanNumeral (.inr hc) hm⟩
  | @negative whole fraction exponent hw hf he =>
    obtain ⟨m, hm⟩ := scanUnsigned_number hw hf he hr true
    rw [List.cons_append, List.append_assoc, List.append_assoc]
    exact ⟨m.value, scan_of_scanNumeral (.inl rfl) hm⟩

end numbers

/-! ### Values -/

/-- These are blanks of JSON, or none at all. -/
def IsGap (cs : List Char) : Prop := ∀ c ∈ cs, c ∈ [' ', '\t', '\n', '\r']

instance (cs : List Char) : Decidable (IsGap cs) :=
  List.decidableBAll (fun c => c ∈ [' ', '\t', '\n', '\r']) cs

/-- What the grammar derives: values, items of an array with the blanks around them, members of an
object likewise, and what stands between brackets and between braces if it is not empty. -/
inductive Part where
  | value
  | item
  | items
  | member
  | members

/-- The characters are such a part of a JSON text. -/
inductive Derives : Part → List Char → Prop
  | null : Derives .value "null".toList
  | yes : Derives .value "true".toList
  | no : Derives .value "false".toList
  | number {cs : List Char} : IsNumber cs → Derives .value cs
  | text {body : List Char} : IsBody body → Derives .value ('"' :: (body ++ ['"']))
  | emptyArray {gap : List Char} : IsGap gap → Derives .value ('[' :: (gap ++ [']']))
  | array {items : List Char} : Derives .items items → Derives .value ('[' :: (items ++ [']']))
  | emptyObject {gap : List Char} : IsGap gap → Derives .value ('\x7b' :: (gap ++ ['\x7d']))
  | object {members : List Char} : Derives .members members →
      Derives .value ('\x7b' :: (members ++ ['\x7d']))
  | item {before value after : List Char} : IsGap before → Derives .value value → IsGap after →
      Derives .item (before ++ (value ++ after))
  | lastItem {item : List Char} : Derives .item item → Derives .items item
  | items {item items : List Char} : Derives .item item → Derives .items items →
      Derives .items (item ++ ',' :: items)
  | member {before body after item : List Char} : IsGap before → IsBody body → IsGap after →
      Derives .item item →
      Derives .member (before ++ '"' :: (body ++ '"' :: (after ++ ':' :: item)))
  | lastMember {member : List Char} : Derives .member member → Derives .members member
  | members {member members : List Char} : Derives .member member → Derives .members members →
      Derives .members (member ++ ',' :: members)

section gaps

variable {gap : List Char}

theorem IsGap.isSpace (h : IsGap gap) : ∀ c ∈ gap, isSpace c = true := by
  intro c hc
  have hmem := h c hc
  simp only [List.mem_cons, List.not_mem_nil, or_false] at hmem
  rcases hmem with rfl | rfl | rfl | rfl <;> rfl

theorem IsGap.scan_append (h : IsGap gap) (rest : List Char) : scan (gap ++ rest) = scan rest :=
  scan_blanks h.isSpace rest

theorem IsGap.scan_eq_nil (h : IsGap gap) : scan gap = [] := by
  rw [← List.append_nil gap, h.scan_append, scan]

theorem IsGap.endsNumber_append (h : IsGap gap) {rest : List Char} (hr : EndsNumber rest) :
    EndsNumber (gap ++ rest) := by
  cases gap with
  | nil => exact hr
  | cons c cs => exact endsNumber_space (h.isSpace c List.mem_cons_self) _

end gaps

/-- The text is scanned up to its closing mark as one token. -/
theorem IsBody.scan_append {body : List Char} (h : IsBody body) (rest : List Char) :
    ∃ value, scan ('"' :: (body ++ '"' :: rest)) = .text value :: scan rest := by
  refine ⟨(readText (body ++ '"' :: rest)).map String.ofList, scan_of_scanToken rfl ?_⟩
  change scanText (body ++ '"' :: rest) = _
  rw [scanText, h.skipText_append]

/-- A text that spells characters is read as these. -/
theorem Spells.scan_append {body s : List Char} (h : Spells body s) (rest : List Char) :
    scan ('"' :: (body ++ '"' :: rest)) = .text (.ok (String.ofList s)) :: scan rest := by
  apply scan_of_scanToken rfl
  change scanText (body ++ '"' :: rest) = _
  rw [scanText, h.isBody.skipText_append, h.readText_append]
  rfl

/-! ### Skipping -/

/-- What follows a value that is skipped: the end, or the next piece of what is open around it. -/
def resume (stack : List Frame) (tokens : List Token) : Except Fault (List Token) :=
  if stack.isEmpty then .ok tokens else skip .next stack tokens

/-- The mark that opens an array or object. -/
def Frame.opening : Frame → Token
  | .array => .openBracket
  | .object => .openBrace

/-- The mark that closes an array or object. -/
def Frame.closing : Frame → Token
  | .array => .closeBracket
  | .object => .closeBrace

/-- What an entry of an array or object starts with. -/
def Frame.entry : Frame → Awaited
  | .array => .value
  | .object => .key

section frames

variable (frame : Frame) (stack : List Frame) (tokens : List Token)

private theorem skip_opening :
    skip .value stack (frame.opening :: tokens) = skip .first (frame :: stack) tokens := by
  cases frame <;> rfl

private theorem skip_first_closing :
    skip .first (frame :: stack) (frame.closing :: tokens) = resume stack tokens := by
  cases frame <;> rfl

private theorem skip_next_closing :
    skip .next (frame :: stack) (frame.closing :: tokens) = resume stack tokens := by
  cases frame <;> rfl

private theorem skip_next_comma :
    skip .next (frame :: stack) (.comma :: tokens) = skip frame.entry (frame :: stack) tokens := by
  cases frame <;> rfl

/-- Unless the array or object ends at once, its first entry is one like the others. -/
theorem skip_first {frame : Frame} {tokens : List Token} (h : tokens.head? ≠ some frame.closing) :
    skip .first (frame :: stack) tokens = skip frame.entry (frame :: stack) tokens := by
  cases tokens with
  | nil => cases frame <;> rfl
  | cons token tokens =>
    cases frame with
    | array =>
      cases token with
      | closeBracket => exact absurd rfl h
      | _ => rfl
    | object =>
      cases token with
      | closeBrace => exact absurd rfl h
      | _ => rfl

end frames

/-- A value is skipped, and what is open around it goes on. -/
def SkippedValue (cs : List Char) : Prop :=
  ∀ rest, EndsNumber rest → (scan (cs ++ rest)).head? ≠ some .closeBracket ∧
    ∀ stack, skip .value stack (scan (cs ++ rest)) = resume stack (scan rest)

/-- An entry is skipped up to the comma or the end after it. -/
def SkippedEntry (frame : Frame) (cs : List Char) : Prop :=
  ∀ rest, EndsNumber rest → (scan (cs ++ rest)).head? ≠ some frame.closing ∧
    ∀ stack, skip frame.entry (frame :: stack) (scan (cs ++ rest)) =
      skip .next (frame :: stack) (scan rest)

/-- Entries are skipped with the mark that closes the array or object, and what is open around it
goes on. -/
def SkippedEntries (frame : Frame) (cs : List Char) : Prop :=
  ∀ close rest, frame.closing.mark? = some close →
    (scan (cs ++ close :: rest)).head? ≠ some frame.closing ∧
    ∀ stack, skip frame.entry (frame :: stack) (scan (cs ++ close :: rest)) =
      resume stack (scan rest)

/-- What a skipper does with each part of a JSON text, whatever follows it. -/
def Skipped : Part → List Char → Prop
  | .value, cs | .item, cs => SkippedValue cs
  | .items, cs => SkippedEntries .array cs
  | .member, cs => SkippedEntry .object cs
  | .members, cs => SkippedEntries .object cs

/-- A literal is one token, which is skipped wherever a value may stand. -/
theorem skippedValue_literal {cs : List Char}
    (h : ∀ rest, EndsNumber rest → ∃ token, scan (cs ++ rest) = token :: scan rest ∧
      ((∃ w, token = .word w) ∨ (∃ n, token = .number n) ∨ ∃ s, token = .text s)) :
    SkippedValue cs := by
  intro rest hr
  obtain ⟨token, hscan, htoken⟩ := h rest hr
  rw [hscan]
  rcases htoken with ⟨w, rfl⟩ | ⟨n, rfl⟩ | ⟨s, rfl⟩
  · exact ⟨nofun, fun stack => rfl⟩
  · exact ⟨nofun, fun stack => rfl⟩
  · exact ⟨nofun, fun stack => rfl⟩

section skipped

variable {frame : Frame} {opening closing : Char} {gap entry entries : List Char}

private theorem Frame.opening_ne_closeBracket (frame : Frame) (tokens : List Token) :
    (frame.opening :: tokens).head? ≠ some .closeBracket := by
  cases frame <;> nofun

private theorem skippedValue_empty (ho : frame.opening.mark? = some opening)
    (hc : frame.closing.mark? = some closing) (h : IsGap gap) :
    SkippedValue (opening :: (gap ++ [closing])) := by
  intro rest _
  rw [List.cons_append, List.append_assoc, scan_mark frame.opening ho, h.scan_append,
    List.singleton_append, scan_mark frame.closing hc]
  refine ⟨frame.opening_ne_closeBracket _, fun stack => ?_⟩
  rw [skip_opening, skip_first_closing]

private theorem skippedValue_entries (ho : frame.opening.mark? = some opening)
    (hc : frame.closing.mark? = some closing) (h : SkippedEntries frame entries) :
    SkippedValue (opening :: (entries ++ [closing])) := by
  intro rest _
  obtain ⟨hfirst, hskip⟩ := h closing rest hc
  rw [List.cons_append, List.append_assoc, List.singleton_append, scan_mark frame.opening ho]
  refine ⟨frame.opening_ne_closeBracket _, fun stack => ?_⟩
  rw [skip_opening, skip_first stack hfirst, hskip]

theorem SkippedEntry.last (h : SkippedEntry frame entry) : SkippedEntries frame entry := by
  intro close rest hc
  obtain ⟨hfirst, hskip⟩ := h (close :: rest) (endsNumber_mark frame.closing hc rest)
  refine ⟨hfirst, fun stack => ?_⟩
  rw [hskip, scan_mark frame.closing hc, skip_next_closing]

theorem SkippedEntry.cons (h : SkippedEntry frame entry) (hs : SkippedEntries frame entries) :
    SkippedEntries frame (entry ++ ',' :: entries) := by
  intro close rest hc
  rw [List.append_assoc, List.cons_append]
  obtain ⟨hfirst, hskip⟩ := h (',' :: (entries ++ close :: rest)) (endsNumber_mark .comma rfl _)
  refine ⟨hfirst, fun stack => ?_⟩
  rw [hskip, scan_mark .comma rfl, skip_next_comma, (hs close rest hc).2]

theorem SkippedValue.item {before value after : List Char} (hb : IsGap before)
    (h : SkippedValue value) (ha : IsGap after) : SkippedValue (before ++ (value ++ after)) := by
  intro rest hr
  rw [List.append_assoc, hb.scan_append, List.append_assoc, ← ha.scan_append rest]
  exact h (after ++ rest) (ha.endsNumber_append hr)

private theorem SkippedValue.arrayEntry {item : List Char} (h : SkippedValue item) :
    SkippedEntry .array item := by
  intro rest hr
  obtain ⟨hfirst, hskip⟩ := h rest hr
  exact ⟨hfirst, fun stack => hskip (.array :: stack)⟩

private theorem SkippedValue.objectEntry {before body after item : List Char} (hb : IsGap before)
    (hbody : IsBody body) (ha : IsGap after) (h : SkippedValue item) :
    SkippedEntry .object (before ++ '"' :: (body ++ '"' :: (after ++ ':' :: item))) := by
  intro rest hr
  obtain ⟨key, hkey⟩ := hbody.scan_append (after ++ ':' :: (item ++ rest))
  simp only [List.append_assoc, List.cons_append]
  rw [hb.scan_append, hkey, ha.scan_append, scan_mark .colon rfl]
  refine ⟨nofun, fun stack => ?_⟩
  exact (h rest hr).2 (.object :: stack)

end skipped

/-- Whatever the grammar derives is skipped, however deeply it is nested. -/
theorem skipped_of_derives {part : Part} {cs : List Char} (h : Derives part cs) :
    Skipped part cs := by
  induction h with
  | null => exact skippedValue_literal fun rest hr => ⟨_, readsAs_null rest hr, .inl ⟨_, rfl⟩⟩
  | yes =>
    exact skippedValue_literal fun rest _ => ⟨_, scan_of_scanToken rfl rfl, .inl ⟨.yes, rfl⟩⟩
  | no =>
    exact skippedValue_literal fun rest _ => ⟨_, scan_of_scanToken rfl rfl, .inl ⟨.no, rfl⟩⟩
  | number h =>
    refine skippedValue_literal fun rest hr => ?_
    obtain ⟨n, hscan⟩ := h.scan_append hr
    exact ⟨_, hscan, .inr (.inl ⟨n, rfl⟩)⟩
  | text h =>
    refine skippedValue_literal fun rest _ => ?_
    obtain ⟨s, hscan⟩ := h.scan_append rest
    rw [List.cons_append, List.append_assoc]
    exact ⟨_, hscan, .inr (.inr ⟨s, rfl⟩)⟩
  | emptyArray h => exact @skippedValue_empty .array _ _ _ rfl rfl h
  | array _ ih => exact skippedValue_entries rfl rfl ih
  | emptyObject h => exact @skippedValue_empty .object _ _ _ rfl rfl h
  | object _ ih => exact skippedValue_entries rfl rfl ih
  | item hb _ ha ih => exact SkippedValue.item hb ih ha
  | lastItem _ ih => exact (SkippedValue.arrayEntry ih).last
  | items _ _ ih ih' => exact (SkippedValue.arrayEntry ih).cons ih'
  | member hb hbody ha _ ih => exact SkippedValue.objectEntry hb hbody ha ih
  | lastMember _ ih => exact SkippedEntry.last ih
  | members _ _ ih ih' => exact SkippedEntry.cons ih ih'

/-- A value that nobody asks for is skipped up to what follows it. -/
theorem Derives.skipValue_append {value rest : List Char} (h : Derives .value value)
    (hr : EndsNumber rest) : skipValue (scan (value ++ rest)) = .ok (scan rest) :=
  (skipped_of_derives h rest hr).2 []

end CpuCensus.Json
