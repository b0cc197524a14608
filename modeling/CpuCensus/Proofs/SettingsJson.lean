import CpuCensus.Proofs.JsonLiterals
import CpuCensus.Settings.Json

/-!
# Settings that are read back

Settings are the same after they were written as JSON and read again, whatever the name holds and
as long as the numbers fit 64 bits. The three values in an array, with any blanks between its
pieces, give the same settings. Both proofs go by the tokens of the text.
-/

namespace CpuCensus.Json

/-! ### Tokens of an object on one line -/

/-- The member's value is scanned as the token, which stands under the same key. -/
def MemberReadsAs (member : Member) (entry : String × Token) : Prop :=
  member.1 = entry.1 ∧ ReadsAs member.2 entry.2

/-- The tokens of a member. -/
def memberTokens (entry : String × Token) : List Token := [.text (.ok entry.1), .colon, entry.2]

private theorem scan_member {member : Member} {entry : String × Token}
    (h : MemberReadsAs member entry) {rest : List Char} (hr : EndsNumber rest) :
    scan ((text member.1 ++ ":" ++ member.2).toList ++ rest) = memberTokens entry ++ scan rest := by
  have hcolon := endsNumber_mark .colon rfl (member.2.toList ++ rest)
  rw [String.toList_append, String.toList_append, List.append_assoc, List.append_assoc]
  change scan ((text member.1).toList ++ ':' :: (member.2.toList ++ rest)) = _
  rw [readsAs_text member.1 _ hcolon, scan_mark .colon rfl, h.2 rest hr, h.1]
  rfl

/-- The members after the first, each after its comma, and the closing brace. -/
theorem scan_laterMembers {members : List Member} {entries : List (String × Token)}
    (h : List.Forall₂ MemberReadsAs members entries) :
    let later := (members.flatMap fun m => ',' :: (text m.1 ++ ":" ++ m.2).toList) ++ ['\x7d']
    EndsNumber later ∧
      scan later = (entries.flatMap fun e => .comma :: memberTokens e) ++ [.closeBrace] := by
  induction h with
  | nil =>
    refine ⟨endsNumber_mark .closeBrace rfl [], ?_⟩
    rw [List.flatMap_nil, List.flatMap_nil, List.nil_append, scan_mark .closeBrace rfl, scan]
    rfl
  | cons hm _ ih =>
    refine ⟨endsNumber_mark .comma rfl _, ?_⟩
    rw [List.flatMap_cons, List.append_assoc, List.cons_append, scan_mark .comma rfl,
      scan_member hm ih.1, ih.2]
    simp

private theorem toList_compactObject_cons (first : Member) (members : List Member) :
    (compactObject (first :: members)).toList = '\x7b' ::
      ((text first.1 ++ ":" ++ first.2).toList ++
        ((members.flatMap fun m => ',' :: (text m.1 ++ ":" ++ m.2).toList) ++ ['\x7d'])) := by
  have hopen : "\x7b".toList = ['\x7b'] := rfl
  have hcomma : ",".toList = [','] := rfl
  have hclose : "\x7d".toList = ['\x7d'] := rfl
  simp only [compactObject, List.map_cons, String.toList_append, toList_intercalate_cons,
    List.flatMap_map, hopen, hcomma, hclose, List.append_assoc, List.cons_append, List.nil_append]

/-- An object on one line is scanned member by member. -/
theorem scan_compactObject {first : Member} {firstEntry : String × Token} {members : List Member}
    {entries : List (String × Token)} (hf : MemberReadsAs first firstEntry)
    (h : List.Forall₂ MemberReadsAs members entries) :
    scan (compactObject (first :: members)).toList =
      .openBrace :: memberTokens firstEntry ++
        ((entries.flatMap fun e => .comma :: memberTokens e) ++ [.closeBrace]) := by
  obtain ⟨hends, hscan⟩ := scan_laterMembers h
  rw [toList_compactObject_cons, scan_mark .openBrace rfl, scan_member hf hends, hscan]
  rfl

/-! ### Pieces with blanks between them -/

/-- The pieces in a row, with a gap before, between and after them. -/
def spaced (gap : Nat → String) : List String → String
  | [] => gap 0
  | piece :: pieces => gap 0 ++ piece ++ spaced (fun i => gap (i + 1)) pieces

/-- Every gap consists of blanks. -/
def AllSpace (gap : Nat → String) : Prop := ∀ i, ∀ c ∈ (gap i).toList, isSpace c = true

section spaced

variable {gap : Nat → String} {mark : String} {c : Char}

theorem AllSpace.drop (h : AllSpace gap) (n : Nat) : AllSpace fun i => gap (i + n) :=
  fun i => h (i + n)

private theorem toList_spaced_cons (piece : String) (pieces : List String) :
    (spaced gap (piece :: pieces)).toList =
      (gap 0).toList ++ (piece.toList ++ (spaced (fun i => gap (i + 1)) pieces).toList) := by
  rw [spaced, String.toList_append, String.toList_append, List.append_assoc]

private theorem scan_spaced_mark (token : Token) (h : AllSpace gap) (ht : token.mark? = some c)
    (hm : mark.toList = [c]) (pieces : List String) :
    scan (spaced gap (mark :: pieces)).toList =
      token :: scan (spaced (fun i => gap (i + 1)) pieces).toList := by
  rw [toList_spaced_cons, scan_blanks (h 0), hm]
  exact scan_mark token ht _

/-- A literal is scanned if a mark comes next, after blanks or at once. -/
theorem scan_spaced_literal (token : Token) (h : AllSpace gap) {literal : String}
    {literalToken : Token} (hl : ReadsAs literal literalToken) (ht : token.mark? = some c)
    (hm : mark.toList = [c]) (pieces : List String) :
    scan (spaced gap (literal :: mark :: pieces)).toList =
      literalToken :: token :: scan (spaced (fun i => gap (i + 2)) pieces).toList := by
  have hends : EndsNumber (spaced (fun i => gap (i + 1)) (mark :: pieces)).toList := by
    rw [toList_spaced_cons, hm]
    cases hg : (gap 1).toList with
    | nil => exact endsNumber_mark token ht _
    | cons c cs => exact endsNumber_space (h 1 c (hg ▸ List.mem_cons_self)) _
  rw [toList_spaced_cons, scan_blanks (h 0), hl _ hends, scan_spaced_mark token (h.drop 1) ht hm]

private theorem scan_spaced_nil (h : AllSpace gap) : scan (spaced gap []).toList = [] := by
  rw [spaced, ← List.append_nil (gap 0).toList, scan_blanks (h 0), scan]

end spaced

end CpuCensus.Json

namespace CpuCensus.Settings

open CpuCensus.Json (Token Fault optionalToken)

/-! ### Members and elements -/

section tokens

variable {α : Type} {read : Token → Except Fault α} {token : α → Token}

/-- The reader finds every value in its token, which is neither a mark nor null. -/
def Reads (read : Token → Except Fault α) (token : α → Token) : Prop :=
  ∀ a, (token a).mark? = none ∧ token a ≠ .word .null ∧ read (token a) = .ok a

private theorem mark?_optionalToken (h : Reads read token) (v : Option α) :
    (optionalToken token v).mark? = none := by
  cases v with
  | none => rfl
  | some a => exact (h a).1

private theorem readOptional_token (h : Reads read token) (v : Option α) (rest : List Token) :
    readOptional read (optionalToken token v :: rest) = .ok (v, rest) := by
  cases v with
  | none => rfl
  | some a =>
    obtain ⟨-, hnull, hread⟩ := h a
    rw [optionalToken, readOptional.eq_3 _ _ _ hnull, hread]
    rfl

theorem readMember_token (h : Reads read token) (v : Option α) (rest : List Token) :
    readMember none read (.colon :: optionalToken token v :: rest) = .ok (v, rest) := by
  rw [readMember, if_neg nofun]
  exact readOptional_token h v rest

private theorem readElement_first (h : Reads read token) (v : Option α) (rest : List Token) :
    readElement true read (optionalToken token v :: rest) = .ok (v, rest) := by
  have hmark := mark?_optionalToken h v
  rw [← readOptional_token h v rest]
  cases ht : optionalToken token v with
  | closeBracket | comma => simp [ht, Token.mark?] at hmark
  | _ => rfl

private theorem readElement_next (h : Reads read token) (v : Option α) (rest : List Token) :
    readElement false read (.comma :: optionalToken token v :: rest) = .ok (v, rest) := by
  have hmark := mark?_optionalToken h v
  rw [← readOptional_token h v rest]
  cases ht : optionalToken token v with
  | closeBracket => simp [ht, Token.mark?] at hmark
  | _ => rfl

end tokens

/-- One member is read, and then the others. -/
theorem readMembers_of_readKeyed {m m' : Members} {first : Bool} {key : String}
    {tokens after rest : List Token}
    (hn : nextKey first tokens = .ok (some (.text (.ok key) :: after)))
    (h : readKeyed m key after = .ok (m', rest)) :
    readMembers m first tokens = readMembers m' false rest := by
  rw [readMembers.eq_def]
  -- The definition keeps the equations of its matches, so they are taken apart and not rewritten.
  split
  case h_4 token ts hn' =>
    obtain ⟨rfl, rfl⟩ : token = .text (.ok key) ∧ ts = after := by simpa [hn] using hn'.symm
    simp only
    split
    · next hk => cases hk.symm.trans h
    · next hk =>
      cases hk.symm.trans h
      rfl
  all_goals simp_all

theorem readMembers_closeBrace (m : Members) (first : Bool) (rest : List Token) :
    readMembers m first (.closeBrace :: rest) = .ok (m, rest) := by
  rw [readMembers.eq_def]
  rfl

/-- The token of a text. -/
def textToken (s : String) : Token := .text (.ok s)

/-- The token of a whole number. -/
def wholeToken (n : Nat) : Token := .number (.ok (some n))

theorem reads_textToken : Reads textOf textToken := fun _ => ⟨rfl, nofun, rfl⟩

theorem reads_wholeToken : Reads wholeOf wholeToken := fun _ => ⟨rfl, nofun, rfl⟩

/-- The tokens of an object with the three members are read back. -/
theorem readTokens_object (s : Settings) :
    readTokens (.openBrace :: Json.memberTokens ("name", optionalToken textToken s.name) ++
      (([("period_ms", optionalToken wholeToken s.periodMs),
        ("max_records", optionalToken wholeToken s.maxRecords)].flatMap fun e =>
          .comma :: Json.memberTokens e) ++ [.closeBrace])) = .ok (s, []) := by
  simp only [Json.memberTokens, List.flatMap_cons, List.flatMap_nil, List.cons_append,
    List.nil_append, readTokens]
  have hname (rest : List Token) :
      readKeyed {} "name" (.colon :: optionalToken textToken s.name :: rest) =
        .ok ({ name := some s.name }, rest) := by
    simp only [readKeyed, readMember_token reads_textToken]
    rfl
  have hperiod (rest : List Token) :
      readKeyed { name := some s.name } "period_ms"
        (.colon :: optionalToken wholeToken s.periodMs :: rest) =
        .ok ({ name := some s.name, periodMs := some s.periodMs }, rest) := by
    simp only [readKeyed, readMember_token reads_wholeToken]
    rfl
  have hrecords (rest : List Token) :
      readKeyed { name := some s.name, periodMs := some s.periodMs } "max_records"
        (.colon :: optionalToken wholeToken s.maxRecords :: rest) =
        .ok ({ name := some s.name, periodMs := some s.periodMs,
               maxRecords := some s.maxRecords }, rest) := by
    simp only [readKeyed, readMember_token reads_wholeToken]
    rfl
  rw [readMembers_of_readKeyed rfl (hname _), readMembers_of_readKeyed rfl (hperiod _),
    readMembers_of_readKeyed rfl (hrecords _), readMembers_closeBrace]
  rfl

/-- The tokens of an array of the three values are read back. -/
theorem readTokens_array (s : Settings) :
    readTokens [.openBracket, optionalToken textToken s.name, .comma,
      optionalToken wholeToken s.periodMs, .comma, optionalToken wholeToken s.maxRecords,
      .closeBracket] = .ok (s, []) := by
  rw [readTokens, readArray, readElement_first reads_textToken]
  simp only [bind, Except.bind, readElement_next reads_wholeToken]
  rfl

/-! ### Main statement -/

/-- The three values as a JSON array in their order, with gaps between its pieces. -/
def positional (gap : Nat → String) (s : Settings) : String :=
  Json.spaced gap
    ["[", Json.optional Json.text s.name, ",", Json.optional Json.number s.periodMs, ",",
      Json.optional Json.number s.maxRecords, "]"]

theorem ofJson_of_scan {json : String} {tokens : List Token} {s : Settings}
    (hs : Json.scan json.toList = tokens) (hr : readTokens tokens = .ok (s, [])) :
    ofJson json = .ok s := by
  rw [ofJson, hs, hr]
  rfl

/-- Settings are read back from the object that they are written as and from the array of their
values, whatever blanks stand between its pieces. The name may hold any characters, and the numbers
may be as large as 64 bits allow. -/
theorem read_back_from_object_and_array (s : Settings)
    (hperiod : ∀ ms, s.periodMs = some ms → ms < UInt64.size)
    (hrecords : ∀ n, s.maxRecords = some n → n < UInt64.size) :
    ofJson s.json = .ok s ∧
    ∀ gap : Nat → String, Json.AllSpace gap → ofJson (s.positional gap) = .ok s := by
  have hn : Json.ReadsAs (Json.optional Json.text s.name) (optionalToken textToken s.name) :=
    Json.readsAs_optional fun name _ => Json.readsAs_text name
  have hp : Json.ReadsAs (Json.optional Json.number s.periodMs)
      (optionalToken wholeToken s.periodMs) :=
    Json.readsAs_optional fun ms hms => Json.readsAs_number (hperiod ms hms)
  have hm : Json.ReadsAs (Json.optional Json.number s.maxRecords)
      (optionalToken wholeToken s.maxRecords) :=
    Json.readsAs_optional fun n hn => Json.readsAs_number (hrecords n hn)
  constructor
  · exact ofJson_of_scan
      (Json.scan_compactObject ⟨rfl, hn⟩ (.cons ⟨rfl, hp⟩ (.cons ⟨rfl, hm⟩ .nil)))
      (readTokens_object s)
  · intro gap hgap
    refine ofJson_of_scan ?_ (readTokens_array s)
    rw [positional, Json.scan_spaced_mark .openBracket hgap rfl rfl,
      Json.scan_spaced_literal .comma (hgap.drop 1) hn rfl rfl,
      Json.scan_spaced_literal .comma (hgap.drop 3) hp rfl rfl,
      Json.scan_spaced_literal .closeBracket (hgap.drop 5) hm rfl rfl,
      Json.scan_spaced_nil (hgap.drop 7)]

/-- A name of escaped characters and the largest number of 64 bits are read back. -/
theorem escapes_and_largest_number_read_back :
    let s : Settings := { name := some "\"\\\n\x01", periodMs := some 18446744073709551615
                          maxRecords := some 0 }
    ((∀ ms, s.periodMs = some ms → ms < UInt64.size) ∧
      ∀ n, s.maxRecords = some n → n < UInt64.size) ∧
    s.json = "\x7b\"name\":\"\\\"\\\\\\n\\u0001\",\"period_ms\":18446744073709551615," ++
      "\"max_records\":0\x7d" ∧
    ofJson s.json = .ok s ∧
    ofJson "[\"\\\"\\\\\\n\\u0001\",18446744073709551615,0]" = .ok s := by
  intro s
  have hperiod : ∀ ms, s.periodMs = some ms → ms < UInt64.size := by
    rintro ms ⟨⟩
    decide
  have hrecords : ∀ n, s.maxRecords = some n → n < UInt64.size := by
    rintro n ⟨⟩
    decide
  have hread := read_back_from_object_and_array s hperiod hrecords
  refine ⟨⟨hperiod, hrecords⟩, by decide +kernel, hread.1, ?_⟩
  have harray : s.positional (fun _ => "") =
      "[\"\\\"\\\\\\n\\u0001\",18446744073709551615,0]" := by decide +kernel
  rw [← harray]
  exact hread.2 _ nofun

end CpuCensus.Settings
