import CpuCensus.Proofs.JsonGrammar
import CpuCensus.Proofs.SettingsJson

/-!
# Settings among other members

Settings are read from an object by its members alone: the three that are known, each at most once,
tell the settings, and all others are skipped. So neither the order of the members nor the blanks
between them, neither the spelling of texts nor the other members, whatever they hold, change what
is read.
-/

namespace CpuCensus.Json

/-! ### Objects and their members -/

/-- A member of an object: its key, and its value as it is written. -/
abbrev WrittenMember := String × List Char

/-- The characters are the member with the blanks around it. The key may be spelled in any way. -/
inductive MemberText : WrittenMember → List Char → Prop
  | mk {key : String} {before body middle start value after : List Char} : IsGap before →
      Spells body key.toList → IsGap middle → IsGap start → Derives .value value → IsGap after →
      MemberText (key, value)
        (before ++ '"' :: (body ++ '"' :: (middle ++ ':' :: (start ++ (value ++ after)))))

/-- The characters are the members in their order, with commas between them. -/
inductive MembersText : List WrittenMember → List Char → Prop
  | last {member : WrittenMember} {cs : List Char} : MemberText member cs →
      MembersText [member] cs
  | cons {member : WrittenMember} {members : List WrittenMember} {cs cs' : List Char} :
      MemberText member cs → MembersText members cs' →
      MembersText (member :: members) (cs ++ ',' :: cs')

/-- The characters are an object with these members and nothing else but blanks. -/
inductive ObjectText : List WrittenMember → List Char → Prop
  | empty {before gap after : List Char} : IsGap before → IsGap gap → IsGap after →
      ObjectText [] (before ++ '\x7b' :: (gap ++ '\x7d' :: after))
  | members {members : List WrittenMember} {before cs after : List Char} : IsGap before →
      MembersText members cs → IsGap after →
      ObjectText members (before ++ '\x7b' :: (cs ++ '\x7d' :: after))

/-- The values that stand under a key. -/
def valuesOf (key : String) (members : List WrittenMember) : List (List Char) :=
  (members.filter fun m => m.1 = key).map (·.2)

private theorem valuesOf_cons_self (key : String) (value : List Char)
    (members : List WrittenMember) :
    valuesOf key ((key, value) :: members) = value :: valuesOf key members := by
  simp [valuesOf]

private theorem valuesOf_cons_of_ne {key key' : String} (h : key' ≠ key) (value : List Char)
    (members : List WrittenMember) :
    valuesOf key ((key', value) :: members) = valuesOf key members := by
  simp [valuesOf, h]

/-- A member is scanned up to its value, which ends before blanks. -/
theorem MemberText.scan_append {key : String} {value cs : List Char}
    (h : MemberText (key, value) cs) :
    Derives .value value ∧ ∃ after, IsGap after ∧ ∀ rest,
      scan (cs ++ rest) = .text (.ok key) :: .colon :: scan (value ++ (after ++ rest)) := by
  cases h with
  | mk hbefore hkey hmiddle hstart hvalue hafter =>
    refine ⟨hvalue, _, hafter, fun rest => ?_⟩
    simp only [List.append_assoc, List.cons_append]
    rw [hbefore.scan_append, hkey.scan_append, hmiddle.scan_append, scan_mark .colon rfl,
      hstart.scan_append, String.ofList_toList]

/-- Members start with a key. -/
theorem MembersText.scan_append {members : List WrittenMember} {cs : List Char}
    (h : MembersText members cs) (rest : List Char) :
    ∃ key tokens, scan (cs ++ rest) = .text (.ok key) :: tokens := by
  cases h with
  | last h =>
    obtain ⟨-, after, -, hscan⟩ := h.scan_append
    exact ⟨_, _, hscan rest⟩
  | cons h _ =>
    obtain ⟨-, after, -, hscan⟩ := h.scan_append
    rw [List.append_assoc]
    exact ⟨_, _, hscan _⟩

/-! ### The same value in another spelling -/

/-- Plain characters spell themselves. -/
theorem spells_self {s : List Char} (h : s.all (fun c => IsPlain c) = true) : Spells s s := by
  induction s with
  | nil => exact .nil
  | cons c cs ih =>
    rw [List.all_cons, Bool.and_eq_true, decide_eq_true_eq] at h
    exact .plain h.1 (ih h.2)

/-- The values are the same, or both are texts that spell the same characters. -/
inductive SameValue : List Char → List Char → Prop
  | refl (value : List Char) : SameValue value value
  | text {body body' s : List Char} : Spells body s → Spells body' s →
      SameValue ('"' :: (body ++ ['"'])) ('"' :: (body' ++ ['"']))

/-- The members have the same key and the same value. -/
def SameMember (a b : WrittenMember) : Prop := a.1 = b.1 ∧ SameValue a.2 b.2

theorem Spells.unique {body s s' : List Char} (h : Spells body s) (h' : Spells body s') :
    s = s' :=
  Except.ok.inj ((h.readText_append []).symm.trans (h'.readText_append []))

private theorem sameValue_valuesOf {members members' : List WrittenMember}
    (h : List.Forall₂ SameMember members members') (key : String) :
    List.Forall₂ SameValue (valuesOf key members) (valuesOf key members') := by
  induction h with
  | nil => exact .nil
  | @cons a b members members' hab _ ih =>
    obtain ⟨key', value⟩ := a
    obtain ⟨_, value'⟩ := b
    obtain ⟨rfl, hvalue⟩ := hab
    by_cases hkey : key' = key
    · subst hkey
      rw [valuesOf_cons_self, valuesOf_cons_self]
      exact .cons hvalue ih
    · rw [valuesOf_cons_of_ne hkey, valuesOf_cons_of_ne hkey]
      exact ih

end CpuCensus.Json

namespace CpuCensus.Settings

open CpuCensus.Json (Token Fault WrittenMember ObjectText MembersText MemberText Derives EndsNumber
  SameValue SameMember valuesOf valuesOf_cons_self valuesOf_cons_of_ne scan optionalToken)

/-! ### What the members tell -/

/-- What a value tells where a text is asked for. -/
inductive TellsText : List Char → Option String → Prop
  | null : TellsText "null".toList none
  | text {body : List Char} {s : String} : Json.Spells body s.toList →
      TellsText ('"' :: (body ++ ['"'])) (some s)

/-- What a value tells where a whole number is asked for, which must fit 64 bits. -/
inductive TellsWhole : List Char → Option Nat → Prop
  | null : TellsWhole "null".toList none
  | whole {n : Nat} : n < UInt64.size → TellsWhole (Nat.repr n).toList (some n)

section told

variable {α : Type} {tells : List Char → Option α → Prop}

/-- What the values under one key tell: nothing if there is none. There may not be two. -/
inductive Told (tells : List Char → Option α → Prop) : List (List Char) → Option α → Prop
  | absent : Told tells [] none
  | once {value : List Char} {v : Option α} : tells value v → Told tells [value] v

private theorem exists_told {values : List (List Char)} (hone : values.length ≤ 1)
    (h : ∀ value ∈ values, ∃ v, tells value v) : ∃ v, Told tells values v := by
  match values, hone with
  | [], _ => exact ⟨none, .absent⟩
  | [value], _ =>
    obtain ⟨v, hv⟩ := h value List.mem_cons_self
    exact ⟨v, .once hv⟩

/-- The values tell the same in another order and another spelling. -/
theorem Told.of_same {values between values' : List (List Char)} {v : Option α}
    (h : Told tells values v) (hsame : List.Forall₂ SameValue between values)
    (hperm : values'.Perm between)
    (htells : ∀ {value value' v}, SameValue value' value → tells value v → tells value' v) :
    Told tells values' v := by
  cases h with
  | absent =>
    cases hsame
    rw [List.perm_nil.mp hperm]
    exact .absent
  | once hv =>
    cases hsame with
    | cons hvalue hnil =>
      cases hnil
      rw [List.perm_singleton.mp hperm]
      exact .once (htells hvalue hv)

end told

private theorem TellsText.of_same {value value' : List Char} {v : Option String}
    (hsame : SameValue value' value) (h : TellsText value v) : TellsText value' v := by
  cases hsame with
  | refl => exact h
  | @text body' body s hbody' hbody =>
    generalize htext : '"' :: (body ++ ['"']) = text at h
    cases h with
    | null => cases htext
    | @text body₁ t ht =>
      have heq : body = body₁ := List.append_cancel_right (List.cons.inj htext).2
      subst heq
      rw [hbody.unique ht] at hbody'
      exact .text hbody'

private theorem TellsWhole.of_same {value value' : List Char} {v : Option Nat}
    (hsame : SameValue value' value) (h : TellsWhole value v) : TellsWhole value' v := by
  cases hsame with
  | refl => exact h
  | @text body' body s _ _ =>
    generalize htext : '"' :: (body ++ ['"']) = text at h
    cases h with
    | null => cases htext
    | @whole n _ =>
      -- A number starts with a digit and not with a quotation mark.
      obtain ⟨c, cs, hcs, hc⟩ := (Json.isWhole_repr n).eq_cons
      rw [hcs] at htext
      rw [← (List.cons.inj htext).1] at hc
      cases hc

/-- The keys of the members that are known. -/
def knownKeys : List String := ["name", "period_ms", "max_records"]

/-- The members that are known. -/
def knownOf (members : List WrittenMember) : List WrittenMember :=
  members.filter fun m => m.1 ∈ knownKeys

/-- Each known member stands at most once, with null or a value of its type. -/
structure KnownFit (members : List WrittenMember) : Prop where
  once : ∀ key ∈ knownKeys, (valuesOf key members).length ≤ 1
  name : ∀ value ∈ valuesOf "name" members, ∃ v, TellsText value v
  periodMs : ∀ value ∈ valuesOf "period_ms" members, ∃ v, TellsWhole value v
  maxRecords : ∀ value ∈ valuesOf "max_records" members, ∃ v, TellsWhole value v

/-- These are the settings that the known members tell. -/
structure ToldBy (s : Settings) (members : List WrittenMember) : Prop where
  name : Told TellsText (valuesOf "name" members) s.name
  periodMs : Told TellsWhole (valuesOf "period_ms" members) s.periodMs
  maxRecords : Told TellsWhole (valuesOf "max_records" members) s.maxRecords

/-- The known members are the same, in whatever order and spelling and among whatever others. -/
def SameKnown (members' members : List WrittenMember) : Prop :=
  ∃ between, (knownOf members').Perm between ∧
    List.Forall₂ SameMember between (knownOf members)

private theorem KnownFit.exists_toldBy {members : List WrittenMember} (h : KnownFit members) :
    ∃ s : Settings, s.ToldBy members := by
  obtain ⟨name, hname⟩ := exists_told (h.once "name" (by decide)) h.name
  obtain ⟨periodMs, hperiod⟩ := exists_told (h.once "period_ms" (by decide)) h.periodMs
  obtain ⟨maxRecords, hrecords⟩ := exists_told (h.once "max_records" (by decide)) h.maxRecords
  exact ⟨{ name, periodMs, maxRecords }, hname, hperiod, hrecords⟩

private theorem valuesOf_knownOf {key : String} (h : key ∈ knownKeys)
    (members : List WrittenMember) :
    valuesOf key (knownOf members) = valuesOf key members := by
  rw [valuesOf, valuesOf, knownOf, List.filter_filter]
  congr 1
  apply List.filter_congr
  intro m _
  by_cases hm : m.1 = key
  · simp [hm, h]
  · simp [hm]

private theorem ToldBy.of_same {s : Settings} {members members' : List WrittenMember}
    (h : s.ToldBy members) (hsame : SameKnown members' members) : s.ToldBy members' := by
  obtain ⟨between, hperm, hmembers⟩ := hsame
  have hvalues (key : String) (hkey : key ∈ knownKeys) :
      List.Forall₂ SameValue (valuesOf key between) (valuesOf key members) ∧
      (valuesOf key members').Perm (valuesOf key between) := by
    rw [← valuesOf_knownOf hkey members, ← valuesOf_knownOf hkey members']
    exact ⟨Json.sameValue_valuesOf hmembers key, (hperm.filter _).map _⟩
  obtain ⟨hname, hname'⟩ := hvalues "name" (by decide)
  obtain ⟨hperiod, hperiod'⟩ := hvalues "period_ms" (by decide)
  obtain ⟨hrecords, hrecords'⟩ := hvalues "max_records" (by decide)
  exact ⟨h.name.of_same hname hname' .of_same, h.periodMs.of_same hperiod hperiod' .of_same,
    h.maxRecords.of_same hrecords hrecords' .of_same⟩

/-! ### Reading the members -/

theorem TellsText.scan_append {value rest : List Char} {v : Option String} (h : TellsText value v)
    (hr : EndsNumber rest) : scan (value ++ rest) = optionalToken textToken v :: scan rest := by
  cases h with
  | null => exact Json.readsAs_null rest hr
  | @text body s hs =>
    rw [List.cons_append, List.append_assoc]
    exact (hs.scan_append rest).trans (by rw [String.ofList_toList]; rfl)

theorem TellsWhole.scan_append {value rest : List Char} {v : Option Nat} (h : TellsWhole value v)
    (hr : EndsNumber rest) : scan (value ++ rest) = optionalToken wholeToken v :: scan rest := by
  cases h with
  | null => exact Json.readsAs_null rest hr
  | whole hn => exact Json.readsAs_number hn rest hr

section fields

variable {α : Type} {tells : List Char → Option α → Prop}

/-- How the values under one key complete what was read of that member before. -/
inductive Filled (tells : List Char → Option α → Prop) :
    Option (Option α) → List (List Char) → Option (Option α) → Prop
  | kept (known : Option (Option α)) : Filled tells known [] known
  | read {value : List Char} {v : Option α} : tells value v → Filled tells none [value] (some v)

private theorem Told.filled {values : List (List Char)} {v : Option α} (h : Told tells values v) :
    ∃ known, Filled tells none values known ∧ known.getD none = v := by
  cases h with
  | absent => exact ⟨none, .kept none, rfl⟩
  | once hv => exact ⟨some v, .read hv, rfl⟩

private theorem Filled.eq_of_nil {known known' : Option (Option α)}
    (h : Filled tells known [] known') :
    known = known' := by
  cases h
  rfl

/-- A known member is read if it was not read before, and no other under its key follows. -/
theorem Filled.readMember_scan {read : Token → Except Fault α} {token : α → Token}
    (hreads : Reads read token) {known known' : Option (Option α)} {value rest : List Char}
    {values : List (List Char)} (h : Filled tells known (value :: values) known')
    (hscan : ∀ {v}, tells value v → scan (value ++ rest) = optionalToken token v :: scan rest) :
    ∃ v, readMember known read (.colon :: scan (value ++ rest)) = .ok (v, scan rest) ∧
      Filled tells (some v) values known' := by
  cases h with
  | @read _ v hv =>
    refine ⟨v, ?_, .kept (some v)⟩
    rw [hscan hv, readMember_token hreads]

end fields

/-- How the members of an object complete those that were read before. -/
structure Completes (m : Members) (members : List WrittenMember) (m' : Members) : Prop where
  name : Filled TellsText m.name (valuesOf "name" members) m'.name
  periodMs : Filled TellsWhole m.periodMs (valuesOf "period_ms" members) m'.periodMs
  maxRecords : Filled TellsWhole m.maxRecords (valuesOf "max_records" members) m'.maxRecords

private theorem ToldBy.completes {s : Settings} {members : List WrittenMember}
    (h : s.ToldBy members) :
    ∃ m, Completes {} members m ∧ m.settings = s := by
  obtain ⟨name, hname, hname'⟩ := h.name.filled
  obtain ⟨periodMs, hperiod, hperiod'⟩ := h.periodMs.filled
  obtain ⟨maxRecords, hrecords, hrecords'⟩ := h.maxRecords.filled
  refine ⟨{ name, periodMs, maxRecords }, ⟨hname, hperiod, hrecords⟩, ?_⟩
  rw [Members.settings, hname', hperiod', hrecords']

private theorem Completes.eq_of_nil {m m' : Members} (h : Completes m [] m') : m = m' := by
  obtain ⟨name, periodMs, maxRecords⟩ := m
  obtain ⟨name', periodMs', maxRecords'⟩ := m'
  obtain ⟨hname, hperiod, hrecords⟩ := h
  cases hname.eq_of_nil
  cases hperiod.eq_of_nil
  cases hrecords.eq_of_nil
  rfl

section members

variable {m m' : Members} {members : List WrittenMember} {value cs rest : List Char}

/-- A member that is known is read into its field and leaves the others as they are. -/
theorem readKeyed_known {key : String} (hkey : key ∈ knownKeys)
    (hc : Completes m ((key, value) :: members) m') (hr : EndsNumber rest) :
    ∃ m₁, readKeyed m key (.colon :: scan (value ++ rest)) = .ok (m₁, scan rest) ∧
      Completes m₁ members m' := by
  obtain ⟨hname, hperiod, hrecords⟩ := hc
  simp only [knownKeys, List.mem_cons, List.not_mem_nil, or_false] at hkey
  rcases hkey with rfl | rfl | rfl
  case inl =>
    rw [valuesOf_cons_self] at hname
    rw [valuesOf_cons_of_ne (by decide)] at hperiod hrecords
    obtain ⟨v, hread, hname⟩ := hname.readMember_scan reads_textToken (·.scan_append hr)
    refine ⟨{ m with name := some v }, ?_, hname, hperiod, hrecords⟩
    rw [readKeyed, hread]
    rfl
  case inr.inl =>
    rw [valuesOf_cons_self] at hperiod
    rw [valuesOf_cons_of_ne (by decide)] at hname hrecords
    obtain ⟨v, hread, hperiod⟩ := hperiod.readMember_scan reads_wholeToken (·.scan_append hr)
    refine ⟨{ m with periodMs := some v }, ?_, hname, hperiod, hrecords⟩
    rw [readKeyed, hread]
    rfl
  case inr.inr =>
    rw [valuesOf_cons_self] at hrecords
    rw [valuesOf_cons_of_ne (by decide)] at hname hperiod
    obtain ⟨v, hread, hrecords⟩ := hrecords.readMember_scan reads_wholeToken (·.scan_append hr)
    refine ⟨{ m with maxRecords := some v }, ?_, hname, hperiod, hrecords⟩
    rw [readKeyed, hread]
    rfl

/-- A member that is not known is skipped and leaves the others as they are. -/
theorem readKeyed_unknown {key : String} (hkey : key ∉ knownKeys) (hv : Derives .value value)
    (hc : Completes m ((key, value) :: members) m') (hr : EndsNumber rest) :
    readKeyed m key (.colon :: scan (value ++ rest)) = .ok (m, scan rest) ∧
      Completes m members m' := by
  simp only [knownKeys, List.mem_cons, List.not_mem_nil, or_false, not_or] at hkey
  obtain ⟨hname, hperiod, hrecords⟩ := hkey
  obtain ⟨cname, cperiod, crecords⟩ := hc
  rw [valuesOf_cons_of_ne hname] at cname
  rw [valuesOf_cons_of_ne hperiod] at cperiod
  rw [valuesOf_cons_of_ne hrecords] at crecords
  refine ⟨?_, cname, cperiod, crecords⟩
  rw [readKeyed.eq_4 _ _ _ hname hperiod hrecords, afterColon, Except.bind,
    hv.skipValue_append hr]
  rfl

/-- One member of an object is read or skipped, and the others complete what was read. -/
theorem readKeyed_member {key : String} (hv : Derives .value value)
    (hc : Completes m ((key, value) :: members) m') (hr : EndsNumber rest) :
    ∃ m₁, readKeyed m key (.colon :: scan (value ++ rest)) = .ok (m₁, scan rest) ∧
      Completes m₁ members m' := by
  by_cases hkey : key ∈ knownKeys
  · exact readKeyed_known hkey hc hr
  · exact ⟨m, readKeyed_unknown hkey hv hc hr⟩

/-- From a member on, the reader goes on behind it with what it has read. -/
theorem readMembers_member {member : WrittenMember} (h : MemberText member cs)
    (hc : Completes m (member :: members) m') (hr : EndsNumber rest) {first : Bool}
    {tokens : List Token} (hn : nextKey first tokens = .ok (some (scan (cs ++ rest)))) :
    ∃ m₁, readMembers m first tokens = readMembers m₁ false (scan rest) ∧
      Completes m₁ members m' := by
  obtain ⟨hv, after, hafter, hscan⟩ := h.scan_append
  obtain ⟨m₁, hread, hc₁⟩ := readKeyed_member hv hc (hafter.endsNumber_append hr)
  rw [hafter.scan_append] at hread
  rw [hscan] at hn
  exact ⟨m₁, readMembers_of_readKeyed hn hread, hc₁⟩

/-- All members are read or skipped up to the closing brace. -/
theorem readMembers_members (h : MembersText members cs) (hc : Completes m members m')
    {first : Bool} {tokens : List Token}
    (hn : nextKey first tokens = .ok (some (scan (cs ++ '\x7d' :: rest)))) :
    readMembers m first tokens = .ok (m', scan rest) := by
  induction h generalizing m first tokens with
  | last h =>
    obtain ⟨m₁, hread, hc₁⟩ :=
      readMembers_member h hc (Json.endsNumber_mark .closeBrace rfl rest) hn
    rw [hread, Json.scan_mark .closeBrace rfl, readMembers_closeBrace, hc₁.eq_of_nil]
  | @cons member members cs cs' h hs ih =>
    rw [List.append_assoc, List.cons_append] at hn
    obtain ⟨m₁, hread, hc₁⟩ := readMembers_member h hc (Json.endsNumber_mark .comma rfl _) hn
    rw [hread, Json.scan_mark .comma rfl]
    apply ih hc₁
    obtain ⟨key, tokens, hscan⟩ := hs.scan_append ('\x7d' :: rest)
    rw [hscan]
    rfl

end members

/-- Settings are read from an object as its known members tell them. -/
theorem ofJson_of_toldBy {members : List WrittenMember} {text : String} {s : Settings}
    (htext : ObjectText members text.toList) (h : s.ToldBy members) : ofJson text = .ok s := by
  obtain ⟨m, hc, rfl⟩ := h.completes
  generalize hcs : text.toList = cs at htext
  cases htext with
  | @empty before gap after hbefore hgap hafter =>
    have hscan : scan text.toList = [.openBrace, .closeBrace] := by
      rw [hcs, hbefore.scan_append, Json.scan_mark .openBrace rfl, hgap.scan_append,
        Json.scan_mark .closeBrace rfl, hafter.scan_eq_nil]
    apply ofJson_of_scan hscan
    rw [readTokens, readMembers_closeBrace, hc.eq_of_nil]
    rfl
  | @members _ before cs after hbefore hcs' hafter =>
    have hscan : scan text.toList = .openBrace :: scan (cs ++ '\x7d' :: after) := by
      rw [hcs, hbefore.scan_append, Json.scan_mark .openBrace rfl]
    have hfirst : nextKey true (scan (cs ++ '\x7d' :: after)) =
        .ok (some (scan (cs ++ '\x7d' :: after))) := by
      obtain ⟨key, tokens, hkey⟩ := hcs'.scan_append ('\x7d' :: after)
      rw [hkey]
      rfl
    apply ofJson_of_scan hscan
    rw [readTokens, readMembers_members hcs' hc hfirst, hafter.scan_eq_nil]
    rfl

/-! ### Main statement -/

/-- Settings are read from every object in which each known member stands at most once, with null or
a value of its type. They are what these members tell, and a member that is absent is not set. The
same settings are read from every object with the same known members, whatever the order of its
members, the blanks between them, the spelling of its texts and its other members. -/
theorem read_from_known_members {members : List WrittenMember} {text : String}
    (htext : ObjectText members text.toList) (hfit : KnownFit members) :
    ∃ s : Settings, s.ToldBy members ∧ ofJson text = .ok s ∧
      ∀ (members' : List WrittenMember) (text' : String), ObjectText members' text'.toList →
        SameKnown members' members → ofJson text' = .ok s := by
  obtain ⟨s, hs⟩ := hfit.exists_toldBy
  refine ⟨s, hs, ofJson_of_toldBy htext hs, ?_⟩
  intro members' text' htext' hsame
  exact ofJson_of_toldBy htext' (hs.of_same hsame)

/-- A name spelled by its numbers and the largest number of 64 bits are read on both sides of a
member that holds half a pair and a number beyond all bounds. They are also read without it, in the
other order and with the name as it is. -/
theorem spelled_members_read_among_others :
    let members : List WrittenMember :=
      [("name", "\"\\ud83d\\uDE00\"".toList),
        ("x", "[\x7b\"\\udc00\":-1.5e+999\x7d, []]".toList),
        ("period_ms", "18446744073709551615".toList)]
    let text := " \x7b\"n\\u0061me\" : \"\\ud83d\\uDE00\"" ++
      ",\"x\":[\x7b\"\\udc00\":-1.5e+999\x7d, []],\"period_ms\":18446744073709551615\n\x7d"
    let plain := "\x7b\"period_ms\":18446744073709551615,\"name\":\"😀\"\x7d"
    let s : Settings := { name := some "😀", periodMs := some 18446744073709551615 }
    (ObjectText members text.toList ∧ KnownFit members) ∧
    ofJson text = .ok s ∧ ofJson plain = .ok s := by
  have none : Json.IsGap [] := nofun
  have blank : Json.IsGap [' '] := by decide
  have line : Json.IsGap ['\n'] := by decide
  -- The keys and the name, in each of their spellings.
  have hkey : Json.Spells "n\\u0061me".toList "name".toList := by
    have ha : Json.HexUnit ['0', '0', '6', '1'] 'a'.toNat :=
      @Json.HexUnit.mk _ _ _ _ 0 0 6 1 (.inl rfl) (.inl rfl) (.inl rfl) (.inl rfl)
    have hme : Json.Spells ['m', 'e'] ['m', 'e'] := Json.spells_self rfl
    have hn : Json.IsPlain 'n' := by decide
    simpa using Json.Spells.plain hn (.unit ha hme)
  have hkey' : Json.Spells "name".toList "name".toList := Json.spells_self (by decide)
  have hperiod : Json.Spells "period_ms".toList "period_ms".toList := Json.spells_self (by decide)
  have hother : Json.Spells "x".toList "x".toList := Json.spells_self (by decide)
  have hname : Json.Spells "\\ud83d\\uDE00".toList "😀".toList := by
    have hhigh : Json.HexUnit ['d', '8', '3', 'd'] (0xD800 + 0x3D) :=
      @Json.HexUnit.mk _ _ _ _ 13 8 3 13 (.inl rfl) (.inl rfl) (.inl rfl) (.inl rfl)
    have hlow : Json.HexUnit ['D', 'E', '0', '0'] (0xDC00 + 0x200) :=
      @Json.HexUnit.mk _ _ _ _ 13 14 0 0 (.inr rfl) (.inr rfl) (.inr rfl) (.inr rfl)
    have hpair : '😀'.toNat = 0x10000 + 0x3D * 0x400 + 0x200 := rfl
    simpa using Json.Spells.pair hhigh hlow (by decide) (by decide) hpair .nil
  have hname' : Json.Spells "😀".toList "😀".toList := Json.spells_self (by decide)
  -- The values, by the grammar and by what they tell.
  have hx : Derives .value "[\x7b\"\\udc00\":-1.5e+999\x7d, []]".toList := by
    have hw : Json.IsWhole ['1'] := ⟨⟨nofun, List.all_eq_true.mp rfl⟩, nofun⟩
    have hf : Json.IsFraction ['.', '5'] := .inr ⟨['5'], ⟨nofun, List.all_eq_true.mp rfl⟩, rfl⟩
    have he : Json.IsExponent ['e', '+', '9', '9', '9'] :=
      .inr ⟨'e', ['+'], ['9', '9', '9'], .inl rfl, .inr (.inl rfl),
        ⟨nofun, List.all_eq_true.mp rfl⟩, rfl⟩
    have hhalf : Json.HexUnit ['d', 'c', '0', '0'] 0xDC00 :=
      @Json.HexUnit.mk _ _ _ _ 13 12 0 0 (.inl rfl) (.inl rfl) (.inl rfl) (.inl rfl)
    have hnumber := Derives.item none (.number (.negative hw hf he)) none
    have hinner := Derives.object (.lastMember (.member none (.unit hhalf .nil) none hnumber))
    have houter := Derives.array
      (.items (.item none hinner none) (.lastItem (.item blank (.emptyArray none) none)))
    simpa using houter
  have hrepr : Nat.repr 18446744073709551615 = "18446744073709551615" := by decide +kernel
  have hlargest : Derives .value "18446744073709551615".toList := by
    have h := Json.IsNumber.positive (hrepr ▸ Json.isWhole_repr _) (.inl rfl) (.inl rfl)
    exact .number (by simpa using h)
  have htoldPeriod : TellsWhole "18446744073709551615".toList (some 18446744073709551615) :=
    hrepr ▸ .whole (by decide)
  have htoldName : TellsText "\"\\ud83d\\uDE00\"".toList (some "😀") := by
    simpa using TellsText.text hname
  intro members text plain s
  have htext : ObjectText members text.toList := by
    have hn := MemberText.mk none hkey blank blank (.text hname.isBody) none
    have hm := MemberText.mk none hother none none hx none
    have hp := MemberText.mk none hperiod none none hlargest line
    simpa [members, text] using ObjectText.members blank (.cons hn (.cons hm (.last hp))) none
  have hfit : KnownFit members := by
    refine ⟨by decide, ?_, ?_, nofun⟩
    · intro value hvalue
      rw [List.mem_singleton.mp hvalue]
      exact ⟨_, htoldName⟩
    · intro value hvalue
      rw [List.mem_singleton.mp hvalue]
      exact ⟨_, htoldPeriod⟩
  obtain ⟨s', -, hread, hsame⟩ := read_from_known_members htext hfit
  obtain rfl : s' = s := by
    have hs : s.ToldBy members := ⟨.once htoldName, .once htoldPeriod, .absent⟩
    exact Except.ok.inj (hread.symm.trans (ofJson_of_toldBy htext hs))
  refine ⟨⟨htext, hfit⟩, hread, hsame [("period_ms", "18446744073709551615".toList),
    ("name", "\"😀\"".toList)] plain ?_ ?_⟩
  · have hp := MemberText.mk none hperiod none none hlargest none
    have hn := MemberText.mk none hkey' none none (.text hname'.isBody) none
    have hplain : plain.toList = '\x7b' :: ("\"period_ms\":18446744073709551615,".toList ++
        ("\"name\":".toList ++ ['"', '😀', '"', '\x7d'])) := by decide +kernel
    rw [hplain]
    simpa using ObjectText.members none (.cons hp (.last hn)) none
  · refine ⟨_, .swap _ _ _, .cons ⟨rfl, ?_⟩ (.cons ⟨rfl, .refl _⟩ .nil)⟩
    simpa using SameValue.text hname' hname

end CpuCensus.Settings
