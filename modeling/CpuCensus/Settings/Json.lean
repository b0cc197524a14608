import CpuCensus.Json.Skip
import CpuCensus.Json.Writer
import CpuCensus.Settings

/-!
# Settings in JSON

Settings are written as one object. They are read from an object with any of the three members, in
any order and among any others, or from an array with the three values in order; what is absent or
null is not set. The first fault in reading order is reported.
-/

namespace CpuCensus.Settings

open CpuCensus.Json (Token Fault)

/-- The settings as a JSON object on one line. -/
def json (s : Settings) : String :=
  Json.compactObject
    [("name", Json.optional Json.text s.name), ("period_ms", Json.optional Json.number s.periodMs),
      ("max_records", Json.optional Json.number s.maxRecords)]

/-- What a reader reports that finds the token in place of the value it asks for. -/
def refusal : Token → Fault
  | .word _ | .openBrace | .openBracket => .mismatch
  | .number (.ok _) | .text (.ok _) => .mismatch
  | .number (.error fault) | .text (.error fault) => fault
  | .brokenText read _ | .broken read _ => read
  | .closeBrace | .closeBracket | .comma | .colon => .malformed

/-- The text that a token holds. -/
def textOf : Token → Except Fault String
  | .text (.ok s) => .ok s
  | token => .error (refusal token)

/-- The whole number that a token holds. -/
def wholeOf : Token → Except Fault Nat
  | .number (.ok (some n)) => .ok n
  | token => .error (refusal token)

/-- Read a value that may be null. -/
def readOptional {α : Type} (read : Token → Except Fault α) :
    List Token → Except Fault (Option α × List Token)
  | [] => .error .truncated
  | .word .null :: tokens => .ok (none, tokens)
  | token :: tokens => (read token).map fun a => (some a, tokens)

/-- The members of the object that have been read, each with its value. -/
structure Members where
  name : Option (Option String) := none
  periodMs : Option (Option Nat) := none
  maxRecords : Option (Option Nat) := none
  deriving DecidableEq, Repr

/-- The settings that the members give; a member that is absent is not set. -/
def Members.settings (m : Members) : Settings :=
  { name := m.name.getD none
    periodMs := m.periodMs.getD none
    maxRecords := m.maxRecords.getD none }

/-- What the tokens say after a key: a colon, and then the value. -/
def afterColon : List Token → Except Fault (List Token)
  | [] => .error .truncated
  | .colon :: tokens => .ok tokens
  | _ => .error .malformed

/-- Read the value of a known member. It must not have been read before. -/
def readMember {α : Type} (known : Option (Option α)) (read : Token → Except Fault α)
    (tokens : List Token) : Except Fault (Option α × List Token) :=
  if known.isSome then .error .mismatch
  else (afterColon tokens).bind (readOptional read)

/-- Read the value of the member with a key into the members read so far. -/
def readKeyed (m : Members) (key : String) (tokens : List Token) :
    Except Fault (Members × List Token) :=
  match key with
  | "name" =>
    (readMember m.name textOf tokens).map fun (v, rest) => ({ m with name := some v }, rest)
  | "period_ms" =>
    (readMember m.periodMs wholeOf tokens).map fun (v, rest) =>
      ({ m with periodMs := some v }, rest)
  | "max_records" =>
    (readMember m.maxRecords wholeOf tokens).map fun (v, rest) =>
      ({ m with maxRecords := some v }, rest)
  | _ => ((afterColon tokens).bind Json.skipValue).map fun rest => (m, rest)

/-- The tokens from the next key on, if the object does not end here. -/
def nextKey (first : Bool) : List Token → Except Fault (Option (List Token))
  | [] => .error .truncated
  | .closeBrace :: _ => .ok none
  | .comma :: tokens =>
    if first then .error .malformed
    else if tokens.isEmpty then .error .truncated
    else .ok (some tokens)
  | tokens => if first then .ok (some tokens) else .error .malformed

private theorem length_afterColon {tokens rest : List Token} (h : afterColon tokens = .ok rest) :
    rest.length < tokens.length := by
  unfold afterColon at h
  split at h <;> simp_all

private theorem length_readOptional {α : Type} {read : Token → Except Fault α}
    {tokens rest : List Token} {v : Option α} (h : readOptional read tokens = .ok (v, rest)) :
    rest.length < tokens.length := by
  unfold readOptional at h
  split at h
  · simp at h
  · next ts =>
    simp only [Except.ok.injEq, Prod.mk.injEq] at h
    rw [← h.2, List.length_cons]
    exact Nat.lt_succ_self ts.length
  · next token ts _ =>
    cases hr : read token with
    | error f => simp [hr, Except.map] at h
    | ok a =>
      simp only [hr, Except.map, Except.ok.injEq, Prod.mk.injEq] at h
      rw [← h.2, List.length_cons]
      exact Nat.lt_succ_self ts.length

private theorem length_readMember {α : Type} {known : Option (Option α)}
    {read : Token → Except Fault α}
    {tokens rest : List Token} {v : Option α} (h : readMember known read tokens = .ok (v, rest)) :
    rest.length < tokens.length := by
  unfold readMember at h
  split at h
  · simp at h
  · cases ha : afterColon tokens with
    | error f => simp [ha, Except.bind] at h
    | ok after =>
      simp only [ha, Except.bind] at h
      exact Nat.lt_trans (length_readOptional h) (length_afterColon ha)

/-- A member that is read and stored leaves fewer tokens. -/
theorem length_map_readMember {α : Type} {known : Option (Option α)}
    {read : Token → Except Fault α} {store : Option α × List Token → Members × List Token}
    (hstore : ∀ p, (store p).2 = p.2) {tokens rest : List Token} {m : Members}
    (h : (readMember known read tokens).map store = .ok (m, rest)) :
    rest.length < tokens.length := by
  cases hr : readMember known read tokens with
  | error f => simp [hr, Except.map] at h
  | ok p =>
    simp only [hr, Except.map, Except.ok.injEq] at h
    have hrest : p.2 = rest := by rw [← hstore, h]
    rw [← hrest]
    exact length_readMember hr

private theorem length_readKeyed {m m' : Members} {key : String} {tokens rest : List Token}
    (h : readKeyed m key tokens = .ok (m', rest)) : rest.length < tokens.length := by
  unfold readKeyed at h
  split at h
  case h_4 =>
    cases ha : afterColon tokens with
    | error f => simp [ha, Except.bind, Except.map] at h
    | ok after =>
      cases hs : Json.skipValue after with
      | error f => simp [ha, hs, Except.bind, Except.map] at h
      | ok r =>
        have h1 := length_afterColon ha
        have h2 := Json.length_skip hs
        simp only [ha, hs, Except.bind, Except.map, Except.ok.injEq, Prod.mk.injEq] at h
        obtain ⟨-, rfl⟩ := h
        omega
  all_goals exact length_map_readMember (fun _ => rfl) h

private theorem length_nextKey {first : Bool} {tokens rest : List Token}
    (h : nextKey first tokens = .ok (some rest)) : rest.length ≤ tokens.length := by
  unfold nextKey at h
  split at h <;> grind

/-- Read the members of an object up to its end; the answer is what follows the closing brace. -/
def readMembers (m : Members) (first : Bool) (tokens : List Token) :
    Except Fault (Members × List Token) :=
  match _hn : nextKey first tokens with
  | .error fault => .error fault
  | .ok none => .ok (m, tokens.tail)
  | .ok (some []) => .error .truncated
  | .ok (some (token :: rest)) =>
    match token with
    | .text (.ok key) =>
      match _hk : readKeyed m key rest with
      | .error fault => .error fault
      | .ok (m, after) => readMembers m false after
    | .text (.error fault) => .error fault
    | .brokenText read _ => .error read
    | _ => .error .malformed
termination_by tokens.length
decreasing_by
  have h1 := length_nextKey _hn
  have h2 := length_readKeyed _hk
  simp only [List.length_cons] at h1
  omega

/-- Read the next value of an array, unless the array ends here. -/
def readElement {α : Type} (first : Bool) (read : Token → Except Fault α) (tokens : List Token) :
    Except Fault (Option α × List Token) :=
  match tokens with
  | [] => .error .truncated
  | .closeBracket :: _ => .ok (none, tokens)
  | .comma :: .closeBracket :: _ => .error .malformed
  | .comma :: rest => if first then .error .malformed else readOptional read rest
  | tokens => if first then readOptional read tokens else .error .malformed

/-- The end of an array. -/
def endArray : List Token → Except Fault (List Token)
  | [] => .error .truncated
  | .closeBracket :: tokens => .ok tokens
  | _ => .error .malformed

/-- Read the values of an array in order. -/
def readArray (tokens : List Token) : Except Fault (Settings × List Token) := do
  let (name, tokens) ← readElement true textOf tokens
  let (periodMs, tokens) ← readElement false wholeOf tokens
  let (maxRecords, tokens) ← readElement false wholeOf tokens
  let rest ← endArray tokens
  return ({ name, periodMs, maxRecords }, rest)

/-- Read settings; the answer is also what follows them. -/
def readTokens : List Token → Except Fault (Settings × List Token)
  | [] => .error .truncated
  | .openBrace :: tokens =>
    (readMembers {} true tokens).map fun (m, rest) => (m.settings, rest)
  | .openBracket :: tokens => readArray tokens
  | token :: _ => .error (refusal token)

/-- Read a JSON text that holds settings and nothing else. -/
def ofJson (text : String) : Except Fault Settings := do
  let (settings, rest) ← readTokens (Json.scan text.toList)
  if rest.isEmpty then return settings else throw .malformed

end CpuCensus.Settings
