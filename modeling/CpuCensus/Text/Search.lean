/-!
# Searching in texts

A text occurs in another when it stands there as consecutive characters. Main statement:
`occursIn_iff`, the search finds a list of characters exactly when it is an infix.
-/

namespace CpuCensus.Text

/-- Search for consecutive characters, from every position in turn. -/
def occursIn (part : List Char) : List Char → Bool
  | [] => part.isEmpty
  | c :: cs => part.isPrefixOf (c :: cs) || occursIn part cs

/-- The text holds the part as consecutive characters. -/
def contains (s part : String) : Bool := occursIn part.toList s.toList

/-- The text begins with the given characters. -/
def startsWith (s start : String) : Bool := start.toList.isPrefixOf s.toList

/-- The search succeeds exactly when the part is an infix of the text. -/
theorem occursIn_iff {part cs : List Char} : occursIn part cs = true ↔ part <:+: cs := by
  induction cs with
  | nil => simp [occursIn]
  | cons c cs ih =>
    simp only [occursIn, Bool.or_eq_true, List.isPrefixOf_iff_prefix, ih, List.infix_cons_iff]

end CpuCensus.Text
