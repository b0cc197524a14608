/-!
# Letters of the basic Latin alphabet

Case matters nowhere in the names of architectures, but only for the letters A to Z: all other
characters are compared as they stand.
-/

namespace CpuCensus.Text

/-- The text with its letters A to Z written small. -/
def lower (s : String) : String := String.ofList (s.toList.map Char.toLower)

/-- The texts agree up to the case of the letters A to Z. -/
def sameLetters (s t : String) : Bool := lower s == lower t

@[simp] theorem toList_lower (s : String) : (lower s).toList = s.toList.map Char.toLower := by
  simp [lower]

end CpuCensus.Text
