import CpuCensus.Text.Blank
import CpuCensus.Text.Letters

/-!
# Platforms

What the program was built for: an architecture, which stands in for the one that a host does not
tell, and an operating system, which is named where a host cannot be probed.
-/

namespace CpuCensus

/-- What the program was built for. -/
structure Platform where
  architecture : String
  system : String
  /-- The name of an architecture has no blanks at its ends. -/
  trim_architecture : Text.trim architecture = architecture

namespace Platform

/-- The platform that is taken for granted where none is told. -/
def standard : Platform where
  architecture := "x86_64"
  system := "linux"
  trim_architecture := by decide +kernel

/-- The reported architecture, or the one that the program is built for where none is known. -/
def resolveArchitecture (p : Platform) (reported : String) : String :=
  let arch := Text.trim reported
  if arch.isEmpty || Text.sameLetters arch "unknown" then p.architecture else arch

end Platform

end CpuCensus
