import CpuCensus.Probe.Fault
import CpuCensus.Text.Blank
import CpuCensus.Text.Letters
import CpuCensus.Text.Search

/-!
# Names of processors

A processor is named after its vendor and architecture on x86 and after its architecture family
elsewhere. Every such name contains one of the known tokens, and so does every description built
from one.
-/

namespace CpuCensus.CpuName

/-- The words by which a vendor or an architecture is recognised. -/
def knownTokens : List String :=
  ["Intel", "AMD", "Unknown x86", "ARM", "PPC", "PowerPC", "AArch64", "s390", "MIPS", "LoongArch"]

/-- The text contains a known token, in its exact spelling. -/
def isKnown (text : String) : Bool := knownTokens.any (Text.contains text)

/-- The spellings of the x86 architectures, in small letters. -/
def x86Names : List String := ["x86_64", "amd64", "x86", "i386", "i586", "i686"]

/-- The word for a vendor of x86 processors. -/
def vendorWord (vendor : String) : String :=
  match Text.trim vendor with
  | "GenuineIntel" => "Intel"
  | "AuthenticAMD" | "HygonGenuine" => "AMD"
  | _ => "Unknown x86"

/-- The family of an architecture other than x86, given in small letters. -/
def family? (arch : String) : Option String :=
  if arch == "aarch64" || arch == "arm64" then some "AArch64"
  else if Text.startsWith arch "arm" then some "ARM"
  else if Text.startsWith arch "powerpc64" || Text.startsWith arch "ppc64" then some "PowerPC"
  else if arch == "powerpc" || arch == "ppc" then some "PPC"
  else if arch == "s390x" || arch == "s390" then some "s390"
  else if Text.startsWith arch "mips" then some "MIPS"
  else if Text.startsWith arch "loongarch" then some "LoongArch"
  else none

/-- The name of a processor, from its vendor and the architecture it reports. -/
def ofVendor (vendor arch : String) : Except ProbeFault String :=
  let arch := Text.trim arch
  let small := Text.lower arch
  if x86Names.contains small then .ok (vendorWord vendor ++ " " ++ arch)
  else match family? small with
    | some name => .ok name
    | none => .error (.unsupportedArchitecture arch)

/-- Describe a processor by its brand, with the name in front where the brand alone would not be
recognised. -/
def describe (name brand : String) : String :=
  let brand := Text.trim brand
  if brand.isEmpty then name
  else if isKnown brand then brand
  else name ++ " " ++ brand

end CpuCensus.CpuName
