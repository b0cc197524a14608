import CpuCensus.Host.Cpuinfo
import CpuCensus.Host.ProcessorTree
import CpuCensus.Probe.Sensor

/-!
# The host

What a host lets the program read, and the snapshot that follows from it: the counts from the file
tree or else from the text list, the name and description from the first processor and the
architecture that the system reports, or else the one that the program was built for.
-/

namespace CpuCensus

/-- A processor as the system reports it. -/
structure ReportedCpu where
  vendor : String
  brand : String
  deriving DecidableEq, Repr

/-- What a host lets the program read. -/
structure Host where
  /-- The processors that the system reports. -/
  processors : List ReportedCpu := []
  /-- The architecture that the system reports. -/
  architecture : String := ""
  /-- Where the directory of processors is. -/
  treePath : String := "/sys/devices/system/cpu"
  tree : Option FileTree := none
  /-- Where the text list of processors is. -/
  cpuinfoPath : String := "/proc/cpuinfo"
  cpuinfo : Option ByteArray := none
  /-- What the program that runs on the host was built for. -/
  platform : Platform := .standard

namespace Host

/-- The architecture of the host, as it is reported or as the program was built for it. -/
def resolvedArchitecture (h : Host) : String := h.platform.resolveArchitecture h.architecture

/-- Read the text list. -/
def readCpuinfo (h : Host) : Except ProbeFault Cpuinfo.Summary :=
  match FileTree.readText (h.cpuinfo.map FileTree.file) with
  | .error cause => .error (.unreadable h.cpuinfoPath cause)
  | .ok text => .ok (Cpuinfo.parse text)

/-- The vendor and brand of a processor; where one is blank, the text list may tell it. -/
def identify (h : Host) (first : ReportedCpu) : ReportedCpu :=
  let vendor := Text.trim first.vendor
  let brand := Text.trim first.brand
  if vendor.isEmpty || brand.isEmpty then
    match h.readCpuinfo with
    | .ok summary =>
      { vendor := if vendor.isEmpty then summary.vendor.getD "" else vendor
        brand := if brand.isEmpty then summary.model.getD "" else brand }
    | .error _ => { vendor, brand }
  else { vendor, brand }

/-- The counts from the file tree, or else from the text list. -/
def counts (h : Host) : Except ProbeFault Counts × List Notice :=
  let (counted, notices) := ProcessorTree.counts h.treePath h.tree
  match counted with
  | .ok counts => (.ok counts, notices)
  | .error fault =>
    (h.readCpuinfo.bind Cpuinfo.Summary.counts, notices ++ [.treeUnavailable fault])

/-- The notice that the counted threads are not as many as the processors reported. -/
def disagreement (h : Host) (counts : Counts) : List Notice :=
  if counts.threads = h.processors.length then []
  else [.threadsDisagree counts.threads h.processors.length]

/-- Put a snapshot together from what was read. -/
def assemble (h : Host) (cpu : ReportedCpu) (counts : Counts) (startTime : Instant) : Reading :=
  match CpuName.ofVendor cpu.vendor h.resolvedArchitecture with
  | .error fault => { outcome := .error fault }
  | .ok name =>
    let snapshot : Snapshot :=
      { threads := counts.threads, cores := counts.cores, sockets := counts.sockets, cpu := name
        description := CpuName.describe name cpu.brand, startTime }
    match snapshot.checked with
    | .error fault => { outcome := .error fault, notices := h.disagreement counts }
    | .ok snapshot =>
      { outcome := .ok snapshot
        notices := h.disagreement counts ++
          [.sampled snapshot.threads snapshot.cores snapshot.sockets snapshot.cpu] }

/-- Take a snapshot of the host. -/
def sample (h : Host) (startTime : Instant) : Reading :=
  match h.processors with
  | [] =>
    { outcome := .error (.undetermined "hardware threads" "sysinfo reported no processors") }
  | first :: _ =>
    let (counted, notices) := h.counts
    match counted with
    | .error fault => { outcome := .error fault, notices }
    | .ok counts =>
      let reading := h.assemble (h.identify first) counts startTime
      { reading with notices := notices ++ reading.notices }

/-- The probe of a host that does not change during the run. -/
def probe (h : Host) (clock : Clock) : Probe where
  respond _ now := h.sample (clock now)

end Host

end CpuCensus
