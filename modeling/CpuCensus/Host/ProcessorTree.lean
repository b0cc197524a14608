import CpuCensus.Host.FileTree
import CpuCensus.Notice
import CpuCensus.Text.Search
import CpuCensus.Topology.Counts

/-!
# Processors in a file tree

A directory lists one entry for each processor, named `cpu` and a number. A processor that is online
has a directory `topology` with the files `physical_package_id` and `core_id`, and on newer systems
`die_id` and `cluster_id`. The counts of the host follow from these identifiers.
-/

namespace CpuCensus.ProcessorTree

/-- The name is `cpu` followed by one or more ASCII digits. -/
def isProcessorName (name : String) : Bool :=
  match name.toList with
  | 'c' :: 'p' :: 'u' :: digits => !digits.isEmpty && digits.all Char.isDigit
  | _ => false

/-- The listing of the `topology` directory of an entry. -/
def topology? : FileTree → Option FileTree.Listing
  | .directory entries =>
    match FileTree.Listing.entry? entries (.text "topology") with
    | some (.directory files) => some files
    | _ => none
  | .file _ => none

/-- An identifier as it is counted: numbers outside the 32-bit range count as 0. -/
def narrowed (n : Int) : Nat := if 0 ≤ n ∧ n < Text.bound32 then n.toNat else 0

/-- Read an identifier from the file at a path. -/
def readId (path : String) (file : Option FileTree) : Except ProbeFault Nat :=
  match FileTree.readText file with
  | .error cause => .error (.unreadable path cause)
  | .ok contents =>
    let digits := Text.trim contents
    match Text.signed? digits with
    | some n => .ok (narrowed n)
    | none => .error (.malformed path ("'" ++ digits ++ "' is not an integer"))

/-- Read an identifier that older systems do not tell; it is 0 unless there is a file. -/
def readOptionalId (path : String) (file : Option FileTree) : Except ProbeFault Nat :=
  match file with
  | some (.file contents) => readId path (some (.file contents))
  | _ => .ok 0

/-- Read the identifiers of a processor: package, die, cluster, then core. -/
def readProcessor (path : String) (files : FileTree.Listing) : Except ProbeFault ProcessorId := do
  let file (name : String) := FileTree.Listing.entry? files (.text name)
  let package ← readId (path ++ "/physical_package_id") (file "physical_package_id")
  let die ← readOptionalId (path ++ "/die_id") (file "die_id")
  let cluster ← readOptionalId (path ++ "/cluster_id") (file "cluster_id")
  let core ← readId (path ++ "/core_id") (file "core_id")
  return { package, die, cluster, core }

/-- Read the processors among the entries of a directory; processors without topology are offline
and skipped. -/
def readEntries (root : String) :
    FileTree.Listing → Except ProbeFault (List ProcessorId) × List Notice
  | [] => (.ok [], [])
  | (.bytes _, _) :: entries => readEntries root entries
  | (.text name, entry) :: entries =>
    if isProcessorName name then
      match topology? entry with
      | none =>
        let (processors, notices) := readEntries root entries
        (processors, .processorSkipped name :: notices)
      | some files =>
        match readProcessor (root ++ "/" ++ name ++ "/topology") files with
        | .error fault => (.error fault, [])
        | .ok processor =>
          let (processors, notices) := readEntries root entries
          (processors.map (processor :: ·), notices)
    else readEntries root entries

/-- Count the processors that the directory at a path lists. -/
def counts (root : String) (tree : Option FileTree) : Except ProbeFault Counts × List Notice :=
  match FileTree.list tree with
  | .error cause => (.error (.unreadable root cause), [])
  | .ok entries =>
    let (processors, notices) := readEntries root entries
    (processors.bind (Counts.ofProcessors root), notices)

end CpuCensus.ProcessorTree
