import CpuCensus.Probe.Fault

/-!
# File trees

The part of a file system that a probe reads: files with their bytes and directories with their
entries, in the order in which they are listed.
-/

namespace CpuCensus

/-- The name of a directory entry, which need not be text. -/
inductive FileName where
  | text (name : String)
  | bytes (name : List UInt8)
  deriving DecidableEq, Repr

/-- The name that the bytes spell. -/
def FileName.ofBytes (name : ByteArray) : FileName :=
  match String.fromUTF8? name with
  | some s => .text s
  | none => .bytes name.toList

/-- A file or a directory. -/
inductive FileTree where
  | file (contents : ByteArray)
  | directory (entries : List (FileName × FileTree))

namespace FileTree

/-- The entries of a directory, listed. -/
abbrev Listing := List (FileName × FileTree)

/-- The entry with a name. -/
def Listing.entry? (entries : Listing) (name : FileName) : Option FileTree :=
  (List.find? (fun entry => entry.1 == name) entries).map Prod.snd

/-- List what is found at a place where a directory should be. -/
def list : Option FileTree → Except ReadFault Listing
  | none => .error .notFound
  | some (.file _) => .error .notDirectory
  | some (.directory entries) => .ok entries

/-- Read what is found at a place where a text file should be. -/
def readText : Option FileTree → Except ReadFault String
  | none => .error .notFound
  | some (.directory _) => .error .isDirectory
  | some (.file contents) =>
    match String.fromUTF8? contents with
    | some s => .ok s
    | none => .error .notUtf8

/-- Replace or add the entry with a name. -/
def Listing.put (name : FileName) (node : FileTree) : Listing → Listing
  | [] => [(name, node)]
  | entry :: entries =>
    if entry.1 == name then (name, node) :: entries else entry :: Listing.put name node entries

/-- Place a node below a directory, making the directories on its way. A directory that is placed
where one exists leaves it as it is. -/
def place (node : FileTree) : List FileName → Option FileTree → FileTree
  | [], existing =>
    match node, existing with
    | .directory [], some (.directory entries) => .directory entries
    | node, _ => node
  | name :: path, existing =>
    let entries : Listing := match existing with
      | some (.directory entries) => entries
      | _ => []
    .directory (entries.put name (place node path (entries.entry? name)))

end FileTree

end CpuCensus
