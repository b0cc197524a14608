import CpuCensus.CommandLine.Arguments

/-!
# Help pages

The text that a user gets who asks for help or for the version.
-/

namespace CpuCensus.CommandLine

/-- The name that the program goes by. -/
def programName : String := "cpurec"

/-- The version of the program. -/
def versionText : String := programName ++ " 0.3.0\n"

/-- What the command does. -/
def CommandWord.purpose : CommandWord → String
  | sample => "Take a single CPU information snapshot"
  | record => "Record CPU information events for a while and print them"
  | verify => "Record, then check every event against the CPU information contract"

/-- What the switch does. -/
def Switch.purpose : Switch → String
  | verbose => "Enable verbose/debug output"
  | json => "Print as JSON"
  | help => "Print help"
  | version => "Print version"

/-- What the parameter sets. -/
def Parameter.purpose : Parameter → String
  | simulate =>
    "Report a fixed topology instead of probing the host " ++
      "(THREADS:CORES:SOCKETS:CPU, or unsupported)"
  | durationMs => "How long to keep the recording running, in milliseconds"
  | periodMs => "Take a snapshot every N milliseconds while recording"
  | maxRecords => "Keep at most N events, dropping the oldest"
  | name => "Name attached to the recording in logs"

/-- What the help word does. -/
def helpPurpose : String := "Print this message or the help of the given subcommand(s)"

namespace HelpPage

/-- The first line of the page. -/
def title : HelpPage → String
  | brief => "Sample and record CPU topology information"
  | full => "Command-line interface for the CPU information recorder."
  | command word => word.purpose
  | help => helpPurpose

/-- The scope that the page is about, if it is about one. -/
def scope? : HelpPage → Option Scope
  | brief | full => some .outer
  | command word => some (.inner word)
  | help => none

/-- How the program is called. -/
def usage : HelpPage → String
  | brief | full => "[OPTIONS] [COMMAND]"
  | command word => word.word ++ " [OPTIONS]"
  | help => helpWord ++ " [COMMAND]"

/-- An entry of a page. -/
def entry (name purpose : String) : String := "  " ++ name ++ "\n          " ++ purpose

/-- The entries for the commands. -/
def commandEntries : HelpPage → List String
  | brief | full =>
    ["", "Commands:"] ++ CommandWord.all.map (fun word => entry word.word word.purpose) ++
      [entry helpWord helpPurpose]
  | command _ | help => []

/-- The entries for the options of a scope. -/
def optionEntries (scope : Scope) : List String :=
  ["", "Options:"] ++
    scope.parameters.map (fun p =>
      entry ("--" ++ p.word ++ " <" ++ p.word ++ "> [env: " ++ p.variableName ++ "]") p.purpose) ++
    scope.switches.map (fun s =>
      let letter := match s.letter? with
        | some c => "-" ++ c.toString ++ ", "
        | none => ""
      entry (letter ++ "--" ++ s.word) s.purpose)

/-- The page as text. -/
def text (page : HelpPage) : String :=
  String.join <| List.map (· ++ "\n") <|
    [page.title, "", "Usage: " ++ programName ++ " " ++ page.usage] ++ page.commandEntries ++
      (page.scope?.map optionEntries).getD []

end HelpPage

end CpuCensus.CommandLine
