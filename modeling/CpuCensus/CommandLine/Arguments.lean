import CpuCensus.Simulation

/-!
# Arguments

What the words of a command line and the variables of its environment ask for. The line has an
outer scope, up to the command, and an inner one after it; each knows its own switches and
parameters. A parameter takes the value after its equals sign or else the next word. That value is
checked when the next known option comes or when the scope is left, so an unknown option is
reported before it. Variables stand in for the parameters that a scope is not given.
-/

namespace CpuCensus.CommandLine

/-- The commands. -/
inductive CommandWord where
  | sample
  | record
  | verify
  deriving DecidableEq, Repr

/-- The switches: options that take no value. -/
inductive Switch where
  | verbose
  | json
  | help
  | version
  deriving DecidableEq, Repr

/-- The parameters: options that take a value. -/
inductive Parameter where
  | simulate
  | durationMs
  | periodMs
  | maxRecords
  | name
  deriving DecidableEq, Repr

/-- A part of the command line: up to the command, or after it. -/
inductive Scope where
  | outer
  | inner (command : CommandWord)
  deriving DecidableEq, Repr

/-- The help pages. -/
inductive HelpPage where
  | brief
  | full
  | command (command : CommandWord)
  | help
  deriving DecidableEq, Repr

/-- What is wrong with a command line. -/
inductive Misuse where
  /-- A parameter without a value. -/
  | missingValue
  /-- A value that the parameter cannot take. -/
  | invalidValue
  /-- An option or a word that has no place here. -/
  | unknownArgument
  /-- An option given twice in one scope. -/
  | repeated
  /-- A value for a switch. -/
  | needlessValue
  | unknownCommand
  deriving DecidableEq, Repr

/-- The wording of what is wrong. -/
def Misuse.message : Misuse → String
  | missingValue => "a value is required"
  | invalidValue => "invalid value"
  | unknownArgument => "unexpected argument found"
  | repeated => "an argument cannot be used multiple times"
  | needlessValue => "unexpected value for a flag found"
  | unknownCommand => "unrecognized subcommand"

/-- Why nothing is done. -/
inductive Halt where
  | help (page : HelpPage)
  | version
  | misuse (misuse : Misuse)
  /-- The environment cannot hold the value that the variable with this name is given. -/
  | unsettable (key : String)
  deriving DecidableEq, Repr

/-- How a recording is to be made. -/
structure RecordingOptions where
  durationMs : Nat := 0
  periodMs : Option Nat := none
  maxRecords : Option Nat := none
  name : Option String := none
  deriving DecidableEq, Repr

/-- What is to be done. -/
inductive Command where
  | sample (json : Bool)
  | record (json : Bool) (options : RecordingOptions)
  | verify (options : RecordingOptions)
  deriving DecidableEq, Repr

/-- What a command line asks for. -/
structure Request where
  verbose : Bool
  simulation : Option Simulation
  command : Option Command
  deriving DecidableEq, Repr

/-- The word for the command. -/
def CommandWord.word : CommandWord → String
  | sample => "sample"
  | record => "record"
  | verify => "verify"

/-- All commands. -/
def CommandWord.all : List CommandWord := [.sample, .record, .verify]

/-- The command that a word names. -/
def CommandWord.ofWord? (word : String) : Option CommandWord := all.find? (·.word == word)

/-- The word that asks for help pages in place of a command. -/
def helpWord : String := "help"

/-- The long name of the switch. -/
def Switch.word : Switch → String
  | verbose => "verbose"
  | json => "json"
  | help => "help"
  | version => "version"

/-- The short name of the switch. -/
def Switch.letter? : Switch → Option Char
  | verbose => some 'v'
  | json => none
  | help => some 'h'
  | version => some 'V'

/-- The long name of the parameter. -/
def Parameter.word : Parameter → String
  | simulate => "simulate"
  | durationMs => "duration-ms"
  | periodMs => "period-ms"
  | maxRecords => "max-records"
  | name => "name"

/-- The variable that stands in for the parameter. -/
def Parameter.variableName : Parameter → String
  | simulate => "CPUREC_SIMULATE"
  | durationMs => "CPUREC_DURATION_MS"
  | periodMs => "CPUREC_PERIOD_MS"
  | maxRecords => "CPUREC_MAX_RECORDS"
  | name => "CPUREC_NAME"

/-- The switches that the scope knows. -/
def Scope.switches : Scope → List Switch
  | outer => [.verbose, .help, .version]
  | inner .verify => [.verbose, .help]
  | inner _ => [.json, .verbose, .help]

/-- The parameters that the scope knows. -/
def Scope.parameters : Scope → List Parameter
  | outer | inner .sample => [.simulate]
  | inner _ => [.durationMs, .periodMs, .maxRecords, .name, .simulate]

/-- The help page of the scope; only the outer one has a longer page for the long option. -/
def Scope.page (long : Bool) : Scope → HelpPage
  | outer => if long then .full else .brief
  | inner command => .command command

/-- What a scope has been given. -/
structure Given where
  verbose : Bool := false
  json : Bool := false
  simulate : Option Simulation := none
  durationMs : Option Nat := none
  periodMs : Option Nat := none
  maxRecords : Option Nat := none
  name : Option String := none
  deriving DecidableEq, Repr

namespace Given

/-- Whether the parameter has a value. -/
def holds (g : Given) : Parameter → Bool
  | .simulate => g.simulate.isSome
  | .durationMs => g.durationMs.isSome
  | .periodMs => g.periodMs.isSome
  | .maxRecords => g.maxRecords.isSome
  | .name => g.name.isSome

/-- Give the parameter the value that a text stands for, if it does. -/
def put? (g : Given) (p : Parameter) (text : String) : Option Given :=
  match p with
  | .simulate => (Simulation.parse text).toOption.map fun v => { g with simulate := some v }
  | .durationMs => (Text.unsigned? Text.bound64 text).map fun v => { g with durationMs := some v }
  | .periodMs => (Text.unsigned? Text.bound64 text).map fun v => { g with periodMs := some v }
  | .maxRecords => (Text.unsigned? Text.bound64 text).map fun v => { g with maxRecords := some v }
  | .name => some { g with name := some text }

/-- Give the parameter a value, once. -/
def accept (g : Given) (p : Parameter) (text : String) : Except Halt Given :=
  if g.holds p then .error (.misuse .repeated)
  else match g.put? p text with
    | some g => .ok g
    | none => .error (.misuse .invalidValue)

/-- Turn a switch on, once. Help and version end the reading. -/
def turnOn (g : Given) (page : HelpPage) : Switch → Except Halt Given
  | .help => .error (.help page)
  | .version => .error .version
  | .verbose =>
    if g.verbose then .error (.misuse .repeated) else .ok { g with verbose := true }
  | .json => if g.json then .error (.misuse .repeated) else .ok { g with json := true }

/-- Take the parameters that are not given from the environment. -/
def complete (g : Given) (scope : Scope) (lookup : String → Option String) :
    Except Halt Given :=
  scope.parameters.foldlM (fun g p =>
    match lookup p.variableName with
    | some text => if g.holds p then .ok g else g.accept p text
    | none => .ok g) g

/-- How a recording is to be made by what was given. -/
def options (g : Given) : RecordingOptions :=
  { durationMs := g.durationMs.getD 0
    periodMs := g.periodMs
    maxRecords := g.maxRecords
    name := g.name }

/-- The command with what was given to it. -/
def command (g : Given) : CommandWord → Command
  | .sample => .sample g.json
  | .record => .record g.json g.options
  | .verify => .verify g.options

end Given

/-- The parameter that is being given. -/
inductive Waiting where
  | nothing
  /-- The value is still to come. -/
  | value (p : Parameter)
  /-- The value has come and is still to be checked. -/
  | check (p : Parameter) (text : String)
  deriving DecidableEq, Repr

/-- A scope while its words are read. -/
structure Scan where
  given : Given := {}
  waiting : Waiting := .nothing
  deriving DecidableEq, Repr

/-- What a word looks like. -/
inductive Shape where
  /-- Two hyphens alone: no options follow. -/
  | divider
  | long (body : List Char)
  | letters (letters : List Char)
  | plain
  deriving DecidableEq, Repr

/-- What the word looks like; one hyphen alone is a plain word. -/
def Shape.of (word : String) : Shape :=
  match word.toList with
  | ['-', '-'] => .divider
  | '-' :: '-' :: body => .long body
  | '-' :: c :: cs => .letters (c :: cs)
  | _ => .plain

namespace Scan

/-- Check the value that waits, and take it. -/
def settle (s : Scan) : Except Halt Given :=
  match s.waiting with
  | .nothing => .ok s.given
  | .value _ => .error (.misuse .missingValue)
  | .check p text => s.given.accept p text

/-- Meet a switch. -/
def switch (s : Scan) (scope : Scope) (long : Bool) (switch : Switch) : Except Halt Scan := do
  let given ← s.settle
  let given ← given.turnOn (scope.page long) switch
  return { given }

/-- Meet a parameter, with its value if that is in the same word. -/
def parameter (s : Scan) (p : Parameter) (value : Option String) : Except Halt Scan := do
  let given ← s.settle
  match value with
  | some text => return { given := ← given.accept p text }
  | none => return { given, waiting := .value p }

/-- Meet a long option. -/
def long (s : Scan) (scope : Scope) (body : List Char) : Except Halt Scan :=
  let (name, value) := match Text.splitAtFirst? '=' body with
    | some (name, value) => (String.ofList name, some (String.ofList value))
    | none => (String.ofList body, none)
  match scope.parameters.find? (·.word == name), scope.switches.find? (·.word == name), value with
  | some p, _, value => s.parameter p value
  | none, some switch, none => s.switch scope true switch
  | none, some _, some _ => .error (.misuse .needlessValue)
  | none, none, _ => .error (.misuse .unknownArgument)

/-- Meet letters, each of which is a switch. -/
def letters (s : Scan) (scope : Scope) : List Char → Except Halt Scan
  | [] => .ok s
  | c :: cs =>
    match scope.switches.find? (·.letter? == some c) with
    | some switch => do letters (← s.switch scope false switch) scope cs
    | none => .error (.misuse .unknownArgument)

end Scan

/-- The help page that the words after the help word ask for. -/
def helpPage : List String → Halt
  | [] => .help .full
  | [word] =>
    if word == helpWord then .help .help
    else match CommandWord.ofWord? word with
      | some command => .help (.command command)
      | none => .misuse .unknownCommand
  | _ => .misuse .unknownCommand

/-- What is wrong with a word after the divider. -/
def afterDivider (scope : Scope) (word : String) : Misuse :=
  match scope with
  | .inner _ => .unknownArgument
  | .outer =>
    if word == helpWord || (CommandWord.ofWord? word).isSome then .unknownArgument
    else .unknownCommand

/-- Read the words of a scope; the outer one ends at a command, and the answer holds the words that
follow it. -/
def scan (scope : Scope) (s : Scan) :
    List String → Except Halt (Scan × Option (CommandWord × List String))
  | [] => .ok (s, none)
  | word :: words =>
    match Shape.of word, s.waiting, scope with
    | .divider, _, _ =>
      match words with
      | [] => .ok (s, none)
      | word :: _ => .error (.misuse (afterDivider scope word))
    | .long body, _, _ => do scan scope (← s.long scope body) words
    | .letters letters, _, _ => do scan scope (← s.letters scope letters) words
    | .plain, .value p, _ => scan scope { s with waiting := .check p word } words
    | .plain, _, .inner _ => .error (.misuse .unknownArgument)
    | .plain, _, .outer =>
      if word == helpWord then .error (helpPage words)
      else match CommandWord.ofWord? word with
        | some command => .ok (s, some (command, words))
        | none => .error (.misuse .unknownCommand)

/-- Read a command line. The inner scope is checked and completed before the outer one; what the
words say comes before what the environment says, and then the inner scope before the outer. -/
def parse (lookup : String → Option String) (words : List String) : Except Halt Request := do
  let (outer, found) ← scan .outer {} words
  match found with
  | none =>
    let given ← (← outer.settle).complete .outer lookup
    return { verbose := given.verbose, simulation := given.simulate, command := none }
  | some (word, words) =>
    let (inner, _) ← scan (.inner word) {} words
    let own ← inner.settle
    let completed ← own.complete (.inner word) lookup
    let around ← outer.settle
    let _ ← around.complete .outer lookup
    return {
      verbose := own.verbose || around.verbose
      simulation := own.simulate <|> around.simulate <|> completed.simulate
      command := some (completed.command word) }

end CpuCensus.CommandLine
