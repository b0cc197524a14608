import CpuCensus.CommandLine.EnvFile
import CpuCensus.CommandLine.Failure
import CpuCensus.CommandLine.Help
import CpuCensus.Host
import CpuCensus.Recorder

/-!
# The program

What the commands do. A run is a function of what the host and the user give; the time that a
recording takes is the time of its clock.
-/

namespace CpuCensus.CommandLine

/-- The settings that the options stand for; what is not given is standard. -/
def RecordingOptions.settings (o : RecordingOptions) : Settings :=
  { name := o.name <|> Settings.standard.name
    periodMs := o.periodMs <|> Settings.standard.periodMs
    maxRecords := o.maxRecords <|> Settings.standard.maxRecords }

/-- The settings that the options stand for, if they are valid. -/
def RecordingOptions.checkedSettings (o : RecordingOptions) : Except Failure Settings :=
  o.settings.checked.mapError Failure.settings

/-- What a sampler gets to do while a command waits: nothing at all, or its first turn and then a
wake-up at each of these times. -/
abbrev Turns := Option (List Nat)

/-- The turns of a sampler on a clock without gaps: it wakes at its deadlines until the command has
waited long enough and cancels it. A command that does not wait gives no turn. -/
def RecordingOptions.steadyTurns (o : RecordingOptions) (order : Resumption) : Turns :=
  if o.durationMs = 0 then none
  else some <| match o.settings.periodMs with
    | some periodMs =>
      let (task, _) := (SamplerTask.launched periodMs).begin 0
      task.wakeTimesUntil order (waitTime o.durationMs)
    | none => []

/-- Assumed of whoever schedules the two: a command that has waited long enough goes on before a
sampler that is due at the same instant. -/
def assumedResumption : Resumption := .waiterFirst

/-- Keep the recording running for so long, with these turns for its sampler. -/
def keepRunning (r : Recorder) (durationMs : Nat) (turns : Turns) : Recorder × List Notice :=
  let waiting := if durationMs = 0 then [] else [.waiting durationMs]
  match turns with
  | none => (r, waiting)
  | some times =>
    let (r, begun) := r.settle 0
    let (r, passed) := r.attend times
    (r, waiting ++ begun ++ passed)

/-- What comes of a recording whose start and stop were answered so. A first snapshot that fails
makes the recording fail only if nothing is captured later either. -/
def conclude (started : Except SessionFault Unit) (stopped : Except Refusal EventView) :
    Except Failure EventView :=
  match stopped, started with
  | .error refusal, _ => .error (.refused refusal)
  | .ok view, .error fault => if view.events.isEmpty then .error (.ofSession fault) else .ok view
  | .ok view, .ok () => .ok view

/-- Make a recording, with these turns for its sampler, and read its events. A first snapshot that
fails is told. -/
def collect (sensor : Sensor) (o : RecordingOptions) (turns : Turns) :
    Step Sensor (Except Failure EventView) :=
  match o.checkedSettings with
  | .error failure => { answer := .error failure, state := sensor }
  | .ok settings =>
    let started := (Recorder.new 0 settings sensor).start 0
    let finish (told : List Notice) : Step Sensor (Except Failure EventView) :=
      let (r, passed) := keepRunning started.state o.durationMs turns
      let stopped := r.stop (waitTime o.durationMs)
      { answer := conclude started.answer stopped.answer
        state := stopped.state.session.sensor
        notices := started.notices ++ told ++ passed ++ stopped.notices }
    match started.answer with
    | .ok () => finish []
    | .error (.probe fault) => finish [.initialFailed fault]
    | .error (.refused refusal) =>
      { answer := .error (.refused refusal)
        state := started.state.session.sensor
        notices := started.notices }

/-- A snapshot as it is printed. -/
def showSnapshot (json : Bool) (snapshot : Snapshot) : String :=
  (if json then snapshot.json else snapshot.text) ++ "\n"

/-- Events as they are printed. -/
def showEvents (json : Bool) (view : EventView) : String :=
  if json then view.json ++ "\n"
  else if view.events.isEmpty then "No events recorded.\n"
  else String.join (view.events.map fun e => "Event: " ++ e.snapshot.text ++ "\n")

/-- Make a recording and check its events; the answer is what is printed. -/
def verifyRecording (sensor : Sensor) (o : RecordingOptions) (turns : Turns) :
    Step Sensor (Except Failure String) :=
  let step := collect sensor o turns
  match step.answer with
  | .error failure => { step with answer := .error failure }
  | .ok view =>
    match view.verify with
    | .error fault => { step with answer := .error (.verification fault) }
    | .ok () =>
      let count := view.events.length
      { step with
        answer := .ok ("✓ " ++ Nat.repr count ++ " event(s) verified\n")
        notices := step.notices ++ [.verified count] }

/-- Carry out a command at the start of the run; the answer is what it prints. -/
def Command.perform (sensor : Sensor) : Command → Step Sensor (Except Failure String)
  | .sample json =>
    let (reading, sensor) := sensor.ask 0
    { answer := (reading.outcome.map (showSnapshot json)).mapError Failure.probe
      state := sensor
      notices := reading.notices }
  | .record json options =>
    let step := collect sensor options (options.steadyTurns assumedResumption)
    { step with answer := step.answer.map (showEvents json) }
  | .verify options => verifyRecording sensor options (options.steadyTurns assumedResumption)

/-- The probe of a request: the simulated topology, if there is one, in place of the host. -/
def Request.probe (r : Request) (host : Host) (clock : Clock) : Probe × List Notice :=
  match r.simulation with
  | some simulation => (Probe.ofSimulation clock simulation host.platform, [.simulating simulation])
  | none => (host.probe clock, [])

/-- How a run of the program ends. -/
inductive Outcome where
  | halted (halt : Halt)
  | done (output : String)
  | failed (failure : Failure)
  deriving DecidableEq, Repr

namespace Outcome

/-- What the run prints. -/
def output : Outcome → String
  | halted (.help page) => page.text
  | halted .version => versionText
  | halted (.misuse _) | halted (.unsettable _) | failed _ => ""
  | done output => output

/-- The line about a failure. -/
def complaint? : Outcome → Option String
  | failed failure => some ("Error: " ++ failure.message)
  | halted _ | done _ => none

/-- The exit code. -/
def exitCode : Outcome → Nat
  | halted (.misuse _) => 2
  | halted (.unsettable _) => 101
  | halted (.help _) | halted .version | done _ => 0
  | failed failure => failure.exitCode

end Outcome

/-- Carry out a request. Without a command the brief help page is shown. -/
def Request.perform (r : Request) (host : Host) (clock : Clock) : Outcome × List Notice :=
  let (probe, chosen) := r.probe host clock
  match r.command with
  | none => (.halted (.help .brief), chosen)
  | some command =>
    let step := command.perform { probe }
    let outcome := match step.answer with
      | .ok output => Outcome.done output
      | .error failure => .failed failure
    (outcome, chosen ++ step.notices)

/-- The environment, completed from the environment file if there is one. -/
def completed (env : Variables) (envFile : Option String) : Except Halt Variables :=
  match envFile with
  | some text => (EnvFile.load env text).mapError fun fault => .unsettable fault.key
  | none => .ok env

/-- Read the words, after the environment has been completed. -/
def interpret (env : Variables) (envFile : Option String) (words : List String) :
    Except Halt Request := do
  let env ← completed env envFile
  parse (fun name => env.value? name) words

/-- Run the program: read the words and carry out what they ask for. -/
def run (host : Host) (clock : Clock) (env : Variables) (envFile : Option String)
    (words : List String) : Outcome × List Notice :=
  match interpret env envFile words with
  | .error halt => (.halted halt, [])
  | .ok request => request.perform host clock

end CpuCensus.CommandLine
