import CircuitBreaker.CommandLine
import CircuitBreaker.Log.Filter
import CircuitBreaker.Log.Line
import CircuitBreaker.Settings.Layers
import CircuitBreaker.Simulation.Live
import CircuitBreaker.Simulation.Table

namespace CircuitBreaker

structure Drill where
  settings : Settings
  script : Script
  interval : Duration
  json : Bool

inductive Job
  | simulate (drill : Drill)
  | printSettings (s : Settings)

inductive Ending
  | printed (lines : List String)
  | failed (error : Error)
  | crashed (text : String)

structure Execution where
  ending : Ending
  events : List Event

namespace Program

def overrideTimeout (s : Settings) : Option Nat → Settings
  | none => s
  | some ms => s.withResetTimeout (.ofMillis ms)

def drill (s : Settings) (options : SimulationOptions) : Except Error Drill :=
  (Script.parse options.script).map fun script =>
    { settings := overrideTimeout s options.resetTimeout
      script
      interval := .ofMillis options.interval
      json := options.json }

def job (s : Settings) : Command → Except Error Job
  | .simulate options => (drill s options).map .simulate
  | .showSettings => .ok (.printSettings s)

def plan (files : Settings.Reader) (env : Environment) (r : Request) : Except Error Job :=
  (Settings.load files env r.settingsFile).bind fun s => job s r.command

def reportLines (json : Bool) (reports : List StepReport) : List String :=
  if json then reports.map fun r => r.record.compact else Simulation.Table.lines reports

def settingsLines (s : Settings) : List String := (s.record.prettyChars.splitOn '\n').map String.ofList

def endingOf (json : Bool) : Except String (List StepReport) → Ending
  | .ok reports => .printed (reportLines json reports)
  | .error text => .crashed text

def perform (clock : Clock) : Job → Execution
  | .simulate d =>
    let (reports, last) := (Simulation.ofSettings d.settings clock).run d.interval d.script
    ⟨endingOf d.json reports, last.breaker.circuit.log⟩
  | .printSettings s => ⟨.printed (settingsLines s), []⟩

def performLive {m : Type → Type} [Monad m] (w : Surroundings m) : Job → m Ending
  | .simulate d => do
    let s := Simulation.ofSettings d.settings (← w.clock)
    return endingOf d.json (← s.drive w d.interval 1 d.script)
  | .printSettings s => return .printed (settingsLines s)

def loadingEvents (path : Option String) : List Event := (path.map Event.loading).toList

def execute (files : Settings.Reader) (env : Environment) (clock : Clock) (r : Request) : Execution :=
  let loading := loadingEvents r.settingsFile
  match plan files env r with
  | .error e => ⟨.failed e, loading⟩
  | .ok job =>
    let x := perform clock job
    { x with events := loading ++ x.events }

def version : String := "fusebox 0.1.0"

structure Exit where
  status : Nat
  output : List String := []
  log : List String := []

def crashStatus : Nat := 101

def exitOf (time : WallTime) (filter : Log.Filter) (x : Execution) : Exit :=
  let log := Log.lines time (x.events.filter filter.allows)
  match x.ending with
  | .printed lines => { status := 0, output := lines, log }
  | .failed _ => { status := 1, log }
  | .crashed _ => { status := crashStatus, log }

def process (files : Settings.Reader) (env : Environment) (clock : Clock) (words : List String) : Exit :=
  match CommandLine.parse words with
  | .error .version => { status := 0, output := [version] }
  | .error .help => { status := 0 }
  | .error _ => { status := 2 }
  | .ok r =>
    match Log.Filter.choose r.verbosity env with
    | .error _ => { status := crashStatus }
    | .ok filter => exitOf clock.wall filter (execute files env clock r)

end Program

end CircuitBreaker
