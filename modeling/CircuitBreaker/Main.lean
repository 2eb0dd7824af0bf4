import CircuitBreaker.Program
import CircuitBreaker.SystemFault
import CircuitBreaker.Usage
import Std.Time.DateTime.Timestamp

namespace CircuitBreaker.Terminal

def now : IO Clock := do
  let mono ← IO.monoNanosNow
  let wall ← Std.Time.Timestamp.now
  return ⟨⟨mono⟩, ⟨wall.toNanosecondsSinceUnixEpoch.val⟩⟩

def environment (names : List String) : IO Environment := do
  let values ← names.mapM fun name => return (← IO.getEnv name).map fun s => (name, s.toUTF8)
  return values.filterMap id

-- The number of a system error, which is sometimes handed over with its sign turned.
def errorNumber (code : UInt32) : Nat := min code.toNat (-code).toNat

def fileError : IO.Error → String
  | .noFileOrDirectory _ code _ | .interrupted _ code _ => SystemFault.message (errorNumber code)
  | .permissionDenied _ code _ | .inappropriateType _ code _ | .invalidArgument _ code _
  | .resourceExhausted _ code _ | .noSuchThing _ code _ => SystemFault.message (errorNumber code)
  | other => toString other

def contents (path : String) : IO (Except String ByteArray) := do
  try return .ok (← IO.FS.readBinFile path)
  catch e => return .error (fileError e)

def putLog (filter : Log.Filter) (events : List Event) : IO Unit := do
  let time := (← now).wall
  for e in events.filter filter.allows do
    IO.eprintln (Log.entry time e)

def sleep (d : Duration) : IO Unit := do
  -- The system sleeps for a 32-bit number of milliseconds at most.
  let longest := UInt32.size - 1
  let ms := d.millis.toNat
  for _ in [0 : ms / longest] do
    IO.sleep (UInt32.ofNat longest)
  IO.sleep (UInt32.ofNat (ms % longest))

def surroundings (filter : Log.Filter) : Surroundings IO where
  pause := sleep
  clock := now
  putLog := putLog filter

def printAll (lines : List String) : IO Unit := do
  for line in lines do
    IO.println line

def finish : Ending → IO UInt32
  | .printed lines => do
    printAll lines
    return 0
  | .failed e => do
    IO.eprintln ("Error: " ++ e.message)
    return 1
  | .crashed text => do
    IO.eprintln text
    return UInt32.ofNat Program.crashStatus

def serve (r : Request) : IO UInt32 := do
  let env ← environment [Settings.nameVariable, Settings.timeoutVariable, Log.Filter.variableName]
  match Log.Filter.choose r.verbosity env with
  | .error _ => return UInt32.ofNat Program.crashStatus
  | .ok filter =>
    putLog filter (Program.loadingEvents r.settingsFile)
    let found ← match r.settingsFile with
      | none => pure (.error "")
      | some path => contents path
    match Program.plan (fun _ => found) env r with
    | .error e => finish (.failed e)
    | .ok job => finish (← Program.performLive (surroundings filter) job)

end CircuitBreaker.Terminal

open CircuitBreaker in
def main (words : List String) : IO UInt32 := do
  match CommandLine.parse words with
  | .error .version =>
    IO.println Program.version
    return 0
  | .error .help =>
    Terminal.printAll CommandLine.usage
    return 0
  | .error e =>
    IO.eprintln ("error: " ++ e.message)
    return 2
  | .ok r => Terminal.serve r
