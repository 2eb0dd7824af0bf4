import CircuitBreaker.Text.WholeNumber

namespace CircuitBreaker

inductive UsageError
  | help
  | version
  | nothingGiven
  | missingCommand
  | unknownCommand
  | missingScript
  | unknownArgument
  | missingValue
  | badValue
  | givenTwice
  | unwantedValue
deriving DecidableEq

structure SimulationOptions where
  script : String
  resetTimeout : Option Nat
  interval : Nat
  json : Bool
deriving DecidableEq

inductive Command
  | simulate (options : SimulationOptions)
  | showSettings
deriving DecidableEq

structure Request where
  settingsFile : Option String
  verbosity : Nat
  command : Command
deriving DecidableEq

namespace CommandLine

inductive Scope
  | program
  | simulate
  | showSettings
deriving DecidableEq

inductive Switch
  | verbose
  | help
  | version
  | json
deriving DecidableEq

inductive ValueOption
  | settingsFile
  | resetTimeout
  | interval
deriving DecidableEq

inductive Flag
  | switch (s : Switch)
  | valued (o : ValueOption)
deriving DecidableEq

def named (scope : Scope) (name : String) : Option Flag :=
  match name with
  | "config" => some (.valued .settingsFile)
  | "verbose" => some (.switch .verbose)
  | "help" => some (.switch .help)
  | "version" => if scope = .program then some (.switch .version) else none
  | "reset-timeout-ms" => if scope = .simulate then some (.valued .resetTimeout) else none
  | "step-ms" => if scope = .simulate then some (.valued .interval) else none
  | "json" => if scope = .simulate then some (.switch .json) else none
  | _ => none

def lettered (scope : Scope) : Char → Option Switch
  | 'v' => some .verbose
  | 'h' => some .help
  | 'V' => if scope = .program then some .version else none
  | _ => none

inductive CommandName
  | simulate
  | showSettings
  | help
deriving DecidableEq

def commandName? : String → Option CommandName
  | "simulate" => some .simulate
  | "sim" => some .simulate
  | "config" => some .showSettings
  | "help" => some .help
  | _ => none

inductive Word
  | escape
  | long (name : String) (value : Option String)
  | short (letters : List Char)
  | plain
deriving DecidableEq

def splitEquals : List Char → List Char × Option (List Char)
  | [] => ([], none)
  | c :: cs =>
    if c = '=' then ([], some cs)
    else
      let (name, value) := splitEquals cs
      (c :: name, value)

def Word.ofString (s : String) : Word :=
  match s.toList with
  | ['-', '-'] => .escape
  | '-' :: '-' :: cs =>
    let (name, value) := splitEquals cs
    .long (String.ofList name) (value.map String.ofList)
  | '-' :: c :: cs => .short (c :: cs)
  | _ => .plain

/-- What a scope has been given so far. The last option without a value attached still waits for one, and
one that has got it waits to be checked. -/
structure Given where
  settingsFile : Option String := none
  verbosity : Nat := 0
  script : Option String := none
  resetTimeout : Option Nat := none
  interval : Option Nat := none
  json : Bool := false
  waiting : Option (ValueOption × Option String) := none
deriving DecidableEq

namespace Given

def number? (value : String) : Except UsageError Nat :=
  match Text.wholeNumber? value.toList with
  | none => .error .badValue
  | some n => .ok n

def has (g : Given) : ValueOption → Bool
  | .settingsFile => g.settingsFile.isSome
  | .resetTimeout => g.resetTimeout.isSome
  | .interval => g.interval.isSome

def set (g : Given) (o : ValueOption) (value : String) : Except UsageError Given :=
  if g.has o then .error .givenTwice
  else
    match o with
    | .settingsFile =>
      if value = "" then .error .missingValue else .ok { g with settingsFile := some value }
    | .resetTimeout => (number? value).map fun n => { g with resetTimeout := some n }
    | .interval => (number? value).map fun n => { g with interval := some n }

def settle (g : Given) : Except UsageError Given :=
  match g.waiting with
  | none => .ok g
  | some (_, none) => .error .missingValue
  | some (o, some value) => { g with waiting := none }.set o value

def verbosityLimit : Nat := 255

def flip (g : Given) (s : Switch) : Except UsageError Given :=
  match g.settle with
  | .error e => .error e
  | .ok g =>
    match s with
    | .verbose => .ok { g with verbosity := min verbosityLimit (g.verbosity + 1) }
    | .help => .error .help
    | .version => .error .version
    | .json => if g.json then .error .givenTwice else .ok { g with json := true }

def flipAll (scope : Scope) (g : Given) : List Char → Except UsageError Given
  | [] => .ok g
  | c :: cs =>
    match lettered scope c with
    | none => .error .unknownArgument
    | some s => (g.flip s).bind fun g => flipAll scope g cs

def long (scope : Scope) (g : Given) (name : String) (value : Option String) : Except UsageError Given :=
  match named scope name, value with
  | none, _ => .error .unknownArgument
  | some (.switch s), none => g.flip s
  | some (.switch _), some _ => .error .unwantedValue
  | some (.valued o), none => g.settle.map fun g => { g with waiting := some (o, none) }
  | some (.valued o), some value => g.settle.bind fun g => g.set o value

def awaiting? (g : Given) : Option ValueOption :=
  match g.waiting with
  | some (o, none) => some o
  | _ => none

def takePlain (scope : Scope) (trailing : Bool) (g : Given) (word : String) : Except UsageError Given :=
  match scope with
  | .program =>
    .error (if trailing && (commandName? word).isSome then .unknownArgument else .unknownCommand)
  | .showSettings => .error .unknownArgument
  | .simulate =>
    if g.script.isSome then .error .unknownArgument
    else g.settle.map fun g => { g with script := some word }

end Given

def scan (scope : Scope) (trailing : Bool) (g : Given) :
    List String → Except UsageError (Given × Option (CommandName × List String))
  | [] => .ok (g, none)
  | word :: words =>
    if trailing then (g.takePlain scope trailing word).bind fun g => scan scope trailing g words
    else
      let command := if scope = .program ∧ g.awaiting? = none then commandName? word else none
      match command, Word.ofString word, g.awaiting? with
      | some command, _, _ => .ok (g, some (command, words))
      | none, .escape, _ => scan scope true g words
      | none, .long name value, _ => (g.long scope name value).bind fun g => scan scope trailing g words
      | none, .short letters, _ => (g.flipAll scope letters).bind fun g => scan scope trailing g words
      | none, .plain, some o => scan scope trailing { g with waiting := some (o, some word) } words
      | none, .plain, none =>
        (g.takePlain scope trailing word).bind fun g => scan scope trailing g words

def scanAll (scope : Scope) (words : List String) : Except UsageError Given :=
  (scan scope false {} words).bind fun result => result.1.settle

def helpFor : List String → UsageError
  | [] => .help
  | [word] => if (commandName? word).isSome then .help else .unknownCommand
  | _ => .unknownCommand

def request (outer inner : Given) (command : Command) : Request :=
  { settingsFile := inner.settingsFile.or outer.settingsFile
    verbosity := if inner.verbosity = 0 then outer.verbosity else inner.verbosity
    command }

def simulateCommand (g : Given) : Except UsageError Command :=
  match g.script with
  | none => .error .missingScript
  | some script =>
    .ok (.simulate
      { script, resetTimeout := g.resetTimeout, interval := g.interval.getD 100, json := g.json })

def noCommand (g : Given) : UsageError :=
  if g.settingsFile.isNone ∧ g.verbosity = 0 then .nothingGiven else .missingCommand

def parse (words : List String) : Except UsageError Request := do
  let (outer, rest) ← scan .program false {} words
  match rest with
  | none =>
    let outer ← outer.settle
    .error (noCommand outer)
  | some (.help, words) => .error (helpFor words)
  | some (.simulate, words) =>
    let inner ← scanAll .simulate words
    let command ← simulateCommand inner
    let outer ← outer.settle
    return request outer inner command
  | some (.showSettings, words) =>
    let inner ← scanAll .showSettings words
    let outer ← outer.settle
    return request outer inner .showSettings

end CommandLine

end CircuitBreaker
