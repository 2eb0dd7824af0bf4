import CircuitBreaker.Environment
import CircuitBreaker.Settings.Document
import CircuitBreaker.Text.WholeNumber

namespace CircuitBreaker.Settings

def nameVariable : String := "FUSEBOX_BREAKER_NAME"

def timeoutVariable : String := "FUSEBOX_RESET_TIMEOUT_MS"

def timeoutError (raw : String) : Error :=
  .environment timeoutVariable ("expected a whole number of milliseconds, got '" ++ raw ++ "'")

def overlayName (s : Settings) : Option String → Settings
  | none => s
  | some name => s.withName name

def overlayTimeout (s : Settings) : Option String → Except Error Settings
  | none => .ok s
  | some raw =>
    match Text.wholeNumber? (Text.trim raw.toList) with
    | none => .error (timeoutError raw)
    | some ms => .ok (s.withResetTimeout (.ofMillis ms))

def overlay (s : Settings) (env : Environment) : Except Error Settings :=
  ((s.overlayName (env.text nameVariable)).overlayTimeout (env.text timeoutVariable)).bind validate

abbrev Reader := String → Except String ByteArray

def readText (files : Reader) (path : String) : Except Error String :=
  match files path with
  | .error source => .error (.fileSystem path "read" source)
  | .ok bytes =>
    match String.fromUTF8? bytes with
    | none => .error (.fileSystem path "read" "stream did not contain valid UTF-8")
    | some text => .ok text

def ofFile (files : Reader) (path : String) : Except Error Settings :=
  (readText files path).bind ofDocument

def load (files : Reader) (env : Environment) (path : Option String) : Except Error Settings :=
  match path with
  | none => overlay {} env
  | some path => (ofFile files path).bind (overlay · env)

end CircuitBreaker.Settings
