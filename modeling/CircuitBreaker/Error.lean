namespace CircuitBreaker

inductive Error
  | configuration (message : String)
  | environment (name message : String)
  | fileSystem (path operation source : String)
  | json (message source : String)
deriving DecidableEq

namespace Error

def message : Error → String
  | configuration message => "configuration error: " ++ message
  | environment name message => "environment variable '" ++ name ++ "' error: " ++ message
  | fileSystem path operation source =>
    "file system " ++ operation ++ " operation failed for '" ++ path ++ "': " ++ source
  | json message _ => "JSON error: " ++ message

def source : Error → Option String
  | configuration _ | environment .. => none
  | fileSystem _ _ source | json _ source => some source

end Error

end CircuitBreaker
