import CircuitBreaker.Json.Double
import CircuitBreaker.Text.Quoted

namespace CircuitBreaker.Json

inductive Number
  | natural (n : Nat)
  | negative (n : Nat)
  | decimal (negative : Bool) (d : Double)
deriving DecidableEq

inductive Found
  | null
  | flag (b : Bool)
  | number (n : Number)
  | text (s : String)
  | list
  | object
deriving DecidableEq

inductive Cause
  | endOfValue
  | endOfObject
  | endOfList
  | endOfText
  | expectedValue
  | expectedKey
  | expectedColon
  | expectedObjectEnd
  | expectedListEnd
  | expectedLiteral
  | trailingComma
  | trailingText
  | controlCharacter
  | badEscape
  | loneSurrogate
  | unpairedSurrogate
  | badNumber
  | numberTooLarge
  | tooDeep
  | wrongType (found : Found) (expected : String)
  | wrongNumber (n : Number) (expected : String)
  | unknownField (key : String) (known : List String)
  | duplicateField (key : String)
deriving DecidableEq

/-- Something wrong with a text: what it is, and where. The place is `past` bytes after the start of what
was left of the text, as far as the text goes. -/
structure Fault where
  cause : Cause
  rest : List Char
  past : Nat := 0
deriving DecidableEq

abbrev Reading (α : Type) := Except Fault (α × List Char)

namespace Number

def describe : Number → String
  | natural n => "integer `" ++ toString n ++ "`"
  | negative n => "integer `-" ++ toString n ++ "`"
  | decimal sign d => "floating point `" ++ (if sign then "-" else "") ++ d.text ++ "`"

end Number

namespace Found

def describe : Found → String
  | null => "null"
  | flag true => "boolean `true`"
  | flag false => "boolean `false`"
  | number n => n.describe
  | text s => "string " ++ Text.quoted s
  | list => "sequence"
  | object => "map"

end Found

namespace Cause

def message : Cause → String
  | endOfValue => "EOF while parsing a value"
  | endOfObject => "EOF while parsing an object"
  | endOfList => "EOF while parsing a list"
  | endOfText => "EOF while parsing a string"
  | expectedValue => "expected value"
  | expectedKey => "key must be a string"
  | expectedColon => "expected `:`"
  | expectedObjectEnd => "expected `,` or `\x7d`"
  | expectedListEnd => "expected `,` or `]`"
  | expectedLiteral => "expected ident"
  | trailingComma => "trailing comma"
  | trailingText => "trailing characters"
  | controlCharacter => "control character (\\u0000-\\u001F) found while parsing a string"
  | badEscape => "invalid escape"
  | loneSurrogate => "lone leading surrogate in hex escape"
  | unpairedSurrogate => "unexpected end of hex escape"
  | badNumber => "invalid number"
  | numberTooLarge => "number out of range"
  | tooDeep => "recursion limit exceeded"
  | wrongType found expected => "invalid type: " ++ found.describe ++ ", expected " ++ expected
  | wrongNumber n expected => "invalid value: " ++ n.describe ++ ", expected " ++ expected
  | unknownField key known =>
    "unknown field `" ++ key ++ "`, expected " ++
      " or ".intercalate (known.map fun name => "`" ++ name ++ "`")
  | duplicateField key => "duplicate field `" ++ key ++ "`"

end Cause

def byteSize (s : List Char) : Nat := s.foldl (fun size c => size + c.utf8Size) 0

def lineColumn (line column : Nat) : List Char → Nat → Nat × Nat
  | [], _ => (line, column)
  | c :: cs, bytes =>
    if bytes < c.utf8Size then (line, column + bytes)
    else if c = '\n' then lineColumn (line + 1) 0 cs (bytes - c.utf8Size)
    else lineColumn line (column + c.utf8Size) cs (bytes - c.utf8Size)

namespace Fault

def position (f : Fault) (text : List Char) : Nat × Nat :=
  let size := byteSize text
  lineColumn 1 0 text (min size (size - byteSize f.rest + f.past))

def message (f : Fault) (text : List Char) : String :=
  let (line, column) := f.position text
  f.cause.message ++ " at line " ++ toString line ++ " column " ++ toString column

end Fault

end CircuitBreaker.Json
