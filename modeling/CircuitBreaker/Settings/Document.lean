import CircuitBreaker.Json.Document
import CircuitBreaker.Settings.Basic

namespace CircuitBreaker.Settings

open Json

inductive Field
  | name
  | timeout
deriving DecidableEq

namespace Field

def key : Field → String
  | name => "name"
  | timeout => "reset_timeout_ms"

def ofKey (key : String) : Option Field :=
  if key = Field.name.key then some .name
  else if key = Field.timeout.key then some .timeout
  else none

end Field

structure Given where
  name : Option String := none
  timeout : Option Nat := none
deriving DecidableEq

namespace Given

def has (g : Given) : Field → Bool
  | .name => g.name.isSome
  | .timeout => g.timeout.isSome

def settings (g : Given) : Settings :=
  let s : Settings := {}
  ⟨g.name.getD s.name, (g.timeout.map Duration.ofMillis).getD s.resetTimeout⟩

def valueEnd (t : Lexeme) : Found → List Char
  | .list | .object => t.start
  | _ => t.rest

def wrongType (t : Lexeme) (found : Found) (expected : String) : Fault :=
  ⟨.wrongType found expected, valueEnd t found, 0⟩

def fill (g : Given) (field : Field) (t : Lexeme) : Except Fault Given :=
  match t.found with
  | .error f => .error f
  | .ok found =>
    match field, found with
    | .name, .text s => .ok { g with name := some s }
    | .timeout, .number (.natural n) => .ok { g with timeout := some n }
    | .timeout, .number (.negative n) => .error ⟨.wrongNumber (.negative n) "u64", t.rest, 0⟩
    | .name, found => .error (wrongType t found "a string")
    | .timeout, found => .error (wrongType t found "u64")

def afterKey : List Lexeme → List Char
  | [] => []
  | t :: _ => if t.token = .closeBrace then t.rest else t.start

def slot (g : Given) (key : String) (after : List Lexeme) : Except Fault Field :=
  match Field.ofKey key with
  | none => .error ⟨.unknownField key [Field.name.key, Field.timeout.key], afterKey after, 0⟩
  | some field =>
    if g.has field then .error ⟨.duplicateField key, afterKey after, 0⟩ else .ok field

abbrev Read := Except Fault (Given × List Lexeme)

def members (g : Given) (ts : List Lexeme) : Read :=
  match ts with
  | [] => .error (endFault .endOfValue)
  | key :: ts =>
    match key.key with
    | .error f => .error f
    | .ok k =>
      match g.slot k ts with
      | .error f => .error f
      | .ok field =>
        match ts with
        | [] => .error (endFault .endOfObject)
        | colon :: ts =>
          if colon.token ≠ .colon then .error (colon.fault .expectedColon)
          else
            match ts with
            | [] => .error (endFault .endOfValue)
            | value :: ts =>
              match g.fill field value with
              | .error f => .error f
              | .ok g =>
                match ts with
                | [] => .error (endFault .endOfObject)
                | next :: ts =>
                  if next.token = .closeBrace then .ok (g, ts)
                  else if next.token ≠ .comma then .error (next.fault .expectedObjectEnd)
                  else
                    match ts with
                    | [] => .error (endFault .endOfValue)
                    | t :: ts' =>
                      if t.token = .closeBrace then .error (t.fault .trailingComma)
                      else members g (t :: ts')

def object : List Lexeme → Read
  | [] => .error (endFault .endOfObject)
  | t :: ts => if t.token = .closeBrace then .ok ({}, ts) else members {} (t :: ts)

def listEnd (g : Given) : List Lexeme → Read
  | [] => .error (endFault .endOfList)
  | t :: ts =>
    if t.token = .closeBracket then .ok (g, ts)
    else if t.token ≠ .comma then .error (t.fault .trailingText)
    else
      match ts with
      | [] => .error (endFault .trailingText)
      | t :: _ =>
        .error (t.fault (if t.token = .closeBracket then .trailingComma else .trailingText))

def secondItem (g : Given) : List Lexeme → Read
  | [] => .error (endFault .endOfList)
  | t :: ts =>
    if t.token = .closeBracket then .ok (g, ts)
    else if t.token ≠ .comma then .error (t.fault .expectedListEnd)
    else
      match ts with
      | [] => .error (endFault .endOfValue)
      | value :: ts =>
        if value.token = .closeBracket then .error (value.fault .trailingComma)
        else
          match g.fill .timeout value with
          | .error f => .error f
          | .ok g => listEnd g ts

def list : List Lexeme → Read
  | [] => .error (endFault .endOfList)
  | t :: ts =>
    if t.token = .closeBracket then .ok ({}, ts)
    else
      match fill {} .name t with
      | .error f => .error f
      | .ok g => secondItem g ts

def value : List Lexeme → Read
  | [] => .error (endFault .endOfValue)
  | t :: ts =>
    match t.found with
    | .error f => .error f
    | .ok .object => object ts
    | .ok .list => list ts
    | .ok found => .error (wrongType t found "struct CircuitBreakerConfig")

def ofText (text : List Char) : Except Fault Given :=
  match value (lex text) with
  | .error f => .error f
  | .ok (g, []) => .ok g
  | .ok (_, t :: _) => .error (t.fault .trailingText)

end Given

def ofDocument (source : String) : Except Error Settings :=
  match Given.ofText source.toList with
  | .error f =>
    let text := f.message source.toList
    .error (.json ("invalid breaker configuration: " ++ text) text)
  | .ok g => g.settings.validate

end CircuitBreaker.Settings
