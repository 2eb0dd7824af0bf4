import CircuitBreaker.Json.Token

namespace CircuitBreaker.Json

namespace Lexeme

def fault (t : Lexeme) (cause : Cause) : Fault := ⟨cause, t.start, 1⟩

def found (t : Lexeme) : Except Fault Found :=
  match t.token with
  | .null => .ok .null
  | .flag b => .ok (.flag b)
  | .number n => .ok (.number n)
  | .text s => .ok (.text s)
  | .openBracket => .ok .list
  | .openBrace => .ok .object
  | .badText f | .bad f => .error f
  | .closeBrace | .closeBracket | .colon | .comma | .stray => .error (t.fault .expectedValue)

def key (t : Lexeme) : Except Fault String :=
  match t.token with
  | .text s => .ok s
  | .badText f => .error f
  | _ => .error (t.fault .expectedKey)

end Lexeme

def endFault (cause : Cause) : Fault := ⟨cause, [], 0⟩

namespace Document

inductive Container
  | object
  | list
deriving DecidableEq

inductive Place
  | value
  | firstItem
  | item
  | firstKey
  | key
  | colon
  | next
deriving DecidableEq

def depthLimit : Nat := 128

def atEnd (stack : List Container) : Place → Option Cause
  | .value | .item | .key => some .endOfValue
  | .firstItem => some .endOfList
  | .firstKey | .colon => some .endOfObject
  | .next =>
    match stack with
    | [] => none
    | .object :: _ => some .endOfObject
    | .list :: _ => some .endOfList

def enter (stack : List Container) (t : Lexeme) : Except Fault (List Container × Place) :=
  match t.found with
  | .error f => .error f
  | .ok .list =>
    if depthLimit ≤ stack.length + 1 then .error (t.fault .tooDeep) else .ok (.list :: stack, .firstItem)
  | .ok .object =>
    if depthLimit ≤ stack.length + 1 then .error (t.fault .tooDeep) else .ok (.object :: stack, .firstKey)
  | .ok _ => .ok (stack, .next)

def advance (stack : List Container) (place : Place) (t : Lexeme) :
    Except Fault (List Container × Place) :=
  match place with
  | .value => enter stack t
  | .firstItem => if t.token = .closeBracket then .ok (stack.tail, .next) else enter stack t
  | .item => if t.token = .closeBracket then .error (t.fault .trailingComma) else enter stack t
  | .firstKey =>
    if t.token = .closeBrace then .ok (stack.tail, .next) else t.key.map fun _ => (stack, .colon)
  | .key =>
    if t.token = .closeBrace then .error (t.fault .trailingComma)
    else t.key.map fun _ => (stack, .colon)
  | .colon => if t.token = .colon then .ok (stack, .value) else .error (t.fault .expectedColon)
  | .next =>
    match stack with
    | [] => .error (t.fault .trailingText)
    | .object :: outer =>
      if t.token = .comma then .ok (stack, .key)
      else if t.token = .closeBrace then .ok (outer, .next)
      else .error (t.fault .expectedObjectEnd)
    | .list :: outer =>
      if t.token = .comma then .ok (stack, .item)
      else if t.token = .closeBracket then .ok (outer, .next)
      else .error (t.fault .expectedListEnd)

def checkFrom (stack : List Container) (place : Place) : List Lexeme → Option Fault
  | [] => (atEnd stack place).map endFault
  | t :: ts =>
    match advance stack place t with
    | .error f => some f
    | .ok (stack, place) => checkFrom stack place ts

def check (text : List Char) : Option Fault := checkFrom [] .value (lex text)

end Document

end CircuitBreaker.Json
