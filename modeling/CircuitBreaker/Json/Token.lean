import CircuitBreaker.Json.Number
import CircuitBreaker.Json.Text

namespace CircuitBreaker.Json

inductive Token
  | openBrace
  | closeBrace
  | openBracket
  | closeBracket
  | colon
  | comma
  | null
  | flag (b : Bool)
  | number (n : Number)
  | text (s : String)
  | badText (f : Fault)
  | bad (f : Fault)
  | stray
deriving DecidableEq

def Token.isBroken : Token → Bool
  | .badText _ | .bad _ | .stray => true
  | _ => false

structure Lexeme where
  token : Token
  start : List Char
  rest : List Char
deriving DecidableEq

def isSpace (c : Char) : Bool := c = ' ' || c = '\t' || c = '\n' || c = '\r'

namespace Token

def name (token : Token) : List Char → List Char → Token × List Char
  | [], rest => (token, rest)
  | _ :: _, [] => (.bad ⟨.endOfValue, [], 0⟩, [])
  | e :: es, c :: cs => if c = e then name token es cs else (.bad ⟨.expectedLiteral, c :: cs, 1⟩, cs)

def ofNumber : Reading Number → Token × List Char
  | .ok (n, rest) => (.number n, rest)
  | .error f => (.bad f, [])

def ofText : Reading (List Char) → Token × List Char
  | .ok (body, rest) => (.text (String.ofList body), rest)
  | .error f => (.badText f, [])

def scan (c : Char) (cs : List Char) : Token × List Char :=
  match c with
  | '{' => (.openBrace, cs)
  | '}' => (.closeBrace, cs)
  | '[' => (.openBracket, cs)
  | ']' => (.closeBracket, cs)
  | ':' => (.colon, cs)
  | ',' => (.comma, cs)
  | 'n' => name .null ['u', 'l', 'l'] cs
  | 't' => name (.flag true) ['r', 'u', 'e'] cs
  | 'f' => name (.flag false) ['a', 'l', 's', 'e'] cs
  | '"' => ofText (textBody cs)
  | '-' => ofNumber (Number.read true cs)
  | c => if c.isDigit then ofNumber (Number.read false (c :: cs)) else (.stray, cs)

end Token

def tokens : Nat → List Char → List Lexeme
  | 0, _ => []
  | fuel + 1, text =>
    match text.dropWhile isSpace with
    | [] => []
    | c :: cs =>
      let (token, rest) := Token.scan c cs
      ⟨token, c :: cs, rest⟩ :: if token.isBroken then [] else tokens fuel rest

-- Every token takes a character, so the length of the text is fuel enough.
def lex (text : List Char) : List Lexeme := tokens text.length text

end CircuitBreaker.Json
