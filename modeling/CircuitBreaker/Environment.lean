namespace CircuitBreaker

abbrev Environment := List (String × ByteArray)

/-- The text of a variable. One that is not a text counts as absent. -/
def Environment.text (env : Environment) (name : String) : Option String :=
  (env.lookup name).bind String.fromUTF8?

end CircuitBreaker
