namespace CircuitBreaker

inductive Completion (ε α : Type)
  | value (v : α)
  | failure (error : ε)
  | crash (text : String)

inductive Assessment (ε α : Type)
  | success (v : α)
  | tripping (error : ε)
  | nonTripping (error : ε)
  | crash (text : String)

namespace Assessment

variable {ε α : Type}

def isSuccess : Assessment ε α → Bool
  | success _ => true
  | tripping _ | nonTripping _ | crash _ => false

end Assessment

end CircuitBreaker
