namespace CircuitBreaker.Pattern

structure Switches where
  verbose : Option Bool := none
  caseless : Option Bool := none
  unicode : Option Bool := none
deriving DecidableEq

structure Literal where
  char : Char
  byte : Bool
deriving DecidableEq

inductive Operation
  | intersection
  | difference
  | symmetricDifference
deriving DecidableEq

inductive ClassSet
  | empty
  | literal (l : Literal)
  | range (first last : Literal)
  | named (negated : Bool)
  | shorthand (negated : Bool)
  | bracketed (negated : Bool) (s : ClassSet)
  | union (items : List ClassSet)
  | operation (o : Operation) (left right : ClassSet)

inductive Node
  | empty
  | setting (s : Switches)
  | literal (l : Literal)
  | dot
  | anchor
  | boundary
  | shorthand (negated : Bool)
  | bracketed (negated : Bool) (s : ClassSet)
  | repeated (n : Node)
  | group (s : Switches) (n : Node)
  | sequence (ns : List Node)
  | choice (ns : List Node)

mutual

def ClassSet.depth : ClassSet → Nat
  | bracketed _ s => s.depth + 1
  | union items => ClassSet.depthAll items + 1
  | operation _ left right => max left.depth right.depth + 1
  | empty | literal _ | range .. | named _ | shorthand _ => 0

def ClassSet.depthAll : List ClassSet → Nat
  | [] => 0
  | s :: items => max s.depth (ClassSet.depthAll items)

end

mutual

def Node.depth : Node → Nat
  | bracketed _ s => s.depth + 1
  | repeated n | group _ n => n.depth + 1
  | sequence ns | choice ns => Node.depthAll ns + 1
  | empty | setting _ | literal _ | dot | anchor | boundary | shorthand _ => 0

def Node.depthAll : List Node → Nat
  | [] => 0
  | n :: ns => max n.depth (Node.depthAll ns)

end

def depthLimit : Nat := 250

end CircuitBreaker.Pattern
