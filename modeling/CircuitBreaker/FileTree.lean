import CircuitBreaker.SystemFault

namespace CircuitBreaker

inductive FileNode
  | file (contents : ByteArray)
  | directory

abbrev FileTree := List (List String × FileNode)

namespace FileTree

inductive Fault
  | missing
  | notDirectory
  | isDirectory
  | nameTooLong
  | nul
deriving DecidableEq

def Fault.message : Fault → String
  | missing => SystemFault.message 2
  | notDirectory => SystemFault.message 20
  | isDirectory => SystemFault.message 21
  | nameTooLong => SystemFault.message 36
  | nul => "file name contained an unexpected NUL byte"

def names (path : String) : List String := (path.splitOn "/").filter fun name => name ≠ "" ∧ name ≠ "."

def ofList (nodes : List (String × FileNode)) : FileTree :=
  nodes.map fun node => (names node.1, node.2)

def node (tree : FileTree) (place : List String) : Option FileNode :=
  match tree.lookup place with
  | some found => some found
  | none => if tree.any fun entry => place.isPrefixOf entry.1 then some .directory else none

/-- Where a path has led so far, the last name first. Outside the tree nothing is known but that the way
up goes through directories. -/
inductive Place
  | inside (names : List String)
  | outside
deriving DecidableEq

def Place.node (tree : FileTree) : Place → Option FileNode
  | .outside | .inside [] => some .directory
  | .inside names => FileTree.node tree names.reverse

def Place.up : Place → Place
  | .outside | .inside [] => .outside
  | .inside (_ :: outer) => .inside outer

def Place.down (tree : FileTree) (name : String) : Place → Except Fault Place
  | .outside => .error .missing
  | .inside names =>
    let place := Place.inside (name :: names)
    if (place.node tree).isNone then .error .missing else .ok place

def nameLimit : Nat := 255

def enter (tree : FileTree) (place : Place) (name : String) : Except Fault Place :=
  match place.node tree with
  | none => .error .missing
  | some (.file _) => .error .notDirectory
  | some .directory =>
    if name = "" ∨ name = "." then .ok place
    else if name = ".." then .ok place.up
    else if nameLimit < name.utf8ByteSize then .error .nameTooLong
    else place.down tree name

def walk (tree : FileTree) : Place → List String → Except Fault Place
  | place, [] => .ok place
  | place, name :: rest =>
    match enter tree place name with
    | .error f => .error f
    | .ok place => walk tree place rest

def pathLimit : Nat := 4096

def read (tree : FileTree) (path : String) : Except Fault ByteArray :=
  if path.toList.any (· = '\x00') then .error .nul
  else if path = "" then .error .missing
  else if pathLimit ≤ path.utf8ByteSize then .error .nameTooLong
  else
    let start := if path.startsWith "/" then Place.outside else .inside []
    match walk tree start (path.splitOn "/") with
    | .error f => .error f
    | .ok place =>
      match place.node tree with
      | none => .error .missing
      | some .directory => .error .isDirectory
      | some (.file contents) => .ok contents

end FileTree

end CircuitBreaker
