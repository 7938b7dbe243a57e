import ClassSketch.Grammar.Bracket

set_option autoImplicit false

namespace ClassSketch.Grammar

def headIs (trees : List Tree) (p : Tree → Bool) : Bool := trees.head?.any p

/-- Square brackets with nothing but commas in them. -/
def isRank (tree : Tree) : Bool :=
  tree.isGroup .square && tree.inside.all fun inner => inner.isSymbol ","

/-- Round brackets with a comma in them. -/
def isTuple (tree : Tree) : Bool :=
  tree.isGroup .round && tree.inside.any fun inner => inner.isSymbol ","

/-- Words that may stand between angle brackets without being names. -/
def typeWords : List String :=
  predefinedTypes ++ ["ref", "out", "in", "readonly", "delegate", "scoped"]

/-- What may stand between angle brackets. -/
def fitsAngles (tree : Tree) : Bool :=
  tree.isIdentifier || tree.isOneOf typeWords ||
    [".", ",", "?", "*", "::"].any tree.isSymbol || isTuple tree || isRank tree

/-- The length of a run in angle brackets, from its first bracket on. `depth` counts the brackets
open before. -/
def anglesLength? (fits : Tree → Bool) (depth : Nat) : List Tree → Option Nat
  | [] => none
  | tree :: rest =>
    if tree.isSymbol "<" then (anglesLength? fits (depth + 1) rest).map (· + 1)
    else if tree.isSymbol ">" then
      match depth with
      | 0 => none
      | 1 => some 1
      | depth + 1 => (anglesLength? fits depth rest).map (· + 1)
    else if depth > 0 && fits tree then (anglesLength? fits depth rest).map (· + 1)
    else none

/-- Type arguments. -/
def argumentsLength? (trees : List Tree) : Option Nat := anglesLength? fitsAngles 0 trees

/-- Type parameters, which may have attributes. -/
def typeParametersLength? (trees : List Tree) : Option Nat :=
  anglesLength? (fun tree => fitsAngles tree || tree.isGroup .square) 0 trees

/-- How far a name goes on behind an identifier. The first `skipped` trees are part of it. -/
def nameTailLength (skipped : Nat) : List Tree → Nat
  | [] => 0
  | tree :: rest =>
    match skipped with
    | skipped + 1 => 1 + nameTailLength skipped rest
    | 0 =>
      if tree.isSymbol "<" then
        match argumentsLength? (tree :: rest) with
        | some count => 1 + nameTailLength (count - 1) rest
        | none => 0
      else if (tree.isSymbol "." || tree.isSymbol "::") && headIs rest Tree.isIdentifier then
        1 + nameTailLength 1 rest
      else 0

/-- The length of a qualified name. -/
def nameLength? : List Tree → Option Nat
  | tree :: rest => if tree.isIdentifier then some (1 + nameTailLength 0 rest) else none
  | [] => none

/-- Ranks, pointers and question marks behind a type. -/
def typeTailLength (nullable : Bool) : List Tree → Nat
  | [] => 0
  | tree :: rest =>
    if tree.isSymbol "*" || isRank tree || (nullable && tree.isSymbol "?") then
      1 + typeTailLength nullable rest
    else 0

/-- A pointer to a function: its calling convention and its signature. -/
def functionPointerLength? (trees : List Tree) : Option Nat :=
  let convention := if headIs trees Tree.isIdentifier then
    if headIs trees.tail fun tree => tree.isGroup .square then 2 else 1 else 0
  (argumentsLength? (trees.drop convention)).map (· + convention)

/-- A type without what may follow its name. -/
def typeHeadLength? : List Tree → Option Nat
  | [] => none
  | tree :: rest =>
    if tree.isOneOf predefinedTypes || isTuple tree then some 1
    else if tree.isWord "delegate" && headIs rest fun next => next.isSymbol "*" then
      (functionPointerLength? rest.tail).map (· + 2)
    else nameLength? (tree :: rest)

def plainTypeLength? (nullable : Bool) (trees : List Tree) : Option Nat :=
  (typeHeadLength? trees).map fun head => head + typeTailLength nullable (trees.drop head)

/-- A type that may be a reference. -/
def referenceLength? (trees : List Tree) : Option Nat :=
  let marks := if headIs trees fun tree => tree.isWord "ref" then
    if headIs trees.tail fun tree => tree.isWord "readonly" then 2 else 1 else 0
  (plainTypeLength? true (trees.drop marks)).map (· + marks)

/-- A type in a declaration. `scoped` belongs to the type when a type and a name follow it. -/
def typeLength? (trees : List Tree) : Option Nat :=
  let scopedLength := if headIs trees fun tree => tree.isWord "scoped" then
    match referenceLength? trees.tail with
    | some count =>
      if headIs (trees.drop (count + 1)) Tree.isIdentifier then some (count + 1) else none
    | none => none
  else none
  match scopedLength with
  | some count => some count
  | none => referenceLength? trees

end ClassSketch.Grammar
