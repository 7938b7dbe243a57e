import ClassSketch.Grammar.Piece

set_option autoImplicit false

namespace ClassSketch.Grammar

open ClassSketch.Concrete

/-- A tree, and the declarations read between its braces. -/
structure Item where
  tree : Tree
  declarations : List Node

/-- The length of a declaration or statement. It ends with a semicolon, or with a brace that opens
no value: a value follows an equals sign or an arrow, and a property may have one behind its
accessors. An equals sign right behind a greater sign is part of an operator's name. A lone opening
bracket takes all that follows. -/
def segmentLength (inValue afterGreater : Bool) : List Tree → Nat
  | [] => 0
  | tree :: rest =>
    if tree.isSymbol ";" then 1
    else if tree.isLoneClosing then 0
    else if tree.isLoneOpening then 1 + rest.length
    else if tree.isGroup .brace && !inValue then
      if headIs rest fun next => next.isSymbol "=" then 1 + segmentLength inValue false rest else 1
    else
      let opens := tree.isSymbol "=>" || (tree.isSymbol "=" && !afterGreater)
      1 + segmentLength (inValue || opens) (tree.isSymbol ">") rest

/-- Splits the content of a body or file. A stray token or a lone closing bracket stands alone. -/
def segments (items : List Item) : List (List Item) :=
  match items with
  | [] => []
  | first :: rest =>
    let more := if first.tree.isStray then 0
      else segmentLength false false (items.map Item.tree) - 1
    (first :: rest.take more) :: segments (rest.drop more)
termination_by items.length
decreasing_by
  simp only [List.length_drop, List.length_cons]
  omega

/-- Modifiers that are reserved words. -/
def modifierWords : List String := [
  "abstract", "const", "extern", "fixed", "internal", "new", "override", "private", "protected",
  "public", "readonly", "sealed", "static", "unsafe", "virtual", "volatile"]

/-- Modifiers that are names elsewhere. -/
def softModifiers : List String := ["async", "file", "partial", "required"]

/-- A soft modifier stands before a type, a keyword or another modifier. Before a name that ends a
declarator it is a type itself. -/
def continuesModifiers (rest : List Tree) : Bool :=
  match rest with
  | [] => false
  | tree :: behind =>
    if tree.isGroup .round then headIs behind Tree.isIdentifier
    else tree.isAnyWord && !(tree.isIdentifier &&
      headIs behind fun next => [";", "=", ",", "=>"].any next.isSymbol || next.isGroup .brace)

def modifierCount : List Tree → Nat
  | [] => 0
  | tree :: rest =>
    if tree.isOneOf modifierWords || (tree.isOneOf softModifiers && continuesModifiers rest) then
      1 + modifierCount rest
    else 0

def modifierNodes (trees : List Tree) : List Node :=
  trees.map fun tree => leaf "modifier" none [tree]

def accessorWords : List String := ["get", "set", "init", "add", "remove"]

/-- An accessor: attributes, modifiers, its word, and its body if it has one. -/
def accessorNodes (segment : List Item) : List Node :=
  let trees := segment.map Item.tree
  let plain := dropAttributes trees
  let count := modifierCount plain
  match plain.drop count with
  | word :: _ =>
    if word.isOneOf accessorWords then
      [branch "accessor_declaration" none trees
        (modifierNodes (plain.take count) ++ [leaf "accessor" (some "name") [word]])]
    else [defect trees]
  | [] => [defect trees]

def accessorList (tree : Tree) : Node :=
  branch "accessor_list" (some "accessors") [tree]
    ((segments (tree.inside.map fun inner => ⟨inner, []⟩)).flatMap accessorNodes)

end ClassSketch.Grammar
