import ClassSketch.Grammar.Segment

set_option autoImplicit false

namespace ClassSketch.Grammar

open ClassSketch.Concrete

/-- What surrounds a declaration. -/
inductive Place where
  | file
  | body
  deriving DecidableEq

/-- A declaration with its modifiers read. `whole` is all of it and `rest` what follows the
modifiers. -/
structure Opened where
  whole : List Item
  modifiers : List Tree
  rest : List Tree

namespace Opened

def ofSegment (segment : List Item) : Opened :=
  let trees := dropAttributes (segment.map Item.tree)
  let count := modifierCount trees
  ⟨segment, trees.take count, trees.drop count⟩

def trees (opened : Opened) : List Tree := opened.whole.map Item.tree

/-- The first braces of the declaration, with the declarations in them. -/
def braces? (opened : Opened) : Option Item :=
  opened.whole.find? fun item => item.tree.isGroup .brace

def node (opened : Opened) (type : String) (children : List Node) : Node :=
  branch type none opened.trees (modifierNodes opened.modifiers ++ children)

def failed (opened : Opened) : List Node := [defect opened.trees]

end Opened

/-- Whether braces or a semicolon end some trees. -/
def isClosed (trees : List Tree) : Bool :=
  trees.getLast?.any fun tree => tree.isSymbol ";" || tree.isGroup .brace

def untilBody (trees : List Tree) : List Tree :=
  trees.takeWhile fun tree => !(tree.isGroup .brace || tree.isSymbol ";")

/-- Where the constraints of type parameters start. -/
def isConstraint : List Tree → Bool
  | first :: name :: colon :: _ => first.isWord "where" && name.isAnyWord && colon.isSymbol ":"
  | _ => false

def untilConstraint : List Tree → List Tree
  | [] => []
  | tree :: rest => if isConstraint (tree :: rest) then [] else tree :: untilConstraint rest

/-- What stands between the name and the body of a type: type parameters, the parameters of a
primary constructor, bases and constraints. -/
def headerNodes (trees : List Tree) : List Node :=
  let head := untilBody trees
  let count := (typeParametersLength? head).getD 0
  let afterTypes := head.drop count
  let afterParameters := dropGroup .round afterTypes
  let typeParameters :=
    if count = 0 then [] else [leaf "type_parameter_list" none (head.take count)]
  let primary :=
    if headIs afterTypes fun tree => tree.isGroup .round then
      [leaf "parameter_list" none (afterTypes.take 1)]
    else []
  let others := match afterParameters with
    | [] => []
    | colon :: behind =>
      if colon.isSymbol ":" then [baseList colon (untilConstraint behind)]
      else if isConstraint afterParameters then []
      else [defect afterParameters]
  typeParameters ++ primary ++ others

def bodyNode (item : Item) : Node :=
  branch "declaration_list" (some "body") [item.tree] item.declarations

/-- A type with a body, or without one and with a semicolon. -/
def typeNodes (opened : Opened) (type : String) (trees : List Tree) : List Node :=
  match trees with
  | name :: behind =>
    if name.isIdentifier && isClosed opened.trees then
      let body := opened.braces?.map bodyNode
      [opened.node type (nameNode [name] :: headerNodes behind ++ body.toList)]
    else opened.failed
  | [] => opened.failed

def enumNodesOf (opened : Opened) (trees : List Tree) : List Node :=
  match trees, opened.braces? with
  | name :: _, some item =>
    if name.isIdentifier then
      [opened.node "enum_declaration" [nameNode [name], enumBody item.tree]]
    else opened.failed
  | _, _ => opened.failed

/-- A namespace with a body, or one that holds the rest of the file. -/
def namespaceNodes (opened : Opened) (trees : List Tree) : List Node :=
  match nameLength? trees with
  | some count =>
    let name := nameNode (trees.take count)
    match opened.braces? with
    | some item => [opened.node "namespace_declaration" [name, bodyNode item]]
    | none =>
      if headIs (trees.drop count) fun tree => tree.isSymbol ";" then
        [opened.node "file_scoped_namespace_declaration" [name]]
      else opened.failed
  | none => opened.failed

/-- Whether `using` starts a directive: a name, or a new name for a type, and a semicolon. -/
def isDirective (trees : List Tree) : Bool :=
  let plain := trees.dropWhile fun tree => tree.isOneOf ["static", "unsafe"]
  match nameLength? plain with
  | some count =>
    headIs (plain.drop count) fun tree => tree.isSymbol ";" || (tree.isSymbol "=" && count == 1)
  | none => false

/-- Whether `record` starts a record and names no type. -/
def isRecord (trees : List Tree) : Bool :=
  let plain := trees.dropWhile fun tree => tree.isOneOf ["class", "struct"]
  match plain with
  | name :: behind =>
    name.isIdentifier && headIs behind fun tree =>
      tree.isGroup .round || tree.isGroup .brace || tree.isSymbol ";" || tree.isSymbol "<" ||
        tree.isSymbol ":" || tree.isWord "where"
  | [] => false

/-- A name that may be qualified by an interface: the trees of its last part, and what follows. -/
def memberName (skipped : Nat) (trees : List Tree) : List Tree :=
  match trees with
  | [] => []
  | tree :: rest =>
    match skipped with
    | skipped + 1 => memberName skipped rest
    | 0 =>
      if tree.isIdentifier then
        let count := (argumentsLength? rest).getD 0
        if headIs (rest.drop count) fun next => next.isSymbol "." || next.isSymbol "::" then
          memberName (count + 1) rest
        else trees
      else trees

def fieldNodes (opened : Opened) (type behind : List Tree) : List Node :=
  let declared := behind.takeWhile fun tree => !tree.isSymbol ";"
  let ending := behind.drop declared.length
  if ending.isEmpty then opened.failed
  else
    [opened.node "field_declaration"
      [branch "variable_declaration" none (type ++ declared)
        (leaf "type" (some "type") type :: declaratorNodes ending (runs 0 declared))]]

def arrowClause (role : Option String) (trees : List Tree) : Node :=
  leaf "arrow_expression_clause" role trees

/-- The value behind the accessors of a property. -/
def propertyValue : List Tree → List Node
  | [] => []
  | sign :: behind =>
    if sign.isSymbol "=" then
      assigned (some "value") sign (behind.takeWhile fun tree => !tree.isSymbol ";")
        (behind.dropWhile fun tree => !tree.isSymbol ";")
    else [defect (sign :: behind)]

/-- A body behind the parameters of a function: braces, an arrow or a semicolon. -/
def closingNodes (trees : List Tree) : List Node :=
  if isClosed trees then [] else [absent ";" trees]

def functionNodes (opened : Opened) (type : String) (children : List Node)
    (parameters : Tree) : List Node :=
  [opened.node type (children ++ [parameterList parameters] ++ closingNodes opened.trees)]

/-- A member behind its type and the interface that may qualify it. -/
def namedNodes (opened : Opened) (type : List Tree) (name : Tree) (behind : List Tree) :
    List Node :=
  let typeAs (role : String) : Node := leaf "type" (some role) type
  let count := (typeParametersLength? behind).getD 0
  match behind.drop count with
  | [] => opened.failed
  | next :: later =>
    if next.isGroup .round then
      functionNodes opened "method_declaration" [typeAs "returns", nameNode [name]] next
    else if next.isGroup .brace then
      [opened.node "property_declaration"
        ([typeAs "type", nameNode [name], accessorList next] ++ propertyValue later)]
    else if next.isSymbol "=>" then
      [opened.node "property_declaration"
        [typeAs "type", nameNode [name], arrowClause (some "value") (next :: later)]]
    else fieldNodes opened type (name :: behind)

/-- A member that starts with its type. -/
def typedNodes (opened : Opened) : List Node :=
  match typeLength? opened.rest with
  | none => opened.failed
  | some count =>
    let type := opened.rest.take count
    match memberName 0 (opened.rest.drop count) with
    | [] => opened.failed
    | first :: behind =>
      if first.isWord "operator" then [opened.node "operator_declaration" []]
      else if first.isWord "this" then [opened.node "indexer_declaration" []]
      else if first.isIdentifier then namedNodes opened type first behind
      else opened.failed

def eventNodes (opened : Opened) (trees : List Tree) : List Node :=
  match typeLength? trees with
  | none => opened.failed
  | some count =>
    match memberName 0 (trees.drop count) with
    | name :: next :: _ =>
      if next.isGroup .brace then
        [opened.node "event_declaration" [nameNode [name], accessorList next]]
      else [opened.node "event_field_declaration" []]
    | _ => opened.failed

/-- The name of a delegate type, behind the type of its result. A function without a name has
none. -/
def delegateName? (trees : List Tree) : Option Tree :=
  (typeLength? trees).bind fun count => (trees.drop count).head?.filter Tree.isIdentifier

def destructorNodes (opened : Opened) (trees : List Tree) : List Node :=
  match trees with
  | name :: _ => [opened.node "destructor_declaration" [nameNode [name]]]
  | [] => opened.failed

/-- A declaration that its first word tells, at any place. -/
def keywordNodes? (opened : Opened) : Option (List Node) :=
  match opened.rest with
  | [] => none
  | first :: rest =>
    if first.isWord "class" then some (typeNodes opened "class_declaration" rest)
    else if first.isWord "struct" then some (typeNodes opened "struct_declaration" rest)
    else if first.isWord "ref" && headIs rest (fun tree => tree.isOneOf ["struct", "partial"]) then
      some (typeNodes opened "struct_declaration"
        (rest.dropWhile fun tree => tree.isOneOf ["struct", "partial"]))
    else if first.isWord "interface" then some (typeNodes opened "interface_declaration" rest)
    else if first.isWord "enum" then some (enumNodesOf opened rest)
    else if first.isWord "record" && isRecord rest then
      some (typeNodes opened "record_declaration"
        (rest.dropWhile fun tree => tree.isOneOf ["class", "struct"]))
    else if first.isWord "namespace" then some (namespaceNodes opened rest)
    else if first.isWord "delegate" then
      (delegateName? rest).map fun name =>
        [opened.node "delegate_declaration" [nameNode [name]]]
    else if first.isWord "using" && isDirective rest then
      some [leaf "using_directive" none opened.rest]
    else if first.isWord "global" && headIs rest fun tree => tree.isWord "using" then
      some [leaf "using_directive" none opened.rest]
    else none

/-- A member of a body that no keyword tells. -/
def memberNodes (opened : Opened) : List Node :=
  match opened.rest with
  | [] => opened.failed
  | first :: rest =>
    if first.isSymbol "~" then destructorNodes opened rest
    else if first.isWord "event" then eventNodes opened rest
    else if first.isOneOf ["implicit", "explicit"] then
      [opened.node "conversion_operator_declaration" []]
    else match rest with
      | next :: _ =>
        if first.isIdentifier && next.isGroup .round then
          functionNodes opened "constructor_declaration" [nameNode [first]] next
        else typedNodes opened
      | [] => opened.failed

/-- A statement at file level. A semicolon or braces end it. -/
def statementNodes (opened : Opened) : List Node :=
  if (opened.trees.all fun tree => tree.isGroup .square) then []
  else if opened.trees.any Tree.isLoneOpening || !isClosed opened.trees then opened.failed
  else [leaf "global_statement" none opened.trees]

/-- The nodes of one segment. -/
def segmentNodes (place : Place) (segment : List Item) : List Node :=
  let opened := Opened.ofSegment segment
  if headIs opened.trees fun tree => tree.isStray || tree.isLoneClosing then opened.failed
  else if opened.trees.any Tree.isLoneOpening then opened.failed
  else match keywordNodes? opened with
    | some nodes => nodes
    | none =>
      match place with
      | .file => statementNodes opened
      | .body => memberNodes opened

def nodesOf (place : Place) (items : List Item) : List Node :=
  (segments items).flatMap (segmentNodes place)

mutual

/-- Reads the declarations between all braces, the inner ones first. -/
def itemOf : Tree → Item
  | .leaf token => ⟨.leaf token, []⟩
  | .group bracket opener inside closer =>
    ⟨.group bracket opener inside closer,
      if bracket = .brace then nodesOf .body (itemsOf inside) else []⟩

def itemsOf : List Tree → List Item
  | [] => []
  | tree :: rest => itemOf tree :: itemsOf rest

end

end ClassSketch.Grammar
