import ClassSketch.Outline.Member
import ClassSketch.Text.Affix

set_option autoImplicit false

namespace ClassSketch.Outline

open ClassSketch.Concrete ClassSketch.Model

def typeKind? (type : String) : Option TypeKind :=
  if type = "class_declaration" then some .classKind
  else if type = "interface_declaration" then some .interfaceKind
  else if type = "struct_declaration" then some .structKind
  else none

/-- What a node type declares. Every other `_declaration` is kept as unsupported. -/
inductive Form where
  | type (kind : TypeKind)
  | enum
  | namespaceBlock
  | field
  | property
  | method
  | constructor
  | unsupported
  deriving DecidableEq, Repr

def Form.ofType? (type : String) : Option Form :=
  match typeKind? type with
  | some kind => some (.type kind)
  | none =>
    if type = "enum_declaration" then some .enum
    else if type = "namespace_declaration" then some .namespaceBlock
    else if type = "field_declaration" then some .field
    else if type = "property_declaration" then some .property
    else if type = "method_declaration" then some .method
    else if type = "constructor_declaration" then some .constructor
    else if Text.endsWith type "_declaration" then some .unsupported
    else none

/-- The body of a type or namespace. -/
def body? (node : Node) : Option Node := node.part? "body" "declaration_list"

/-- The body of an unsupported declaration is a list of declarations. A block is none. -/
def listBody? (node : Node) : Option Node :=
  match node.field? "body" with
  | some body =>
    if body.type == "declaration_list" then some body else node.child? "declaration_list"
  | none => node.child? "declaration_list"

theorem mem_of_listBody? {node child : Node} (found : listBody? node = some child) :
    child ∈ node.children := by
  unfold listBody? at found
  split at found
  · rename_i body role
    split at found
    · cases found
      exact Node.mem_of_field? role
    · exact Node.mem_of_child? found
  · exact Node.mem_of_child? found

theorem sizeOf_children_lt {node body : Node} (inside : body ∈ node.children) :
    sizeOf body.children < sizeOf node := by
  have := Node.sizeOf_child inside
  cases body with
  | node mark children =>
    simp only [Node.node.sizeOf_spec] at this
    simp only [Node.children]
    omega

/-- The nodes that may be the members of a declaration. -/
def held (node : Node) : List Node :=
  match Form.ofType? node.type with
  | some (.type _) | some .namespaceBlock => ((body? node).map Node.children).getD []
  | some .unsupported => ((listBody? node).map Node.children).getD []
  | _ => []

theorem sizeOf_inner_lt {node : Node} {body : Option Node}
    (inside : ∀ found, body = some found → found ∈ node.children) :
    sizeOf ((body.map Node.children).getD []) < sizeOf node := by
  cases body with
  | some found => exact sizeOf_children_lt (inside found rfl)
  | none =>
    cases node with
    | node mark children =>
      have positive : 0 < sizeOf children := by
        cases children <;> simp only [List.nil.sizeOf_spec, List.cons.sizeOf_spec] <;> omega
      simp only [Option.map_none, Option.getD_none, List.nil.sizeOf_spec, Node.node.sizeOf_spec]
      omega

theorem sizeOf_held_lt (node : Node) : sizeOf (held node) < sizeOf node := by
  have none_lt := sizeOf_inner_lt fun found (absent : none = some found) =>
    show found ∈ node.children from nomatch absent
  unfold held
  split
  · exact sizeOf_inner_lt fun _ => Node.mem_of_part?
  · exact sizeOf_inner_lt fun _ => Node.mem_of_part?
  · exact sizeOf_inner_lt fun _ => mem_of_listBody?
  · exact none_lt

def typeHeader (source : List UInt8) (kind : TypeKind) (node : Node) : Read TypeHeader := do
  let name ← nameText source node
  let typeParameters ← strippedText? source (node.child? "type_parameter_list")
  let words ← modifiers source node
  let bases ← baseTypes source node
  return ⟨kind, name, typeParameters, words, bases⟩

mutual

/-- The declaration that a node makes, if it makes one. -/
def declaration? (source : List UInt8) (node : Node) : Read (Option Declaration) :=
  match Form.ofType? node.type with
  | none => .ok none
  | some (.type kind) => do
    let header ← typeHeader source kind node
    let members ← membersOf source (held node)
    return some (.typeBlock header members)
  | some .enum => do return some (← enumBlock source node)
  | some .namespaceBlock => do
    let name ← nameText source node
    let members ← membersOf source (held node)
    return some (.namespaceBlock name members)
  | some .field => do return some (.field (← field source node))
  | some .property => do return some (.property (← property source node))
  | some .method => do return some (.method (← method source node))
  | some .constructor => do return some (.constructor (← constructor source node))
  | some .unsupported => do
    let name ← nameText source node
    let members ← membersOf source (held node)
    return some (.unsupported node.type name members)
termination_by sizeOf node
decreasing_by all_goals exact sizeOf_held_lt node

/-- The declarations that some nodes make, in their order. -/
def membersOf (source : List UInt8) (nodes : List Node) : Read (List Declaration) :=
  match nodes with
  | [] => .ok []
  | node :: rest => do
    let made ← declaration? source node
    let others ← membersOf source rest
    return made.toList ++ others
termination_by sizeOf nodes

end

/-- A file scoped namespace takes the declarations after it, up to the next one. Gives what stands
before the first such namespace, and all namespaces. -/
def topLevel (source : List UInt8) : List Node → Read (List Declaration × List Declaration)
  | [] => .ok ([], [])
  | node :: rest =>
    if node.type = "file_scoped_namespace_declaration" then do
      let name ← nameText source node
      let own ← membersOf source node.children
      let (following, others) ← topLevel source rest
      return ([], .namespaceBlock name (own ++ following) :: others)
    else do
      let made ← declaration? source node
      let (following, others) ← topLevel source rest
      return (made.toList ++ following, others)

/-- The declarations of a whole source. -/
def unit (source : List UInt8) (filePath : String) (root : Node) : Read Declaration := do
  let (leading, namespaces) ← topLevel source root.children
  return .unit filePath (leading ++ namespaces)

def usings (source : List UInt8) (root : Node) : Read (List String) :=
  textsOf source (root.children.filter fun child => child.type == "using_directive")

end ClassSketch.Outline
