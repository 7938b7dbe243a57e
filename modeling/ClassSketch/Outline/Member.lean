import ClassSketch.Outline.Piece

set_option autoImplicit false

namespace ClassSketch.Outline

open ClassSketch.Concrete ClassSketch.Model

/-- The nodes of a type in a list, none where there is no list. -/
def itemsOf (type : String) : Option Node → List Node
  | some list => list.children.filter fun child => child.type == type
  | none => []

def accessorKeywords : List String := ["get", "set", "init"]

/-- The keyword of an accessor: the text of its name, or else the first keyword among its
children. -/
def accessorKind (source : List UInt8) (node : Node) : Read (Option String) := do
  let word ← strippedText? source (node.field? "name")
  return if accessorKeywords.contains word then some word
    else (node.children.find? fun child => accessorKeywords.contains child.type).map Node.type

def accessorsOf (source : List UInt8) : List Node → Read (List Accessor)
  | [] => .ok []
  | node :: rest => do
    match ← accessorKind source node with
    | some kind =>
      let words ← modifiers source node
      let others ← accessorsOf source rest
      return ⟨kind, words⟩ :: others
    | none => accessorsOf source rest

def accessors (source : List UInt8) (list : Option Node) : Read (List Accessor) :=
  accessorsOf source (itemsOf "accessor_declaration" list)

/-- The value of a property stands in its role, or else behind an equals sign after the
accessors. -/
def propertyValue? (node : Node) (list : Option Node) : Option Node :=
  match node.field? "value" with
  | some value => some value
  | none => if list.isSome then assignedValue? node else none

/-- A property with an arrow is read only, and what follows the arrow is no initializer. -/
def property (source : List UInt8) (node : Node) : Read Property := do
  let list := node.part? "accessors" "accessor_list"
  let listed ← accessors source list
  let value := propertyValue? node list
  let isArrow := value.any fun found => found.type == "arrow_expression_clause"
  let initializer ← if isArrow then pure none else expression? source value
  let name ← nameText source node
  let type ← strippedText? source (node.field? "type")
  let words ← modifiers source node
  return {
    name := name
    type := type
    accessors := if isArrow then listed ++ [⟨"get", []⟩] else listed
    modifiers := words
    initializer := initializer }

/-- What a property shows of its value, whatever else is read. -/
theorem initializer_of_tail {value : Read (Option Expression)} {name type : Read String}
    {listed : List Accessor} {words : Read (List String)} {made : Property}
    (success : (do
      let initializer ← value
      let name ← name
      let type ← type
      let words ← words
      return ⟨name, type, listed, words, initializer⟩) = Except.ok made) :
    value = .ok made.initializer := by
  obtain ⟨initializer, read, success⟩ := Read.bind_eq_ok.mp success
  obtain ⟨name, _, success⟩ := Read.bind_eq_ok.mp success
  obtain ⟨type, _, success⟩ := Read.bind_eq_ok.mp success
  obtain ⟨words, _, success⟩ := Read.bind_eq_ok.mp success
  cases success
  exact read

def method (source : List UInt8) (node : Node) : Read Method := do
  let name ← nameText source node
  let returnType ← strippedText? source (node.field? "returns" <|> node.field? "type")
  let listed ← parameters source node
  let words ← modifiers source node
  return ⟨name, returnType, listed, words⟩

def constructor (source : List UInt8) (node : Node) : Read Constructor := do
  let name ← nameText source node
  let listed ← parameters source node
  let words ← modifiers source node
  return ⟨name, listed, words⟩

/-- A declarator is named by its name, or else by its first identifier. -/
def declaratorName (source : List UInt8) (node : Node) : Read String :=
  match node.field? "name" <|> node.child? "identifier" with
  | some name => name.text source
  | none => .ok ""

def declarator (source : List UInt8) (node : Node) : Read Variable := do
  let name ← declaratorName source node
  let initializer ← expression? source (assignedValue? node)
  return ⟨name, initializer⟩

/-- A field has the type and the declarators of its list, as far as it has a list. -/
def field (source : List UInt8) (node : Node) : Read Field := do
  let list := node.child? "variable_declaration"
  let type ← strippedText? source (list.bind (·.field? "type"))
  let declared ← (itemsOf "variable_declarator" list).mapM (declarator source)
  let words ← modifiers source node
  return ⟨type, declared, words⟩

def enumMember (source : List UInt8) (node : Node) : Read EnumMember := do
  let name ← nameText source node
  let value ← expression? source (node.field? "value" <|> assignedValue? node)
  return ⟨name, value⟩

def enumHeader (source : List UInt8) (node : Node) : Read EnumHeader := do
  let name ← nameText source node
  let words ← modifiers source node
  return ⟨name, words⟩

def enumBody? (node : Node) : Option Node := node.part? "body" "enum_member_declaration_list"

/-- An enum with its members, which are read before its own name. -/
def enumBlock (source : List UInt8) (node : Node) : Read Declaration := do
  let members ← (itemsOf "enum_member_declaration" (enumBody? node)).mapM (enumMember source)
  let header ← enumHeader source node
  return .enumBlock header (members.map .enumMember)

end ClassSketch.Outline
