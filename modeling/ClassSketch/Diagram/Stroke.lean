import ClassSketch.Diagram.Emitter
import ClassSketch.Model.Declaration
import ClassSketch.Model.Notation

set_option autoImplicit false

namespace ClassSketch.Diagram

open ClassSketch.Model

/-- One step of a drawing. Each writes one line of the diagram. -/
inductive Stroke where
  | opening (header : String)
  | closing
  | member (text : String)
  | edge (text : String)
  deriving DecidableEq, Repr

/-- A block line is followed by a deeper block, a closing line stands at the depth outside it, and
an edge stands at column zero. -/
def Emitter.draw (emitter : Emitter) : Stroke → Emitter
  | .opening header => (emitter.write header).enter
  | .closing => emitter.exit.write "\x7d"
  | .member text => emitter.write text
  | .edge text => emitter.writeFlush text

def Emitter.drawAll (emitter : Emitter) (strokes : List Stroke) : Emitter :=
  strokes.foldl Emitter.draw emitter

/-- The line that opens the block of a type. A structure is drawn as a class with a stereotype and
without its modifiers. -/
def openingLine (header : TypeHeader) : String :=
  match header.kind with
  | .structKind => "class " ++ header.name ++ header.typeParameters ++ " <<struct>> \x7b"
  | kind =>
    (if header.modifiers.contains "abstract" then "abstract " else "") ++ kind.keyword ++ " " ++
      header.name ++ header.typeParameters ++ " " ++ Notation.ofType header.modifiers ++ "\x7b"

def edgeLine (name base : String) : String := name ++ " <|-- " ++ base

/-- The inheritance edges of a type. A structure has none. -/
def edges (header : TypeHeader) : List Stroke :=
  match header.kind with
  | .structKind => []
  | _ => header.baseTypes.map fun base => .edge (edgeLine header.name base)

def enumLine (header : EnumHeader) : String := "enum " ++ header.name ++ " \x7b"

/-- Every enum member ends in a comma, the last one too. -/
def enumMemberLine (member : EnumMember) : String :=
  member.name ++ (match member.value with | some value => " = " ++ value.text | none => "") ++ ","

/-- Only a literal initializer is shown. -/
def literalSuffix : Option Expression → String
  | some value => if value.isLiteral then " = " ++ value.text else ""
  | none => ""

def variableLine (field : Field) (declarator : Variable) : String :=
  Notation.ofMember field.modifiers ++ declarator.name ++ " : " ++ field.type ++
    literalSuffix declarator.initializer

def accessorText (accessor : Accessor) : String :=
  Notation.stereotype (Notation.ofAccessor accessor.modifiers ++ accessor.kind)

def accessorsText (accessors : List Accessor) : String :=
  Text.joinWith " " ((accessors.filter fun accessor => !accessor.isPrivate).map accessorText)

def propertyLine (property : Property) : String :=
  Notation.ofMember property.modifiers ++ property.name ++ " : " ++ property.type ++ " " ++
    accessorsText property.accessors ++ literalSuffix property.initializer

def parametersText (parameters : List Parameter) : String :=
  Text.joinWith ", " (parameters.map fun parameter => parameter.name ++ ":" ++ parameter.type)

def methodLine (method : Method) : String :=
  Notation.ofMember method.modifiers ++ method.name ++ "(" ++ parametersText method.parameters ++
    ") : " ++ method.returnType

def constructorLine (constructor : Constructor) : String :=
  Notation.ofMember constructor.modifiers ++ constructor.name ++ "(" ++
    parametersText constructor.parameters ++ ")"

mutual

/-- The drawing of a declaration. Units and namespaces leave no trace of their own. Of an
unsupported declaration only the containers are drawn. -/
def strokes : Declaration → List Stroke
  | .unit _ members => strokesOfAll members
  | .namespaceBlock _ members => strokesOfAll members
  | .typeBlock header members =>
    .opening (openingLine header) :: strokesOfAll members ++ .closing :: edges header
  | .enumBlock header members => .opening (enumLine header) :: strokesOfAll members ++ [.closing]
  | .enumMember member => [.member (enumMemberLine member)]
  | .field field => field.declared.map fun declarator => .member (variableLine field declarator)
  | .property property => [.member (propertyLine property)]
  | .method method => [.member (methodLine method)]
  | .constructor constructor => [.member (constructorLine constructor)]
  | .unsupported _ _ members => strokesOfContainers members
  | .loose _ => []

def strokesOfAll : List Declaration → List Stroke
  | [] => []
  | first :: rest => strokes first ++ strokesOfAll rest

def strokesOfContainers : List Declaration → List Stroke
  | [] => []
  | first :: rest =>
    (if first.isContainer then strokes first else []) ++ strokesOfContainers rest

end

theorem strokesOfAll_eq (members : List Declaration) :
    strokesOfAll members = members.flatMap strokes := by
  induction members with
  | nil => rw [strokesOfAll]; rfl
  | cons first rest ih => rw [strokesOfAll, ih, List.flatMap_cons]

theorem strokesOfContainers_eq (members : List Declaration) :
    strokesOfContainers members = (members.filter Declaration.isContainer).flatMap strokes := by
  induction members with
  | nil => rw [strokesOfContainers]; rfl
  | cons first rest ih =>
    rw [strokesOfContainers, ih]
    cases container : first.isContainer <;> simp [container]

/-- A declaration that leaves nothing in the diagram, and why. -/
inductive Skip where
  | unsupported (kind name : String)
  | unknown (part : Part)
  deriving DecidableEq, Repr

mutual

/-- What the drawing of a declaration passes over, in the order met. -/
def skips : Declaration → List Skip
  | .unit _ members => skipsOfAll members
  | .namespaceBlock _ members => skipsOfAll members
  | .typeBlock _ members => skipsOfAll members
  | .enumBlock _ members => skipsOfAll members
  | .unsupported kind name members => .unsupported kind name :: skipsOfContainers members
  | .loose part => [.unknown part]
  | _ => []

def skipsOfAll : List Declaration → List Skip
  | [] => []
  | first :: rest => skips first ++ skipsOfAll rest

def skipsOfContainers : List Declaration → List Skip
  | [] => []
  | first :: rest => (if first.isContainer then skips first else []) ++ skipsOfContainers rest

end

end ClassSketch.Diagram
