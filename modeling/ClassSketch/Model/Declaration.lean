import ClassSketch.Text.Affix

set_option autoImplicit false

namespace ClassSketch.Model

/-- An initializer or the value of an enum member, as grammar kind and text. -/
structure Expression where
  kind : String
  text : String
  deriving DecidableEq, Repr

/-- A bare `default` is a literal, `default(T)` is not. -/
def Expression.isLiteral (value : Expression) : Bool :=
  value.text == "default" || Text.endsWith value.kind "literal"

structure Parameter where
  name : String
  type : String
  deriving DecidableEq, Repr

structure Variable where
  name : String
  initializer : Option Expression
  deriving DecidableEq, Repr

structure Accessor where
  kind : String
  modifiers : List String
  deriving DecidableEq, Repr

def Accessor.isPrivate (accessor : Accessor) : Bool := accessor.modifiers.contains "private"

inductive TypeKind where
  | classKind
  | interfaceKind
  | structKind
  deriving DecidableEq, Repr

def TypeKind.keyword : TypeKind → String
  | .classKind => "class"
  | .interfaceKind => "interface"
  | .structKind => "struct"

structure TypeHeader where
  kind : TypeKind
  name : String
  typeParameters : String
  modifiers : List String
  baseTypes : List String
  deriving DecidableEq, Repr

structure EnumHeader where
  name : String
  modifiers : List String
  deriving DecidableEq, Repr

structure EnumMember where
  name : String
  value : Option Expression
  deriving DecidableEq, Repr

structure Field where
  type : String
  declared : List Variable
  modifiers : List String
  deriving DecidableEq, Repr

structure Property where
  name : String
  type : String
  accessors : List Accessor
  modifiers : List String
  initializer : Option Expression
  deriving DecidableEq, Repr

structure Method where
  name : String
  returnType : String
  parameters : List Parameter
  modifiers : List String
  deriving DecidableEq, Repr

structure Constructor where
  name : String
  parameters : List Parameter
  modifiers : List String
  deriving DecidableEq, Repr

/-- A piece of a declaration that is no declaration of its own. -/
inductive Part where
  | parameter (parameter : Parameter)
  | declarator (declarator : Variable)
  | accessor (accessor : Accessor)
  | expression (value : Expression)
  deriving DecidableEq, Repr

/-- What a source text declares, in source order. The type does not restrict what stands inside
what. -/
inductive Declaration where
  | unit (filePath : String) (members : List Declaration)
  | namespaceBlock (name : String) (members : List Declaration)
  | typeBlock (header : TypeHeader) (members : List Declaration)
  | enumBlock (header : EnumHeader) (members : List Declaration)
  | enumMember (member : EnumMember)
  | field (field : Field)
  | property (property : Property)
  | method (method : Method)
  | constructor (constructor : Constructor)
  | unsupported (kind name : String) (members : List Declaration)
  | loose (part : Part)

instance : Inhabited Declaration := ⟨.unit "" []⟩

/-- Induction over a declaration, with the hypothesis for each member. -/
@[induction_eliminator]
theorem Declaration.induct {holds : Declaration → Prop}
    (unit : ∀ filePath members, (∀ member ∈ members, holds member) →
      holds (.unit filePath members))
    (namespaceBlock : ∀ name members, (∀ member ∈ members, holds member) →
      holds (.namespaceBlock name members))
    (typeBlock : ∀ header members, (∀ member ∈ members, holds member) →
      holds (.typeBlock header members))
    (enumBlock : ∀ header members, (∀ member ∈ members, holds member) →
      holds (.enumBlock header members))
    (enumMember : ∀ member, holds (.enumMember member))
    (field : ∀ field, holds (.field field))
    (property : ∀ property, holds (.property property))
    (method : ∀ method, holds (.method method))
    (constructor : ∀ constructor, holds (.constructor constructor))
    (unsupported : ∀ kind name members, (∀ member ∈ members, holds member) →
      holds (.unsupported kind name members))
    (loose : ∀ part, holds (.loose part)) (tree : Declaration) : holds tree :=
  @Declaration.rec holds (fun members => ∀ member ∈ members, holds member) unit namespaceBlock
    typeBlock enumBlock enumMember field property method constructor unsupported loose
    (fun _ absent => absurd absent List.not_mem_nil)
    (fun _ _ first rest _ inside => (List.mem_cons.mp inside).elim (· ▸ first) (rest _)) tree

/-- Declarations that may hold a block to draw. -/
def Declaration.isContainer : Declaration → Bool
  | .typeBlock .. | .enumBlock .. | .namespaceBlock .. | .unsupported .. => true
  | _ => false

end ClassSketch.Model
