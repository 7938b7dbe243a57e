import ClassSketch.Proofs.Text.Stripped
import ClassSketch.Model.Declaration

set_option autoImplicit false

namespace ClassSketch.Model

open ClassSketch.Text

/-- A text on one line without white space around it. -/
structure Expression.Neat (value : Expression) : Prop where
  text : Stripped value.text
  oneLine : '\n' ∉ value.text.toList

structure Parameter.Neat (parameter : Parameter) : Prop where
  type : Stripped parameter.type

structure Variable.Neat (declarator : Variable) : Prop where
  initializer : ∀ value ∈ declarator.initializer, value.Neat

def accessorKinds : List String := ["get", "set", "init"]

structure Accessor.Neat (accessor : Accessor) : Prop where
  kind : accessor.kind ∈ accessorKinds
  modifiers : ∀ word ∈ accessor.modifiers, Stripped word

structure TypeHeader.Neat (header : TypeHeader) : Prop where
  typeParameters : Stripped header.typeParameters
  modifiers : ∀ word ∈ header.modifiers, Stripped word
  baseTypes : ∀ base ∈ header.baseTypes, base ≠ "" ∧ Stripped base

structure EnumHeader.Neat (header : EnumHeader) : Prop where
  modifiers : ∀ word ∈ header.modifiers, Stripped word

structure EnumMember.Neat (member : EnumMember) : Prop where
  value : ∀ value ∈ member.value, value.Neat

structure Field.Neat (field : Field) : Prop where
  type : Stripped field.type
  declared : ∀ declarator ∈ field.declared, declarator.Neat
  modifiers : ∀ word ∈ field.modifiers, Stripped word

structure Property.Neat (property : Property) : Prop where
  type : Stripped property.type
  accessors : ∀ accessor ∈ property.accessors, accessor.Neat
  modifiers : ∀ word ∈ property.modifiers, Stripped word
  initializer : ∀ value ∈ property.initializer, value.Neat

structure Method.Neat (method : Method) : Prop where
  returnType : Stripped method.returnType
  parameters : ∀ parameter ∈ method.parameters, parameter.Neat
  modifiers : ∀ word ∈ method.modifiers, Stripped word

structure Constructor.Neat (constructor : Constructor) : Prop where
  parameters : ∀ parameter ∈ constructor.parameters, parameter.Neat
  modifiers : ∀ word ∈ constructor.modifiers, Stripped word

/-- The kinds of declarations that have a shape of their own. -/
def shapedKinds : List String :=
  ["class_declaration", "interface_declaration", "struct_declaration", "enum_declaration",
    "namespace_declaration", "field_declaration", "property_declaration", "method_declaration",
    "constructor_declaration"]

/-- The kind of a declaration that is kept without a shape. -/
structure Shapeless (kind : String) : Prop where
  declares : Text.endsWith kind "_declaration" = true
  other : kind ∉ shapedKinds

namespace Declaration

/-- What may stand inside other declarations. A unit may not, and an enum member only in an enum,
which holds nothing else. -/
inductive IsMember : Declaration → Prop
  | namespaceBlock (name : String) {members : List Declaration}
      (inner : ∀ member ∈ members, IsMember member) : IsMember (.namespaceBlock name members)
  | typeBlock {header : TypeHeader} {members : List Declaration} (neat : header.Neat)
      (inner : ∀ member ∈ members, IsMember member) : IsMember (.typeBlock header members)
  | enumBlock {header : EnumHeader} {members : List EnumMember} (neat : header.Neat)
      (each : ∀ member ∈ members, member.Neat) :
      IsMember (.enumBlock header (members.map .enumMember))
  | field {field : Field} (neat : field.Neat) : IsMember (.field field)
  | property {property : Property} (neat : property.Neat) : IsMember (.property property)
  | method {method : Method} (neat : method.Neat) : IsMember (.method method)
  | constructor {constructor : Constructor} (neat : constructor.Neat) :
      IsMember (.constructor constructor)
  | unsupported {kind : String} (name : String) {members : List Declaration}
      (shapeless : Shapeless kind) (inner : ∀ member ∈ members, IsMember member) :
      IsMember (.unsupported kind name members)

/-- A unit of members. -/
inductive WellFormed : Declaration → Prop
  | unit (filePath : String) {members : List Declaration}
      (inner : ∀ member ∈ members, IsMember member) : WellFormed (.unit filePath members)

mutual

/-- A declaration and all that stand in it, each before what stands in it. -/
def preorder : Declaration → List Declaration
  | .unit filePath members => .unit filePath members :: preorderOfAll members
  | .namespaceBlock name members => .namespaceBlock name members :: preorderOfAll members
  | .typeBlock header members => .typeBlock header members :: preorderOfAll members
  | .enumBlock header members => .enumBlock header members :: preorderOfAll members
  | .unsupported kind name members => .unsupported kind name members :: preorderOfAll members
  | leaf => [leaf]

def preorderOfAll : List Declaration → List Declaration
  | [] => []
  | first :: rest => preorder first ++ preorderOfAll rest

end

theorem preorderOfAll_eq (members : List Declaration) :
    preorderOfAll members = members.flatMap preorder := by
  induction members with
  | nil => rw [preorderOfAll]; rfl
  | cons first rest ih => rw [preorderOfAll, ih, List.flatMap_cons]

end Declaration

end ClassSketch.Model
