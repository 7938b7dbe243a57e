import ClassSketch.Proofs.Diagram.Line
import ClassSketch.Proofs.Outline.Reachable

set_option autoImplicit false

namespace ClassSketch.Outline

open ClassSketch.Concrete ClassSketch.Model ClassSketch.Diagram

/-- What a node writes its line for. A declarator takes type and modifiers from its field. -/
inductive Writer where
  | typeBlock (kind : TypeKind) (node : Node)
  | enumBlock (node : Node)
  | enumMember (node : Node)
  | declarator (owner node : Node)
  | property (node : Node)
  | method (node : Node)
  | constructor (node : Node)

def Writer.stroke (source : List UInt8) : Writer → Read Stroke
  | .typeBlock kind node => do return .opening (openingLine (← typeHeader source kind node))
  | .enumBlock node => do return .opening (enumLine (← enumHeader source node))
  | .enumMember node => do return .member (enumMemberLine (← Outline.enumMember source node))
  | .declarator owner node => do
    let shown ← field source owner
    return .member (variableLine shown (← Outline.declarator source node))
  | .property node => do return .member (propertyLine (← Outline.property source node))
  | .method node => do return .member (methodLine (← Outline.method source node))
  | .constructor node => do return .member (constructorLine (← Outline.constructor source node))

structure Site where
  position : List Nat
  column : Nat
  writer : Writer

def Site.line (source : List UInt8) (site : Site) : Read Line := do
  return ⟨site.column, ← site.writer.stroke source⟩

/-- The sites of the items in a list that stands at a place. -/
def Spot.itemSites (spot : Spot) (place? : Option Nat) (type : String) (column : Nat)
    (writer : Node → Writer) : List Site :=
  match place? with
  | none => []
  | some place =>
    let items := ((spot.node.children[place]?).map Node.children).getD []
    (items.zipIdx.filter fun item => item.1.type == type).map fun item =>
      ⟨spot.position ++ [place, item.2], column, writer item.1⟩

/-- The site of a member with a line of its own. -/
def Spot.memberSites (spot : Spot) (writer : Writer) : List Site :=
  if spot.loose then [] else [⟨spot.position, spot.depth, writer⟩]

/-- The sites of a declaration, apart from the declarations in its body. -/
def Spot.sites (spot : Spot) : List Site :=
  match Form.ofType? spot.node.type with
  | some (.type kind) => [⟨spot.position, spot.depth, .typeBlock kind spot.node⟩]
  | some .enum =>
    ⟨spot.position, spot.depth, .enumBlock spot.node⟩ ::
      spot.itemSites (spot.node.partPlace? "body" "enum_member_declaration_list")
        "enum_member_declaration" (spot.depth + 1) .enumMember
  | some .field =>
    if spot.loose then []
    else spot.itemSites (spot.node.childPlace? "variable_declaration") "variable_declarator"
      spot.depth (.declarator spot.node)
  | some .property => spot.memberSites (.property spot.node)
  | some .method => spot.memberSites (.method spot.node)
  | some .constructor => spot.memberSites (.constructor spot.node)
  | _ => []

/-- The sites of a whole tree. -/
def sites (root : Node) : List Site := (topSpots 0 root.children).flatMap Spot.sites

end ClassSketch.Outline
