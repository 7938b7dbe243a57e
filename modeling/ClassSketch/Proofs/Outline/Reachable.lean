import ClassSketch.Proofs.Outline.Making

set_option autoImplicit false

namespace ClassSketch.Concrete.Node

/-- The index of the first child with a role. -/
def fieldPlace? (node : Node) (role : String) : Option Nat :=
  node.children.findIdx? fun child => child.mark.field == some role

/-- The index of the first child of a type. -/
def childPlace? (node : Node) (type : String) : Option Nat :=
  node.children.findIdx? fun child => child.type == type

def partPlace? (node : Node) (role type : String) : Option Nat :=
  node.fieldPlace? role <|> node.childPlace? type

theorem field?_eq (node : Node) (role : String) :
    node.field? role = (node.fieldPlace? role).bind (node.children[·]?) :=
  List.find?_eq_bind_findIdx?_getElem?

theorem child?_eq (node : Node) (type : String) :
    node.child? type = (node.childPlace? type).bind (node.children[·]?) :=
  List.find?_eq_bind_findIdx?_getElem?

theorem getElem?_of_fieldPlace? {node : Node} {role : String} {place : Nat}
    (found : node.fieldPlace? role = some place) :
    ∃ child, node.children[place]? = some child ∧ child.mark.field = some role := by
  obtain ⟨inside, holds, _⟩ := List.findIdx?_eq_some_iff_getElem.mp found
  exact ⟨node.children[place], List.getElem?_eq_getElem inside, by simpa using holds⟩

theorem part?_eq (node : Node) (role type : String) :
    node.part? role type = (node.partPlace? role type).bind (node.children[·]?) := by
  rw [part?, field?_eq, child?_eq, partPlace?]
  cases found : node.fieldPlace? role with
  | some place =>
    obtain ⟨child, at_place, _⟩ := getElem?_of_fieldPlace? found
    simp [at_place]
  | none => rfl

end ClassSketch.Concrete.Node

namespace ClassSketch.Outline

open ClassSketch.Concrete ClassSketch.Model

def listBodyPlace? (node : Node) : Option Nat :=
  match node.fieldPlace? "body" with
  | some place =>
    if (node.children[place]?).any fun body => body.type == "declaration_list" then some place
    else node.childPlace? "declaration_list"
  | none => node.childPlace? "declaration_list"

/-- The index of the child whose children are the members. -/
def bodyPlace? (node : Node) : Option Nat :=
  match Form.ofType? node.type with
  | some (.type _) | some .namespaceBlock => node.partPlace? "body" "declaration_list"
  | some .unsupported => listBodyPlace? node
  | _ => none

theorem listBody?_eq (node : Node) :
    listBody? node = (listBodyPlace? node).bind (node.children[·]?) := by
  rw [listBody?, listBodyPlace?, Node.field?_eq, Node.child?_eq]
  cases found : node.fieldPlace? "body" with
  | some place =>
    obtain ⟨body, at_place, _⟩ := Node.getElem?_of_fieldPlace? found
    cases isList : body.type == "declaration_list" <;> simp [at_place, isList]
  | none => rfl

theorem held_eq (node : Node) :
    held node =
      (((bodyPlace? node).bind (node.children[·]?)).map Node.children).getD [] := by
  unfold held bodyPlace?
  cases Form.ofType? node.type with
  | none => rfl
  | some form => cases form <;> simp [body?, Node.part?_eq, listBody?_eq]

/-- A node that makes a declaration, with what the drawing makes of its surroundings. -/
structure Spot where
  position : List Nat
  node : Node
  /-- The number of classes, interfaces and structures around the node. -/
  depth : Nat
  /-- An unsupported declaration holds the node directly. -/
  loose : Bool

/-- What the children of one node share. -/
structure Frame where
  position : List Nat
  depth : Nat
  loose : Bool

def Frame.top : Frame := ⟨[], 0, false⟩

def Frame.spot (frame : Frame) (index : Nat) (node : Node) : Spot :=
  ⟨frame.position ++ [index], node, frame.depth, frame.loose⟩

/-- The frame of the members of a declaration, whose body stands at a place. -/
def Spot.frame (spot : Spot) (place : Nat) : Frame where
  position := spot.position ++ [place]
  depth := spot.depth + if (typeKind? spot.node.type).isSome then 1 else 0
  loose := Form.ofType? spot.node.type = some .unsupported

mutual

/-- A declaration and the ones that it holds, in preorder. -/
def spotsAt (spot : Spot) : List Spot :=
  spot :: spotsIn (spot.frame ((bodyPlace? spot.node).getD 0)) 0 (held spot.node)
termination_by sizeOf spot.node
decreasing_by exact sizeOf_held_lt spot.node

def spotsIn (frame : Frame) (index : Nat) (nodes : List Node) : List Spot :=
  match nodes with
  | [] => []
  | node :: rest =>
    (if Declares node then spotsAt (frame.spot index node) else []) ++
      spotsIn frame (index + 1) rest
termination_by sizeOf nodes
decreasing_by
  · simp only [Frame.spot, List.cons.sizeOf_spec]
    omega
  · simp only [List.cons.sizeOf_spec]
    omega

end

def topSpots (index : Nat) : List Node → List Spot
  | [] => []
  | node :: rest =>
    (if IsFileScoped node then spotsIn ⟨[index], 0, false⟩ 0 node.children
      else if Declares node then spotsAt (Frame.top.spot index node) else []) ++
      topSpots (index + 1) rest

end ClassSketch.Outline
