import ClassSketch.Concrete.Defect

set_option autoImplicit false

namespace ClassSketch.Concrete

/-- Why the text of the node at a position cannot be read. A position lists the indices of the
children on the way down to the node. -/
abbrev Marking := List Nat → Option String

/-- Every text can be read. -/
def unmarked : Marking := fun _ => none

def Marking.below (marks : Marking) (index : Nat) : Marking :=
  fun position => marks (index :: position)

mutual

/-- A tree with the marks of a marking in place of its own. -/
def Node.marked (marks : Marking) : Node → Node
  | .node mark children => .node { mark with unreadable := marks [] } (markedFrom marks 0 children)

def markedFrom (marks : Marking) (index : Nat) : List Node → List Node
  | [] => []
  | child :: rest => child.marked (marks.below index) :: markedFrom marks (index + 1) rest

end

/-- The marks that a tree has. -/
def Node.marks (node : Node) : Marking
  | [] => node.mark.unreadable
  | index :: rest => (node.children[index]?).bind fun child => child.marks rest

theorem Node.mark_marked (marks : Marking) (node : Node) :
    (node.marked marks).mark = { node.mark with unreadable := marks [] } := by
  cases node with
  | node mark children => rfl

/-- A node of a tree with its position in the whole. -/
structure Located where
  position : List Nat
  node : Node

namespace Located

def top (root : Node) : Located := ⟨[], root⟩

def children (here : Located) : List Located :=
  here.node.children.mapIdx fun index child => ⟨here.position ++ [index], child⟩

def type (here : Located) : String := here.node.type

def field? (here : Located) (name : String) : Option Located :=
  here.children.find? fun child => child.node.mark.field == some name

def child? (here : Located) (type : String) : Option Located :=
  here.children.find? fun child => child.type == type

def part? (here : Located) (role type : String) : Option Located :=
  here.field? role <|> here.child? type

def namedChildren (here : Located) : List Located :=
  here.children.filter fun child => child.node.mark.named

/-- The node under a marking of the whole tree. -/
def marked (marks : Marking) (here : Located) : Node :=
  here.node.marked fun position => marks (here.position ++ position)

/-- What a located node becomes, when nothing but its marks may change. -/
structure Keeps (image : Located → Node) : Prop where
  children : ∀ here, (image here).children = here.children.map image
  mark : ∀ here, ∃ unreadable, (image here).mark = { here.node.mark with unreadable }

theorem map_children {α : Type} (image : Located → α) (here : Located) :
    here.children.map image =
      here.node.children.mapIdx fun index child => image ⟨here.position ++ [index], child⟩ := by
  refine List.ext_getElem? ?_
  intro index
  simp only [children, List.getElem?_map, List.getElem?_mapIdx, Option.map_map]
  rfl

theorem keeps_node : Keeps Located.node where
  children here := by
    rw [map_children]
    refine List.ext_getElem? ?_
    intro index
    rw [List.getElem?_mapIdx]
    exact Option.map_id'.symm
  mark here := ⟨here.node.mark.unreadable, rfl⟩

theorem find?_image {image : Located → Node} {sought : Node → Bool} {soughtHere : Located → Bool}
    (same : ∀ child, sought (image child) = soughtHere child) (among : List Located) :
    (among.map image).find? sought = (among.find? soughtHere).map image := by
  rw [List.find?_map]
  congr 2
  funext child
  exact same child

theorem filter_image {image : Located → Node} {sought : Node → Bool} {soughtHere : Located → Bool}
    (same : ∀ child, sought (image child) = soughtHere child) (among : List Located) :
    (among.map image).filter sought = (among.filter soughtHere).map image := by
  rw [List.filter_map]
  congr 2
  funext child
  exact same child

theorem map_orElse {α β : Type} (image : α → β) (first second : Option α) :
    (first.map image <|> second.map image) = (first <|> second).map image := by
  cases first <;> rfl

section Search

variable {image : Located → Node} (keeps : Keeps image) (here : Located)

include keeps

theorem Keeps.type : (image here).type = here.type := by
  obtain ⟨_, mark⟩ := keeps.mark here
  rw [Node.type, mark]
  rfl

theorem Keeps.fieldOf : (image here).mark.field = here.node.mark.field := by
  obtain ⟨_, mark⟩ := keeps.mark here
  rw [mark]

theorem Keeps.named : (image here).mark.named = here.node.mark.named := by
  obtain ⟨_, mark⟩ := keeps.mark here
  rw [mark]

theorem Keeps.extra : (image here).mark.extra = here.node.mark.extra := by
  obtain ⟨_, mark⟩ := keeps.mark here
  rw [mark]

theorem Keeps.field? (name : String) :
    (image here).field? name = (here.field? name).map image := by
  rw [Node.field?, keeps.children]
  exact find?_image (fun child => by rw [keeps.fieldOf]) here.children

theorem Keeps.child? (type : String) :
    (image here).child? type = (here.child? type).map image := by
  rw [Node.child?, keeps.children]
  exact find?_image (fun child => by rw [keeps.type]) here.children

theorem Keeps.part? (role type : String) :
    (image here).part? role type = (here.part? role type).map image := by
  rw [Node.part?, keeps.field?, keeps.child?, map_orElse]
  rfl

theorem Keeps.namedChildren :
    (image here).namedChildren = here.namedChildren.map image := by
  rw [Node.namedChildren, keeps.children]
  exact filter_image (fun child => by rw [keeps.named]) here.children

theorem Keeps.isDefect : (image here).isDefect = here.node.isDefect := by
  obtain ⟨_, mark⟩ := keeps.mark here
  rw [Node.isDefect, Node.isDefect, keeps.type, mark]
  rfl

/-- The stack grows by children and shrinks to what is behind, alike under every image. -/
theorem Keeps.defectLineOn (pending : List Located) :
    Concrete.defectLineOn (pending.map image) =
      Concrete.defectLineOn (pending.map Located.node) := by
  induction size : sizeOf (pending.map Located.node) using Nat.strongRecOn generalizing pending with
  | ind length ih =>
    subst size
    cases pending with
    | nil => rfl
    | cons here rest =>
      have opened {image : Located → Node} (keeps : Keeps image) :
          (image here).children ++ rest.map image = (here.children ++ rest).map image := by
        rw [keeps.children, List.map_append]
      have behind := ih (sizeOf (rest.map Located.node))
        (by simp only [List.map_cons, List.cons.sizeOf_spec]; omega) rest rfl
      have below := ih (sizeOf ((here.children ++ rest).map Located.node))
        (by
          rw [← opened keeps_node]
          exact sizeOf_children_append_lt here.node (rest.map Located.node))
        (here.children ++ rest) rfl
      obtain ⟨_, mark⟩ := keeps.mark here
      rw [List.map_cons, List.map_cons, Concrete.defectLineOn.eq_def,
        Concrete.defectLineOn.eq_def (_ :: _)]
      simp only [keeps.isDefect, mark, opened keeps, opened keeps_node, behind, below]

end Search

end Located

end ClassSketch.Concrete
