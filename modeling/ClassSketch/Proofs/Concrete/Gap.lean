import ClassSketch.Concrete.Node

set_option autoImplicit false

namespace ClassSketch.Concrete

/-- The surroundings of a place among the nodes below another. -/
inductive Gap where
  | here (before after : List Node)
  | within (before : List Node) (mark : Mark) (inner : Gap) (after : List Node)

namespace Gap

def fill (nodes : List Node) : Gap → List Node
  | here before after => before ++ nodes ++ after
  | within before mark inner after => before ++ .node mark (fill nodes inner) :: after

/-- What holds of the child that the gap lies in, if it lies in one. -/
def Inside (holds : List Node → Mark → Gap → Prop) : Gap → Prop
  | here _ _ => True
  | within before mark inner _ => holds before mark inner

theorem inside_of_within {holds : List Node → Mark → Gap → Prop} {gap : Gap}
    (all : ∀ before mark inner after, gap = .within before mark inner after →
      holds before mark inner) : gap.Inside holds := by
  cases gap with
  | here before after => trivial
  | within before mark inner after => exact all before mark inner after rfl

theorem inside_of_forall {holds : List Node → Mark → Gap → Prop}
    (all : ∀ before mark inner, holds before mark inner) (gap : Gap) : gap.Inside holds :=
  inside_of_within fun before mark inner _ _ => all before mark inner

/-- The tree around a gap, with some nodes in the gap. -/
def tree (gap : Gap) (mark : Mark) (nodes : List Node) : Node := .node mark (gap.fill nodes)

@[simp] theorem mark_tree (gap : Gap) (mark : Mark) (nodes : List Node) :
    (gap.tree mark nodes).mark = mark := rfl

@[simp] theorem type_tree (gap : Gap) (mark : Mark) (nodes : List Node) :
    (gap.tree mark nodes).type = mark.type := rfl

@[simp] theorem children_tree (gap : Gap) (mark : Mark) (nodes : List Node) :
    (gap.tree mark nodes).children = gap.fill nodes := rfl

@[simp] theorem fill_here (before after nodes : List Node) :
    (here before after).fill nodes = before ++ (nodes ++ after) := List.append_assoc ..

@[simp] theorem fill_within (before : List Node) (mark : Mark) (inner : Gap)
    (after nodes : List Node) :
    (within before mark inner after).fill nodes = before ++ inner.tree mark nodes :: after := rfl

theorem getElem?_fill_within (before : List Node) (mark : Mark) (inner : Gap)
    (after nodes : List Node) :
    ((within before mark inner after).fill nodes)[before.length]? =
      some (inner.tree mark nodes) := by
  simp

theorem getElem?_fill_within_of_ne (before : List Node) (mark : Mark) (inner : Gap)
    (after nodes others : List Node) {place : Nat} (other : place ≠ before.length) :
    ((within before mark inner after).fill nodes)[place]? =
      ((within before mark inner after).fill others)[place]? := by
  rcases Nat.lt_or_gt_of_ne other with earlier | later
  · rw [fill_within, fill_within, List.getElem?_append_left earlier,
      List.getElem?_append_left earlier]
  · obtain ⟨distance, rfl⟩ := Nat.exists_eq_add_of_lt later
    simp [Nat.add_assoc, List.getElem?_append_right]

/-- What fills a gap further below leaves the marks. -/
theorem map_mark_fill_within (before : List Node) (mark : Mark) (inner : Gap)
    (after nodes others : List Node) :
    ((within before mark inner after).fill nodes).map Node.mark =
      ((within before mark inner after).fill others).map Node.mark := by
  simp

end Gap

/-- A comment as the grammar places it: a leaf of no role, which may stand anywhere. -/
structure IsComment (node : Node) : Prop where
  type : node.type = "comment"
  named : node.mark.named = true
  extra : node.mark.extra = true
  roleless : node.mark.field = none
  childless : node.children = []
  present : node.mark.missing = false
  readable : node.mark.unreadable = none

/-- Nodes without a role that are called comments. -/
def Mark.isNote (mark : Mark) : Bool := mark.type == "comment" && mark.field == none

theorem IsComment.isNote {node : Node} (comment : IsComment node) : node.mark.isNote = true := by
  have type : node.mark.type = "comment" := comment.type
  rw [Mark.isNote, type, comment.roleless]
  rfl

mutual

/-- A tree without its comments. -/
def Node.quiet : Node → Node
  | .node mark children => .node mark (quietAll children)

def quietAll : List Node → List Node
  | [] => []
  | first :: rest =>
    if first.mark.isNote then quietAll rest else first.quiet :: quietAll rest

end

theorem quietAll_append (first second : List Node) :
    quietAll (first ++ second) = quietAll first ++ quietAll second := by
  induction first with
  | nil => rw [quietAll, List.nil_append, List.nil_append]
  | cons node rest ih =>
    rw [List.cons_append, quietAll, quietAll, ih]
    split <;> rfl

theorem quietAll_note {node : Node} (note : node.mark.isNote = true) : quietAll [node] = [] := by
  rw [quietAll, if_pos note, quietAll]

theorem quietAll_fill {leaf : Node} (note : leaf.mark.isNote = true) (gap : Gap) :
    quietAll (gap.fill [leaf]) = quietAll (gap.fill []) := by
  induction gap with
  | here before after =>
    simp only [Gap.fill_here, quietAll_append, quietAll_note note, List.nil_append]
  | within before mark inner after ih =>
    have same : (inner.tree mark [leaf]).quiet = (inner.tree mark []).quiet := by
      rw [Gap.tree, Gap.tree, Node.quiet, Node.quiet, ih]
    rw [Gap.fill_within, Gap.fill_within, quietAll_append, quietAll_append, quietAll, quietAll,
      same]
    rfl

/-- A comment leaves no trace in the tree without comments. -/
theorem Gap.quiet_tree {leaf : Node} (note : leaf.mark.isNote = true) (gap : Gap) (mark : Mark) :
    (gap.tree mark [leaf]).quiet = (gap.tree mark []).quiet := by
  rw [tree, tree, Node.quiet, Node.quiet, quietAll_fill note]

namespace Node

@[simp] theorem mark_quiet (node : Node) : node.quiet.mark = node.mark := by
  cases node
  rw [quiet]
  rfl

@[simp] theorem type_quiet (node : Node) : node.quiet.type = node.type :=
  congrArg Mark.type (mark_quiet node)

@[simp] theorem children_quiet (node : Node) : node.quiet.children = quietAll node.children := by
  cases node
  rw [quiet]
  rfl

@[simp] theorem text_quiet (source : List UInt8) (node : Node) :
    node.quiet.text source = node.text source := by
  rw [text, text, mark_quiet]

end Node

/-- A search that passes over comments finds the same node without them. -/
theorem find?_quietAll {sought : Mark → Bool}
    (deaf : ∀ mark, mark.isNote = true → sought mark = false) (nodes : List Node) :
    (quietAll nodes).find? (fun node => sought node.mark) =
      (nodes.find? fun node => sought node.mark).map Node.quiet := by
  induction nodes with
  | nil => rw [quietAll]; rfl
  | cons first rest ih =>
    rw [quietAll]
    split
    · rename_i note
      rw [ih, List.find?_cons_of_neg (by simp [deaf _ note])]
    · rw [List.find?_cons, List.find?_cons, Node.mark_quiet, ih]
      split <;> rfl

theorem filter_quietAll {sought : Mark → Bool}
    (deaf : ∀ mark, mark.isNote = true → sought mark = false) (nodes : List Node) :
    (quietAll nodes).filter (fun node => sought node.mark) =
      (nodes.filter fun node => sought node.mark).map Node.quiet := by
  induction nodes with
  | nil => rw [quietAll]; rfl
  | cons first rest ih =>
    rw [quietAll]
    split
    · rename_i note
      rw [ih, List.filter_cons_of_neg (by simp [deaf _ note])]
    · rw [List.filter_cons, List.filter_cons, Node.mark_quiet, ih]
      split <;> rfl

theorem hasRole_note (role : String) (mark : Mark) (note : mark.isNote = true) :
    (mark.field == some role) = false := by
  simp only [Mark.isNote, Bool.and_eq_true, beq_iff_eq] at note
  simp [note.2]

theorem hasType_note {type : String} (other : type ≠ "comment") (mark : Mark)
    (note : mark.isNote = true) : (mark.type == type) = false := by
  simp only [Mark.isNote, Bool.and_eq_true, beq_iff_eq] at note
  rw [note.1]
  simpa using other.symm

namespace Node

@[simp] theorem field?_quiet (node : Node) (role : String) :
    node.quiet.field? role = (node.field? role).map quiet := by
  rw [field?, children_quiet]
  exact find?_quietAll (hasRole_note role) node.children

theorem child?_quiet (node : Node) {type : String} (other : type ≠ "comment") :
    node.quiet.child? type = (node.child? type).map quiet := by
  rw [child?, children_quiet]
  exact find?_quietAll (hasType_note other) node.children

theorem part?_quiet (node : Node) (role : String) {type : String} (other : type ≠ "comment") :
    node.quiet.part? role type = (node.part? role type).map quiet := by
  rw [part?, field?_quiet, child?_quiet node other, part?]
  cases node.field? role <;> rfl

end Node

end ClassSketch.Concrete
