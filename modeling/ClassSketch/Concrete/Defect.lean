import ClassSketch.Concrete.Node

set_option autoImplicit false

namespace ClassSketch.Concrete

namespace Node

/-- A node that stands for broken or absent text. -/
def isDefect (node : Node) : Bool := node.type == "ERROR" || node.mark.missing

end Node

theorem sizeOf_append_nodes (first second : List Node) :
    sizeOf (first ++ second) + 1 = sizeOf first + sizeOf second := by
  induction first with
  | nil => simp; omega
  | cons head tail induction => simp only [List.cons_append, List.cons.sizeOf_spec]; omega

theorem sizeOf_children_append_lt (node : Node) (pending : List Node) :
    sizeOf (node.children ++ pending) < sizeOf (node :: pending) := by
  cases node with
  | node mark children =>
    have := sizeOf_append_nodes children pending
    simp only [Node.children, List.cons.sizeOf_spec, Node.node.sizeOf_spec]
    omega

/-- The line of the first defect on a stack of nodes, counted from one, or zero. Nodes without an
error below them are not searched. -/
def defectLineOn (pending : List Node) : Nat :=
  match pending with
  | [] => 0
  | node :: rest =>
    if node.isDefect then node.mark.row + 1
    else if node.mark.hasError then defectLineOn (node.children ++ rest)
    else defectLineOn rest
termination_by sizeOf pending
decreasing_by
  · exact sizeOf_children_append_lt node rest
  · simp only [List.cons.sizeOf_spec]
    omega

def Node.defectLine (root : Node) : Nat := defectLineOn [root]

end ClassSketch.Concrete
