import ClassSketch.Report
import Mathlib.Data.List.Basic

set_option autoImplicit false

namespace ClassSketch.Concrete

/-- Induction over a node, with the hypothesis for each child. -/
theorem Node.induct {holds : Node → Prop}
    (step : ∀ node : Node, (∀ child ∈ node.children, holds child) → holds node) (node : Node) :
    holds node :=
  @Node.rec holds (fun children => ∀ child ∈ children, holds child)
    (fun mark children => step (.node mark children))
    (fun _ absent => absurd absent List.not_mem_nil)
    (fun _ _ first rest _ inside => (List.mem_cons.mp inside).elim (· ▸ first) (rest _)) node

/-- A node with the nodes that it stands in, the outermost first. -/
structure Placed where
  above : List Node
  node : Node

/-- Every node around has an error in it. -/
def Placed.isFlagged (place : Placed) : Bool := place.above.all fun outer => outer.mark.hasError

mutual

/-- A node and all that stand in it, each before what stands in it. The node itself stands in the
nodes above. -/
def Node.placesUnder (above : List Node) : Node → List Placed
  | .node mark children =>
    ⟨above, .node mark children⟩ :: placesUnderOfAll (above ++ [.node mark children]) children

def placesUnderOfAll (above : List Node) : List Node → List Placed
  | [] => []
  | first :: rest => first.placesUnder above ++ placesUnderOfAll above rest

/-- A node and what stands in it, without what stands in a node that has no error in it. -/
def Node.searched : Node → List Node
  | .node mark children =>
    .node mark children :: if mark.hasError then searchedOfAll children else []

def searchedOfAll : List Node → List Node
  | [] => []
  | first :: rest => first.searched ++ searchedOfAll rest

end

/-- The nodes of a tree in document order, each with the nodes around it. -/
def Node.places (root : Node) : List Placed := root.placesUnder []

def Node.preorder (root : Node) : List Node := root.places.map Placed.node

/-- The line of a node, counted from one, and zero for none. -/
def lineOf : Option Node → Nat
  | some node => node.mark.row + 1
  | none => 0

/-- A node has an error in it when it is a defect or a child has an error in it. -/
def Node.Consistent (root : Node) : Prop :=
  ∀ node ∈ root.preorder,
    node.mark.hasError = (node.isDefect || node.children.any fun child => child.mark.hasError)

theorem placesUnderOfAll_eq (above nodes : List Node) :
    placesUnderOfAll above nodes = nodes.flatMap (Node.placesUnder above) := by
  induction nodes with
  | nil => rw [placesUnderOfAll]; rfl
  | cons first rest ih => rw [placesUnderOfAll, ih, List.flatMap_cons]

theorem searchedOfAll_eq (nodes : List Node) :
    searchedOfAll nodes = nodes.flatMap Node.searched := by
  induction nodes with
  | nil => rw [searchedOfAll]; rfl
  | cons first rest ih => rw [searchedOfAll, ih, List.flatMap_cons]

theorem Node.placesUnder_eq (above : List Node) (node : Node) :
    node.placesUnder above =
      ⟨above, node⟩ :: node.children.flatMap (Node.placesUnder (above ++ [node])) := by
  cases node with
  | node mark children => rw [placesUnder, placesUnderOfAll_eq, Node.children]

theorem Node.searched_eq (node : Node) :
    node.searched =
      node :: if node.mark.hasError then node.children.flatMap Node.searched else [] := by
  cases node with
  | node mark children => rw [searched, searchedOfAll_eq, Node.mark, Node.children]

theorem Node.map_node_placesUnder (node : Node) (above : List Node) :
    (node.placesUnder above).map Placed.node = node.preorder := by
  induction node using Node.induct generalizing above with
  | step node ih =>
    have below : ∀ around : List Node,
        (node.children.flatMap (Node.placesUnder around)).map Placed.node =
          node.children.flatMap Node.preorder := by
      intro around
      rw [List.map_flatMap, List.flatMap_def, List.flatMap_def]
      congr 1
      exact List.map_congr_left fun child inside => ih child inside around
    rw [preorder, places, placesUnder_eq, placesUnder_eq, List.map_cons, List.map_cons, below,
      below]

theorem Node.preorder_eq (node : Node) :
    node.preorder = node :: node.children.flatMap Node.preorder := by
  rw [preorder, places, placesUnder_eq, List.map_cons, List.map_flatMap]
  congr 2
  funext child
  exact child.map_node_placesUnder _

/-- The flags around decide alone what is searched. -/
theorem Node.map_filter_placesUnder (node : Node) (above : List Node) :
    ((node.placesUnder above).filter Placed.isFlagged).map Placed.node =
      if above.all fun outer => outer.mark.hasError then node.searched else [] := by
  induction node using Node.induct generalizing above with
  | step node ih =>
    have below : ((node.children.flatMap (Node.placesUnder (above ++ [node]))).filter
        Placed.isFlagged).map Placed.node = node.children.flatMap fun child =>
          if (above ++ [node]).all fun outer => outer.mark.hasError then child.searched
          else [] := by
      rw [List.filter_flatMap, List.map_flatMap, List.flatMap_def, List.flatMap_def]
      congr 1
      exact List.map_congr_left fun child inside => ih child inside (above ++ [node])
    rw [placesUnder_eq, searched_eq]
    cases flags : above.all fun outer => outer.mark.hasError with
    | false =>
      have shut : ¬ Placed.isFlagged ⟨above, node⟩ = true := by simp [Placed.isFlagged, flags]
      rw [List.filter_cons_of_neg shut, below]
      simp [flags]
    | true =>
      have flagged : Placed.isFlagged ⟨above, node⟩ = true := flags
      rw [List.filter_cons_of_pos flagged, List.map_cons, below]
      cases error : node.mark.hasError <;> simp [flags, error]

/-- What the stack still holds is searched in document order, from its top down. -/
theorem defectLineOn_eq (pending : List Node) :
    defectLineOn pending = lineOf ((pending.flatMap Node.searched).find? Node.isDefect) := by
  fun_induction defectLineOn pending with
  | case1 => rfl
  | case2 node rest defect =>
    rw [List.flatMap_cons, Node.searched_eq, List.cons_append, List.find?_cons_of_pos defect]
    rfl
  | case3 node rest whole error ih =>
    rw [ih, List.flatMap_cons, Node.searched_eq, List.cons_append, List.find?_cons_of_neg whole,
      if_pos error, List.flatMap_append]
  | case4 node rest whole clean ih =>
    rw [ih, List.flatMap_cons, Node.searched_eq, List.cons_append, List.find?_cons_of_neg whole,
      if_neg clean, List.nil_append]

/-- The search as a loop that is cut off after so many turns. -/
def defectLineWithin : Nat → List Node → Option Nat
  | 0, _ => none
  | _ + 1, [] => some 0
  | turns + 1, node :: rest =>
    if node.isDefect then some (node.mark.row + 1)
    else if node.mark.hasError then defectLineWithin turns (node.children ++ rest)
    else defectLineWithin turns rest

/-- Each turn takes a node off the stack for good, so the loop has no more turns than nodes. -/
theorem defectLineWithin_eq {turns : Nat} {pending : List Node}
    (enough : (pending.flatMap Node.preorder).length < turns) :
    defectLineWithin turns pending = some (defectLineOn pending) := by
  induction turns generalizing pending with
  | zero => exact absurd enough (Nat.not_lt_zero _)
  | succ turns ih =>
    cases pending with
    | nil => rw [defectLineWithin, defectLineOn]
    | cons node rest =>
      rw [List.flatMap_cons, Node.preorder_eq, List.length_append, List.length_cons] at enough
      have deeper : ((node.children ++ rest).flatMap Node.preorder).length < turns := by
        rw [List.flatMap_append, List.length_append]
        omega
      have behind : (rest.flatMap Node.preorder).length < turns := by omega
      rw [defectLineWithin, defectLineOn, ih deeper, ih behind]
      split
      · rfl
      · split <;> rfl

theorem Node.Consistent.child {node child : Node} (consistent : node.Consistent)
    (inside : child ∈ node.children) : child.Consistent := by
  intro inner isInner
  refine consistent inner ?_
  rw [preorder_eq]
  exact List.mem_cons_of_mem node (List.mem_flatMap.mpr ⟨child, inside, isInner⟩)

/-- The flag of a consistent node, by its children. -/
theorem Node.Consistent.hasError_eq {node : Node} (consistent : node.Consistent) :
    node.mark.hasError = (node.isDefect || node.children.any fun child => child.mark.hasError) := by
  refine consistent node ?_
  rw [preorder_eq]
  exact List.mem_cons_self

/-- A node is flagged exactly when a defect stands in it, at any depth. -/
theorem Node.Consistent.hasError_iff {node : Node} (consistent : node.Consistent) :
    node.mark.hasError = true ↔ ∃ inner ∈ node.preorder, inner.isDefect = true := by
  induction node using Node.induct with
  | step node ih =>
    rw [consistent.hasError_eq, Bool.or_eq_true, List.any_eq_true, preorder_eq]
    simp only [List.mem_cons, List.mem_flatMap, exists_eq_or_imp]
    refine or_congr_right ?_
    constructor
    · rintro ⟨child, inside, error⟩
      obtain ⟨inner, isInner, defect⟩ := (ih child inside (consistent.child inside)).mp error
      exact ⟨inner, ⟨child, inside, isInner⟩, defect⟩
    · rintro ⟨inner, ⟨child, inside, isInner⟩, defect⟩
      exact ⟨child, inside,
        (ih child inside (consistent.child inside)).mpr ⟨inner, isInner, defect⟩⟩

/-- What the search leaves out of a consistent tree holds no defect. -/
theorem Node.Consistent.filter_searched {node : Node} (consistent : node.Consistent) :
    node.searched.filter Node.isDefect = node.preorder.filter Node.isDefect := by
  induction node using Node.induct with
  | step node ih =>
    rw [searched_eq, preorder_eq, List.filter_cons, List.filter_cons]
    have below : (if node.mark.hasError then node.children.flatMap Node.searched else []).filter
        Node.isDefect = (node.children.flatMap Node.preorder).filter Node.isDefect := by
      cases error : node.mark.hasError with
      | true =>
        rw [if_pos rfl, List.filter_flatMap, List.filter_flatMap]
        exact List.flatMap_congr fun child inside => ih child inside (consistent.child inside)
      | false =>
        have nothing : (node.children.flatMap Node.preorder).filter Node.isDefect = [] := by
          rw [List.filter_eq_nil_iff]
          intro inner inside defect
          have isInner : inner ∈ node.preorder := by
            rw [preorder_eq]
            exact List.mem_cons_of_mem node inside
          rw [consistent.hasError_iff.mpr ⟨inner, isInner, defect⟩] at error
          cases error
        rw [nothing]
        rfl
    rw [below]

/-- The first node that the flags lead to and that is a defect. -/
theorem Node.defectLine_eq (root : Node) :
    root.defectLine =
      lineOf ((root.places.find? fun place => place.isFlagged && place.node.isDefect).map
        Placed.node) := by
  have searched : root.searched = (root.places.filter Placed.isFlagged).map Placed.node :=
    (root.map_filter_placesUnder []).symm
  rw [defectLine, defectLineOn_eq, List.flatMap_singleton, searched, List.find?_map,
    List.find?_filter]
  simp only [Bool.decide_and, Bool.decide_eq_true, Function.comp_apply]

theorem Node.Consistent.defectLine_eq {root : Node} (consistent : root.Consistent) :
    root.defectLine = lineOf (root.preorder.find? Node.isDefect) := by
  rw [defectLine, defectLineOn_eq, List.flatMap_singleton, ← List.head?_filter,
    consistent.filter_searched, List.head?_filter]

/-- The warning of a consistent tree is about its first defect, and there is one exactly when there
is a defect. -/
theorem Node.Consistent.defectProblems_eq {root : Node} (consistent : root.Consistent)
    (filePath : String) :
    Report.defectProblems filePath root =
      ((root.preorder.find? Node.isDefect).map fun node =>
        ⟨filePath, node.mark.row + 1, "Tree-sitter reported parse errors in file",
          .warning⟩).toList := by
  rw [Report.defectProblems, consistent.defectLine_eq]
  cases found : root.preorder.find? Node.isDefect with
  | none =>
    have clean : ¬ root.mark.hasError = true := by
      rw [consistent.hasError_iff]
      rintro ⟨inner, inside, defect⟩
      exact List.find?_eq_none.mp found inner inside defect
    rw [if_neg clean]
    rfl
  | some node =>
    have error := consistent.hasError_iff.mpr
      ⟨node, List.mem_of_find?_eq_some found, List.find?_some found⟩
    rw [if_pos error]
    rfl

/-- The loop stops, at the latest when every node has had its turn, and gives the line of the first
defect in document order among the nodes that stand only in nodes with an error in them. When the
flags of the tree are right, that is the first defect of all, and the warning is about it. -/
theorem defectLine_is_first (root : Node) :
    (∀ turns, root.preorder.length < turns →
      defectLineWithin turns [root] = some root.defectLine) ∧
    root.defectLine =
      lineOf ((root.places.find? fun place => place.isFlagged && place.node.isDefect).map
        Placed.node) ∧
    (root.Consistent →
      root.defectLine = lineOf (root.preorder.find? Node.isDefect) ∧
      (root.defectLine = 0 ↔ ∀ node ∈ root.preorder, node.isDefect = false) ∧
      ∀ filePath, Report.defectProblems filePath root =
        ((root.preorder.find? Node.isDefect).map fun node =>
          ⟨filePath, node.mark.row + 1, "Tree-sitter reported parse errors in file",
            .warning⟩).toList) := by
  refine ⟨?_, root.defectLine_eq, ?_⟩
  · intro turns enough
    refine defectLineWithin_eq ?_
    rwa [List.flatMap_singleton]
  · intro consistent
    refine ⟨consistent.defectLine_eq, ?_, consistent.defectProblems_eq⟩
    rw [consistent.defectLine_eq]
    cases found : root.preorder.find? Node.isDefect with
    | none =>
      have whole := List.find?_eq_none.mp found
      simpa [lineOf] using whole
    | some node =>
      have inside := List.mem_of_find?_eq_some found
      have defect := List.find?_some found
      simp only [lineOf, Nat.add_eq_zero_iff, Nat.one_ne_zero, and_false, false_iff, not_forall]
      exact ⟨node, inside, by simp [defect]⟩

/-- A field that lacks its semicolon stands before broken text, and a declaration without an error
before both. -/
def brokenField : Node :=
  let mark (type : String) (row : Nat) : Mark := { Mark.plain type none 0 0 with row }
  .node { mark "compilation_unit" 0 with hasError := true }
    [.node (mark "class_declaration" 1) [.node (mark "identifier" 1) []],
      .node { mark "field_declaration" 2 with hasError := true }
        [.node (mark "variable_declaration" 3) [],
          .node { mark ";" 4 with missing := true, hasError := true } []],
      .node { mark "ERROR" 5 with hasError := true } []]

theorem brokenField_first_defect :
    brokenField.Consistent ∧ brokenField.defectLine = 5 ∧
      defectLineWithin 8 [brokenField] = some 5 := by
  have consistent : brokenField.Consistent := by
    rw [Node.Consistent]
    decide
  have first : lineOf (brokenField.preorder.find? Node.isDefect) = 5 := by decide
  have count : brokenField.preorder.length < 8 := by decide
  obtain ⟨stops, _, right⟩ := defectLine_is_first brokenField
  have line : brokenField.defectLine = 5 := (right consistent).1.trans first
  refine ⟨consistent, line, ?_⟩
  rw [stops 8 count, line]

end ClassSketch.Concrete
