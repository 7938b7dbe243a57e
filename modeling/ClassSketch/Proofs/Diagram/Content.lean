import ClassSketch.Proofs.Diagram.Line

set_option autoImplicit false

namespace ClassSketch.Diagram

open ClassSketch.Model

/-- A line that opens a block or shows a member. -/
def Line.isContent (line : Line) : Bool :=
  match line.stroke with
  | .opening _ | .member _ => true
  | .closing | .edge _ => false

def Line.isEdge (line : Line) : Bool :=
  match line.stroke with
  | .edge _ => true
  | .opening _ | .closing | .member _ => false

/-- The lines of what a declaration holds. Loose members are not drawn. -/
def drawnLines (depth : Nat) (loose : Bool) (members : List Declaration) : List Line :=
  (if loose then members.filter Declaration.isContainer else members).flatMap fun member =>
    linesFrom depth (strokes member)

theorem linesFrom_unit (depth : Nat) (filePath : String) (members : List Declaration) :
    linesFrom depth (strokes (.unit filePath members)) = drawnLines depth false members := by
  rw [strokes, strokesOfAll_eq, linesFrom_flatMap]
  rfl

theorem linesFrom_namespaceBlock (depth : Nat) (name : String) (members : List Declaration) :
    linesFrom depth (strokes (.namespaceBlock name members)) = drawnLines depth false members := by
  rw [strokes, strokesOfAll_eq, linesFrom_flatMap]
  rfl

theorem linesFrom_unsupported (depth : Nat) (kind name : String) (members : List Declaration) :
    linesFrom depth (strokes (.unsupported kind name members)) =
      drawnLines depth true members := by
  rw [strokes, strokesOfContainers_eq, linesFrom_flatMap]
  rfl

/-- Strokes that open and close no block are drawn at one depth. -/
theorem linesFrom_flat (depth : Nat) (strokes : List Stroke)
    (flat : ∀ stroke ∈ strokes, stroke.depthAfter depth = depth) :
    linesFrom depth strokes = strokes.map fun stroke => ⟨stroke.column depth, stroke⟩ := by
  induction strokes with
  | nil => rfl
  | cons first rest ih =>
    rw [List.forall_mem_cons] at flat
    rw [linesFrom, flat.1, ih flat.2, List.map_cons]

theorem linesFrom_edges (depth : Nat) (header : TypeHeader) :
    linesFrom depth (edges header) = (edges header).map (Line.mk 0) := by
  have edge (stroke : Stroke) (inside : stroke ∈ edges header) :
      stroke.depthAfter depth = depth ∧ stroke.column depth = 0 := by
    obtain ⟨_, base, _, rfl⟩ := mem_edges.mp inside
    exact ⟨rfl, rfl⟩
  rw [linesFrom_flat depth _ fun stroke inside => (edge stroke inside).1]
  refine List.map_congr_left fun stroke inside => ?_
  rw [(edge stroke inside).2]

theorem linesFrom_typeBlock (depth : Nat) (header : TypeHeader) (members : List Declaration) :
    linesFrom depth (strokes (.typeBlock header members)) =
      ⟨depth, .opening (openingLine header)⟩ :: drawnLines (depth + 1) false members ++
        ⟨depth, .closing⟩ :: (edges header).map (Line.mk 0) := by
  rw [strokes, strokesOfAll_eq, linesFrom_block, linesFrom_flatMap, linesFrom_edges]
  rfl

theorem linesFrom_enumBlock (depth : Nat) (header : EnumHeader) (members : List Declaration) :
    linesFrom depth (strokes (.enumBlock header members)) =
      ⟨depth, .opening (enumLine header)⟩ :: drawnLines (depth + 1) false members ++
        [⟨depth, .closing⟩] := by
  rw [strokes, strokesOfAll_eq, linesFrom_block, linesFrom_flatMap]
  rfl

theorem linesFrom_field (depth : Nat) (field : Field) :
    linesFrom depth (strokes (.field field)) =
      field.declared.map fun declarator => ⟨depth, .member (variableLine field declarator)⟩ := by
  rw [strokes, linesFrom_flat, List.map_map]
  · rfl
  · intro stroke inside
    obtain ⟨declarator, _, rfl⟩ := List.mem_map.mp inside
    rfl

end ClassSketch.Diagram
