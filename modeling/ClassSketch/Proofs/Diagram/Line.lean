import ClassSketch.Diagram.Document

set_option autoImplicit false

namespace ClassSketch.Diagram

open ClassSketch.Model

/-- The text that a stroke puts on its line. -/
def Stroke.text : Stroke → String
  | .opening header => header
  | .closing => "\x7d"
  | .member text => text
  | .edge text => text

/-- How far the line of a stroke is indented where so many blocks are open. -/
def Stroke.column (depth : Nat) : Stroke → Nat
  | .opening _ => depth
  | .closing => depth - 1
  | .member _ => depth
  | .edge _ => 0

/-- How many blocks are open behind a stroke. -/
def Stroke.depthAfter (depth : Nat) : Stroke → Nat
  | .opening _ => depth + 1
  | .closing => depth - 1
  | .member _ => depth
  | .edge _ => depth

def Stroke.isBlock : Stroke → Bool
  | .opening _ | .closing => true
  | .member _ | .edge _ => false

structure Line where
  column : Nat
  stroke : Stroke
  deriving DecidableEq, Repr

def Line.text (indent : String) (line : Line) : String :=
  Emitter.repeatText indent line.column ++ line.stroke.text

/-- The lines that strokes write where so many blocks are open. -/
def linesFrom (depth : Nat) : List Stroke → List Line
  | [] => []
  | stroke :: rest => ⟨stroke.column depth, stroke⟩ :: linesFrom (stroke.depthAfter depth) rest

def depthBehind (depth : Nat) (strokes : List Stroke) : Nat :=
  strokes.foldl Stroke.depthAfter depth

theorem linesFrom_append (depth : Nat) (first second : List Stroke) :
    linesFrom depth (first ++ second) =
      linesFrom depth first ++ linesFrom (depthBehind depth first) second := by
  induction first generalizing depth with
  | nil => rfl
  | cons stroke rest ih => simp only [List.cons_append, linesFrom, ih, depthBehind, List.foldl_cons]

theorem depthBehind_append (depth : Nat) (first second : List Stroke) :
    depthBehind depth (first ++ second) = depthBehind (depthBehind depth first) second :=
  List.foldl_append

/-- Strokes that open and close no block leave the depth. -/
theorem depthBehind_flat (depth : Nat) (strokes : List Stroke)
    (flat : ∀ stroke ∈ strokes, stroke.depthAfter depth = depth) :
    depthBehind depth strokes = depth := by
  induction strokes with
  | nil => rfl
  | cons stroke rest ih =>
    rw [List.forall_mem_cons] at flat
    have kept := ih flat.2
    simpa only [depthBehind, List.foldl_cons, flat.1] using kept

theorem edges_eq (header : TypeHeader) :
    edges header = if header.kind = .structKind then []
      else header.baseTypes.map fun base => .edge (edgeLine header.name base) := by
  unfold edges
  cases header.kind <;> rfl

theorem mem_edges {header : TypeHeader} {stroke : Stroke} :
    stroke ∈ edges header ↔ header.kind ≠ .structKind ∧
      ∃ base ∈ header.baseTypes, stroke = .edge (edgeLine header.name base) := by
  rw [edges_eq]
  split
  · rename_i struct
    simp [struct]
  · rename_i shown
    simp [shown, eq_comm]

theorem depthBehind_edges (depth : Nat) (header : TypeHeader) :
    depthBehind depth (edges header) = depth := by
  apply depthBehind_flat
  intro stroke inside
  obtain ⟨_, base, _, rfl⟩ := mem_edges.mp inside
  rfl

theorem depthBehind_flatMap (depth : Nat) (members : List Declaration)
    (each : ∀ member ∈ members, depthBehind depth (strokes member) = depth) :
    depthBehind depth (members.flatMap strokes) = depth := by
  induction members with
  | nil => rfl
  | cons first rest ih =>
    rw [List.forall_mem_cons] at each
    rw [List.flatMap_cons, depthBehind_append, each.1, ih each.2]

/-- Every block that a declaration opens is closed by it too. -/
theorem depthBehind_strokes (depth : Nat) (tree : Declaration) :
    depthBehind depth (strokes tree) = depth := by
  induction tree generalizing depth with
  | unit _ members ih | namespaceBlock _ members ih =>
    rw [strokes, strokesOfAll_eq]
    exact depthBehind_flatMap depth members fun member inside => ih member inside depth
  | typeBlock header members ih =>
    have inner := depthBehind_flatMap (depth + 1) members
      fun member inside => ih member inside (depth + 1)
    rw [strokes, strokesOfAll_eq, List.cons_append, ← List.singleton_append, depthBehind_append,
      depthBehind_append]
    change depthBehind (depthBehind (depthBehind (depth + 1) _) [.closing]) (edges header) = depth
    rw [inner]
    exact depthBehind_edges depth header
  | enumBlock header members ih =>
    have inner := depthBehind_flatMap (depth + 1) members
      fun member inside => ih member inside (depth + 1)
    rw [strokes, strokesOfAll_eq, List.cons_append, ← List.singleton_append, depthBehind_append,
      depthBehind_append]
    change depthBehind (depthBehind (depth + 1) _) [.closing] = depth
    rw [inner]
    rfl
  | enumMember member => rfl
  | field field =>
    rw [strokes]
    apply depthBehind_flat
    intro stroke inside
    obtain ⟨declarator, _, rfl⟩ := List.mem_map.mp inside
    rfl
  | property property => rfl
  | method method => rfl
  | constructor constructor => rfl
  | unsupported _ _ members ih =>
    rw [strokes, strokesOfContainers_eq]
    exact depthBehind_flatMap depth _
      fun member inside => ih member (List.mem_filter.mp inside).1 depth
  | loose part => rfl

theorem linesFrom_strokes_append (depth : Nat) (tree : Declaration) (rest : List Stroke) :
    linesFrom depth (strokes tree ++ rest) =
      linesFrom depth (strokes tree) ++ linesFrom depth rest := by
  rw [linesFrom_append, depthBehind_strokes]

theorem linesFrom_flatMap (depth : Nat) (members : List Declaration) :
    linesFrom depth (members.flatMap strokes) =
      members.flatMap fun member => linesFrom depth (strokes member) := by
  induction members with
  | nil => rfl
  | cons first rest ih =>
    rw [List.flatMap_cons, linesFrom_strokes_append, ih, List.flatMap_cons]

/-- The lines of a block and of what is drawn behind it. -/
theorem linesFrom_block (depth : Nat) (header : String) (members : List Declaration)
    (behind : List Stroke) :
    linesFrom depth (.opening header :: members.flatMap strokes ++ .closing :: behind) =
      ⟨depth, .opening header⟩ :: linesFrom (depth + 1) (members.flatMap strokes) ++
        ⟨depth, .closing⟩ :: linesFrom depth behind := by
  have inner : depthBehind (depth + 1) (members.flatMap strokes) = depth + 1 :=
    depthBehind_flatMap (depth + 1) members fun member _ => depthBehind_strokes (depth + 1) member
  rw [List.cons_append, linesFrom, linesFrom_append, Stroke.depthAfter, inner, linesFrom]
  rfl

theorem length_linesFrom (depth : Nat) (strokes : List Stroke) :
    (linesFrom depth strokes).length = strokes.length := by
  induction strokes generalizing depth with
  | nil => rfl
  | cons stroke rest ih => simp only [linesFrom, List.length_cons, ih]

theorem map_stroke_linesFrom (depth : Nat) (strokes : List Stroke) :
    (linesFrom depth strokes).map Line.stroke = strokes := by
  induction strokes generalizing depth with
  | nil => rfl
  | cons stroke rest ih => simp only [linesFrom, List.map_cons, ih]

theorem stroke_mem_of_mem_linesFrom {depth : Nat} {strokes : List Stroke} {line : Line}
    (inside : line ∈ linesFrom depth strokes) : line.stroke ∈ strokes := by
  rw [← map_stroke_linesFrom depth strokes]
  exact List.mem_map_of_mem inside

theorem draw_eq (emitter : Emitter) (stroke : Stroke) :
    emitter.draw stroke =
      { emitter with
        depth := stroke.depthAfter emitter.depth
        text := emitter.text ++
          (Line.text emitter.indent ⟨stroke.column emitter.depth, stroke⟩ ++ "\n") } := by
  cases stroke <;>
    simp [Emitter.draw, Emitter.write, Emitter.writeFlush, Emitter.enter, Emitter.exit,
      Emitter.repeatText, Line.text, Stroke.text, Stroke.column, Stroke.depthAfter,
      String.append_assoc]

/-- Drawing adds the lines of the strokes, each with a line feed behind it. -/
theorem drawAll_text (emitter : Emitter) (strokes : List Stroke) :
    (emitter.drawAll strokes).text.toList =
      emitter.text.toList ++ (linesFrom emitter.depth strokes).flatMap fun line =>
        (line.text emitter.indent).toList ++ ['\n'] := by
  induction strokes generalizing emitter with
  | nil => simp [Emitter.drawAll, linesFrom]
  | cons stroke rest ih =>
    have later := ih (emitter.draw stroke)
    have feed : "\n".toList = ['\n'] := rfl
    simp only [draw_eq, String.toList_append, feed] at later
    simpa only [Emitter.drawAll, List.foldl_cons, linesFrom, List.flatMap_cons, draw_eq,
      List.append_assoc] using later

theorem body_toList (tree : Declaration) (indent : String) :
    (body tree indent).toList = (linesFrom 0 (strokes tree)).flatMap fun line =>
      (line.text indent).toList ++ ['\n'] := by
  rw [body, Emitter.visit, drawAll_text]
  simp [Emitter.start]

/-- The frame of a document stands around the drawing. -/
theorem document_toList (tree : Declaration) (indent : String) :
    (document tree indent).toList =
      startLine.toList ++ (body tree indent).toList ++ endLine.toList := by
  rw [document, String.toList_append, Emitter.visit, drawAll_text, body_toList]
  rfl

end ClassSketch.Diagram
