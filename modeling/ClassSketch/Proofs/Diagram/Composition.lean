import ClassSketch.Proofs.Diagram.LineCount

set_option autoImplicit false

namespace ClassSketch.Diagram

open ClassSketch.Model ClassSketch.Text

/-- What a declaration adds to any text where so many blocks are open. -/
def drawnText (indent : String) (depth : Nat) (tree : Declaration) : String :=
  (Emitter.visit ⟨indent, depth, ""⟩ tree).text

theorem drawnText_toList (indent : String) (depth : Nat) (tree : Declaration) :
    (drawnText indent depth tree).toList =
      (linesFrom depth (strokes tree)).flatMap fun line => (line.text indent).toList ++ ['\n'] := by
  rw [drawnText, Emitter.visit, drawAll_text]
  rfl

theorem drawAll_indent (emitter : Emitter) (strokes : List Stroke) :
    (emitter.drawAll strokes).indent = emitter.indent := by
  induction strokes generalizing emitter with
  | nil => rfl
  | cons stroke rest ih =>
    have later := ih (emitter.draw stroke)
    have kept : (emitter.draw stroke).indent = emitter.indent := by rw [draw_eq]
    exact later.trans kept

theorem drawAll_depth (emitter : Emitter) (strokes : List Stroke) :
    (emitter.drawAll strokes).depth = depthBehind emitter.depth strokes := by
  induction strokes generalizing emitter with
  | nil => rfl
  | cons stroke rest ih =>
    have later := ih (emitter.draw stroke)
    have stepped : (emitter.draw stroke).depth = stroke.depthAfter emitter.depth := by rw [draw_eq]
    rw [stepped] at later
    exact later

/-- Drawing a declaration keeps the indent and the depth and adds a text that does not depend on
what the emitter holds. -/
theorem visit_eq (emitter : Emitter) (tree : Declaration) :
    emitter.visit tree =
      { emitter with text := emitter.text ++ drawnText emitter.indent emitter.depth tree } := by
  have indent : (emitter.visit tree).indent = emitter.indent := drawAll_indent emitter _
  have depth : (emitter.visit tree).depth = emitter.depth := by
    rw [Emitter.visit, drawAll_depth, depthBehind_strokes]
  have text : (emitter.visit tree).text =
      emitter.text ++ drawnText emitter.indent emitter.depth tree := by
    apply String.toList_inj.mp
    rw [Emitter.visit, drawAll_text, String.toList_append, drawnText_toList]
  calc emitter.visit tree
      = ⟨(emitter.visit tree).indent, (emitter.visit tree).depth, (emitter.visit tree).text⟩ := rfl
    _ = _ := by rw [indent, depth, text]

/-- Each tree adds what a fresh emitter at the same depth writes for it alone. -/
theorem visitInTurn_eq (emitter : Emitter) (trees : List Declaration) :
    visitInTurn emitter trees = trees.map (drawnText emitter.indent emitter.depth) := by
  induction trees generalizing emitter with
  | nil => rfl
  | cons tree rest ih =>
    have added : (emitter.visit tree).text.toList.drop emitter.text.length =
        (drawnText emitter.indent emitter.depth tree).toList := by
      rw [visit_eq, String.toList_append, ← String.length_toList, List.drop_left]
    have later := ih (emitter.visit tree)
    rw [visit_eq] at later
    rw [visitInTurn, added, String.ofList_toList, List.map_cons, visit_eq, later]

/-- The lines of a list of declarations are those of each of them, for every text that is written
ends its last line. -/
theorem splitLineChars_flatMap_body (indent : String) (members : List Declaration) :
    splitLineChars (members.flatMap fun member => (body member indent).toList) =
      members.flatMap fun member => splitLineChars (body member indent).toList := by
  induction members with
  | nil => rfl
  | cons first rest ih =>
    rw [List.flatMap_cons, List.flatMap_cons, ← ih]
    rw [body_eq_lines, splitLineChars_lines_append]

theorem bodyLines_unit (filePath : String) (members : List Declaration) (indent : String) :
    bodyLines (.unit filePath members) indent =
      members.flatMap fun member => bodyLines member indent := by
  have whole : (body (.unit filePath members) indent).toList =
      members.flatMap fun member => (body member indent).toList := by
    rw [body_toList, strokes, strokesOfAll_eq, linesFrom_flatMap, List.flatMap_assoc]
    simp only [body_toList]
  simp only [bodyLines, splitLines, whole, splitLineChars_flatMap_body, List.map_flatMap]

theorem document_eq (tree : Declaration) (indent : String) :
    document tree indent = startLine ++ body tree indent ++ endLine := by
  apply String.toList_inj.mp
  rw [document_toList, String.toList_append, String.toList_append]

/-- A drawing is composed of drawings: an emitter in any state gets back its depth and a text that
only the tree, the depth and the indent decide; trees drawn in turn are drawn as if each stood
alone; the lines of a unit are the lines of its members, whatever ends lines inside their texts;
and a document is the drawing in its frame, as text and as lines. -/
theorem drawing_composes (indent : String) :
    (∀ (depth : Nat) (held : String) (tree : Declaration),
      Emitter.visit ⟨indent, depth, held⟩ tree =
        ⟨indent, depth, held ++ drawnText indent depth tree⟩) ∧
    (∀ (held : String) (trees : List Declaration),
      visitInTurn ⟨indent, 0, held⟩ trees = trees.map fun tree => body tree indent) ∧
    (∀ (filePath : String) (members : List Declaration),
      bodyLines (.unit filePath members) indent =
        members.flatMap fun member => bodyLines member indent) ∧
    ∀ tree : Declaration,
      splitLines (document tree indent) = "@startuml" :: bodyLines tree indent ++ ["@enduml"] ∧
      document tree indent = "@startuml\n" ++ body tree indent ++ "@enduml\n" := by
  refine ⟨?_, ?_, ?_, ?_⟩
  · intro depth held tree
    exact visit_eq ⟨indent, depth, held⟩ tree
  · intro held trees
    exact visitInTurn_eq ⟨indent, 0, held⟩ trees
  · intro filePath members
    exact bodyLines_unit filePath members indent
  · intro tree
    exact ⟨splitLines_document tree indent, document_eq tree indent⟩

end ClassSketch.Diagram
