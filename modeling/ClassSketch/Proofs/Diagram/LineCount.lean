import ClassSketch.Proofs.Diagram.Shown

set_option autoImplicit false

namespace ClassSketch.Diagram

open ClassSketch.Model ClassSketch.Text

/-- Indentation is of spaces and tabs. -/
def IsIndentation (indent : String) : Prop := ∀ c ∈ indent.toList, isIndent c = true

theorem mem_repeatText {indent : String} {count : Nat} {c : Char}
    (inside : c ∈ (Emitter.repeatText indent count).toList) : c ∈ indent.toList := by
  induction count with
  | zero => cases inside
  | succ count ih =>
    rw [Emitter.repeatText, String.toList_append, List.mem_append] at inside
    rcases inside with earlier | here
    · exact ih earlier
    · exact here

theorem isLineEnd_of_isIndent {c : Char} (isSpace : isIndent c = true) : isLineEnd c = false := by
  simp only [isIndent, Bool.or_eq_true, beq_iff_eq] at isSpace
  rcases isSpace with rfl | rfl <;> decide

theorem unbroken_text_iff {indent : String} (blank : IsIndentation indent) (line : Line) :
    Unbroken (line.text indent).toList ↔ Unbroken line.stroke.text.toList := by
  have whole : Unbroken (Emitter.repeatText indent line.column).toList :=
    fun c inside => isLineEnd_of_isIndent (blank c (mem_repeatText inside))
  rw [Line.text, String.toList_append, unbroken_append]
  exact and_iff_right whole

theorem endsIn_text {fits : Char → Prop} {indent : String}
    (space : ∀ c ∈ indent.toList, fits c) {line : Line}
    (ends : EndsIn fits line.stroke.text.toList) : EndsIn fits (line.text indent).toList := by
  rw [Line.text, String.toList_append]
  refine endsIn_append ?_ ends
  intro c last
  exact space c (mem_repeatText (List.mem_of_getLast? last))

theorem Element.endsIn_noReturn {element : Element}
    (trailing : ∀ text ∈ element.trailing, EndsIn (· ≠ '\r') text.toList) :
    ∀ stroke ∈ element.strokes, EndsIn (· ≠ '\r') stroke.text.toList := by
  intro stroke inside
  have flat := element.endsIn (by decide) (by decide) (by decide) (by decide) trailing stroke inside
  cases stroke with
  | opening header => exact endsIn_of_getLast? (Element.getLast?_opening inside) (by decide)
  | closing => exact endsIn_of_getLast? rfl (by decide)
  | member text => exact flat rfl
  | edge text => exact flat rfl

/-- The lines that are written are whole exactly when all that the elements show is whole. -/
theorem unbroken_lines_iff {tree : Declaration} {indent : String} (blank : IsIndentation indent) :
    (∀ line ∈ linesFrom 0 (strokes tree), Unbroken (line.text indent).toList) ↔
      ∀ element ∈ elements tree, ∀ text ∈ element.shown, Unbroken text.toList := by
  simp only [unbroken_text_iff blank]
  constructor
  · intro whole element isElement
    refine element.unbroken_iff.mp ?_
    intro stroke inside
    have drawn := mem_strokes.mpr ⟨element, isElement, inside⟩
    rw [← map_stroke_linesFrom 0 (strokes tree)] at drawn
    obtain ⟨line, isLine, rfl⟩ := List.mem_map.mp drawn
    exact whole line isLine
  · intro whole line isLine
    obtain ⟨element, isElement, inside⟩ := mem_strokes.mp (stroke_mem_of_mem_linesFrom isLine)
    exact element.unbroken_iff.mpr (whole element isElement) line.stroke inside

theorem body_eq_lines (tree : Declaration) (indent : String) :
    (body tree indent).toList =
      ((linesFrom 0 (strokes tree)).map fun line => (line.text indent).toList).flatMap
        fun line => line ++ ['\n'] := by
  rw [body_toList, List.flatMap_map]

/-- A diagram has a line for each fact exactly when no text that it shows is broken, as long as no
text leaves a carriage return right before the end of its line. -/
theorem length_bodyLines_eq_facts_iff {tree : Declaration} {indent : String}
    (blank : IsIndentation indent)
    (trailing : ∀ element ∈ elements tree, ∀ text ∈ element.trailing,
      EndsIn (· ≠ '\r') text.toList) :
    (bodyLines tree indent).length = facts tree ↔
      ∀ element ∈ elements tree, ∀ text ∈ element.shown, Unbroken text.toList := by
  have count : ((linesFrom 0 (strokes tree)).map fun line => (line.text indent).toList).length =
      facts tree := by
    rw [List.length_map, length_linesFrom, length_strokes]
  rw [bodyLines, splitLines, List.length_map, body_eq_lines, ← count, length_splitLineChars_eq_iff,
    ← unbroken_lines_iff blank, List.forall_mem_map]
  intro text isText
  obtain ⟨line, isLine, rfl⟩ := List.mem_map.mp isText
  obtain ⟨element, isElement, inside⟩ := mem_strokes.mp (stroke_mem_of_mem_linesFrom isLine)
  have ends : EndsIn (· ≠ '\r') (line.text indent).toList := by
    refine endsIn_text ?_ (Element.endsIn_noReturn (trailing element isElement) _ inside)
    rintro c isSpace rfl
    exact absurd (blank '\r' isSpace) (by decide)
  intro last
  exact ends '\r' last rfl

/-- Where no text is broken, the lines of the diagram are those that were written. -/
theorem bodyLines_eq {tree : Declaration} {indent : String} (blank : IsIndentation indent)
    (whole : ∀ element ∈ elements tree, ∀ text ∈ element.shown, Unbroken text.toList) :
    bodyLines tree indent = (linesFrom 0 (strokes tree)).map (Line.text indent) := by
  have cut := splitLineChars_lines
    ((linesFrom 0 (strokes tree)).map fun line => (line.text indent).toList)
    (List.forall_mem_map.mpr ((unbroken_lines_iff blank).mpr whole))
  rw [bodyLines, splitLines, body_eq_lines, cut, List.map_map]
  refine List.map_congr_left fun line _ => ?_
  exact String.ofList_toList

/-- The frame of a document is a line before the diagram and a line behind it. -/
theorem splitLines_document (tree : Declaration) (indent : String) :
    splitLines (document tree indent) = "@startuml" :: bodyLines tree indent ++ ["@enduml"] := by
  have start (later : List Char) :
      splitLineChars (startLine.toList ++ later) = "@startuml".toList :: splitLineChars later := by
    have front : startLine.toList = "@startuml".toList ++ ['\n'] := rfl
    rw [front, List.append_assoc, List.singleton_append, splitLineChars_append,
      splitLineChars_unbroken _ (by decide), List.singleton_append]
  have final : splitLineChars endLine.toList = ["@enduml".toList] :=
    splitLineChars_unbroken "@enduml".toList (by decide)
  rw [splitLines, document_toList, List.append_assoc, start, body_eq_lines,
    splitLineChars_lines_append, final, ← body_eq_lines, bodyLines, splitLines]
  simp

end ClassSketch.Diagram
