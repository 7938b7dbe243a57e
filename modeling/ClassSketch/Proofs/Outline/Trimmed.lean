import ClassSketch.Proofs.Diagram.LineCount
import ClassSketch.Proofs.Outline.WellFormed

set_option autoImplicit false

namespace ClassSketch.Outline

open ClassSketch.Concrete ClassSketch.Model ClassSketch.Diagram ClassSketch.Text

/-- The texts that lines may end in are trimmed. -/
def TrimmedTree (tree : Declaration) : Prop :=
  ∀ element ∈ elements tree, ∀ text ∈ element.trailing, Trimmed text.toList

theorem trimmed_literalTexts {value : Option Expression} (neat : ∀ made ∈ value, made.Neat) :
    ∀ text ∈ literalTexts value, Trimmed text.toList := by
  cases value with
  | none => exact List.forall_mem_nil _
  | some made =>
    intro text inside
    rw [literalTexts] at inside
    split at inside
    · cases List.mem_singleton.mp inside
      exact (stripped_iff.mp (neat made rfl).text).2
    · cases inside

theorem trimmed_flatMap {members : List Declaration}
    (each : ∀ member ∈ members, TrimmedTree member) :
    ∀ element ∈ members.flatMap elements, ∀ text ∈ element.trailing, Trimmed text.toList := by
  intro element inside
  obtain ⟨member, isMember, inside⟩ := List.mem_flatMap.mp inside
  exact each member isMember element inside

theorem trimmed_typeHeader {header : TypeHeader} (neat : header.Neat) :
    ∀ text ∈ (Element.typeBlock header).trailing, Trimmed text.toList := by
  intro text inside
  rw [Element.trailing] at inside
  split at inside
  · cases inside
  · exact (stripped_iff.mp (neat.baseTypes text inside).2).2

theorem trimmed_field {field : Field} (neat : field.Neat) : TrimmedTree (.field field) := by
  intro element inside
  rw [elements] at inside
  obtain ⟨declarator, isDeclared, rfl⟩ := List.mem_map.mp inside
  have values := trimmed_literalTexts (neat.declared declarator isDeclared).initializer
  exact List.forall_mem_cons.mpr ⟨(stripped_iff.mp neat.type).2, values⟩

/-- An enum with members ends its lines in nothing that was read. -/
theorem trimmed_enumBlock (header : EnumHeader) (members : List EnumMember) :
    TrimmedTree (.enumBlock header (members.map .enumMember)) := by
  intro element inside
  rw [elements, elementsOfAll_eq] at inside
  rcases List.mem_cons.mp inside with rfl | inside
  · intro text none
    cases none
  · obtain ⟨_, isMember, inside⟩ := List.mem_flatMap.mp inside
    obtain ⟨member, _, rfl⟩ := List.mem_map.mp isMember
    cases List.mem_singleton.mp inside
    intro text none
    cases none

theorem trimmed_of_isMember {tree : Declaration} (neat : tree.IsMember) : TrimmedTree tree := by
  induction neat with
  | namespaceBlock name inner ih =>
    intro element inside
    rw [elements, elementsOfAll_eq] at inside
    exact trimmed_flatMap ih element inside
  | typeBlock neat inner ih =>
    intro element inside
    rw [elements, elementsOfAll_eq] at inside
    rcases List.mem_cons.mp inside with rfl | inside
    · exact trimmed_typeHeader neat
    · exact trimmed_flatMap ih element inside
  | enumBlock => exact trimmed_enumBlock _ _
  | field neat => exact trimmed_field neat
  | property neat =>
    intro element inside
    cases List.mem_singleton.mp inside
    exact trimmed_literalTexts neat.initializer
  | method neat =>
    intro element inside
    cases List.mem_singleton.mp inside
    exact List.forall_mem_singleton.mpr (stripped_iff.mp neat.returnType).2
  | constructor =>
    intro element inside
    cases List.mem_singleton.mp inside
    intro text none
    cases none
  | unsupported name shapeless inner ih =>
    intro element inside
    rw [elements, elementsOfContainers_eq] at inside
    refine trimmed_flatMap (fun member isMember => ?_) element inside
    exact ih member (List.mem_filter.mp isMember).1

theorem trimmed_unit {source : List UInt8} {filePath : String} {root : Node} {tree : Declaration}
    (built : unit source filePath root = .ok tree) : TrimmedTree tree := by
  cases wellFormed_unit built with
  | unit filePath inner =>
    intro element inside
    rw [elements, elementsOfAll_eq] at inside
    exact trimmed_flatMap (fun member isMember => trimmed_of_isMember (inner member isMember))
      element inside

/-- The diagram of a built unit has a line for each fact exactly when no text that it shows is
broken. -/
theorem length_unit_lines_eq_facts_iff {source : List UInt8} {filePath : String} {root : Node}
    {tree : Declaration} {indent : String} (built : unit source filePath root = .ok tree)
    (blank : IsIndentation indent) :
    (bodyLines tree indent).length = facts tree ↔
      ∀ element ∈ elements tree, ∀ text ∈ element.shown, Unbroken text.toList := by
  refine length_bodyLines_eq_facts_iff blank ?_
  intro element inside text isTrailing
  refine (trimmed_unit built element inside text isTrailing).imp ?_
  rintro c solid rfl
  exact absurd solid (by decide)

/-- A class `A` with a field, whose type ends at an offset and whose name stands behind it. -/
def fieldOfType (stop : Nat) : Node :=
  let declarator := Node.plain "variable_declarator" none (stop + 1) (stop + 2)
    [.plain "identifier" (some "name") (stop + 1) (stop + 2) []]
  let declared := Node.plain "variable_declaration" none 10 (stop + 2)
    [.plain "generic_name" (some "type") 10 stop [], declarator]
  .plain "compilation_unit" none 0 (stop + 5) [.plain "class_declaration" none 0 (stop + 5)
    [.plain "identifier" (some "name") 6 7 [], .plain "declaration_list" (some "body") 8 (stop + 5)
      [.plain "field_declaration" none 10 (stop + 3) [declared]]]]

theorem length_lines_of_unbroken_field :
    ∃ tree, unit "class A { List<int> x; }".toUTF8.toList "" (fieldOfType 19) = .ok tree ∧
      IsIndentation "  " ∧ (bodyLines tree "  ").length = facts tree := by
  have blank : IsIndentation "  " := by simp [IsIndentation, isIndent]
  have whole : (unit "class A { List<int> x; }".toUTF8.toList "" (fieldOfType 19)).toOption.map
      (fun tree => (elements tree).all fun element => element.shown.all fun text =>
        decide (Unbroken text.toList)) = some true := by
    decide +kernel
  cases built : unit "class A { List<int> x; }".toUTF8.toList "" (fieldOfType 19) with
  | error failure =>
    rw [built] at whole
    cases whole
  | ok tree =>
    rw [built] at whole
    refine ⟨tree, rfl, blank, (length_unit_lines_eq_facts_iff built blank).mpr ?_⟩
    intro element isElement text isShown
    have shown := List.all_eq_true.mp (Option.some.inj whole) element isElement
    exact of_decide_eq_true (List.all_eq_true.mp shown text isShown)

/-- A type that is written on two lines breaks the line of its field. -/
theorem broken_type_breaks_line :
    ¬ ∀ (source : List UInt8) (filePath : String) (root : Node) (tree : Declaration)
        (indent : String), unit source filePath root = .ok tree → IsIndentation indent →
      (bodyLines tree indent).length = facts tree := by
  intro all
  let source := "class A \x7b Map<string,\n int> x; \x7d".toUTF8.toList
  have counts : (unit source "" (fieldOfType 27)).toOption.map
      (fun tree => ((bodyLines tree "").length, facts tree)) = some (4, 3) := by
    decide +kernel
  cases built : unit source "" (fieldOfType 27) with
  | error failure =>
    rw [built] at counts
    cases counts
  | ok tree =>
    have same := all _ _ _ tree "" built (by simp [IsIndentation])
    rw [built] at counts
    injection counts with counts
    injection counts with lines known
    omega

end ClassSketch.Outline
