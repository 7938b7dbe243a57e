import ClassSketch.Outline.Unit
import ClassSketch.Proofs.Concrete.Gap

set_option autoImplicit false

namespace ClassSketch.Outline

open ClassSketch.Concrete ClassSketch.Model

variable (source : List UInt8)

@[simp] theorem strippedText_quiet (node : Node) :
    strippedText source node.quiet = strippedText source node := by
  rw [strippedText, strippedText, Node.text_quiet]

@[simp] theorem strippedText?_quiet (node : Option Node) :
    strippedText? source (node.map Node.quiet) = strippedText? source node := by
  cases node with
  | none => rfl
  | some found => exact strippedText_quiet source found

@[simp] theorem nameText_quiet (node : Node) :
    nameText source node.quiet = nameText source node := by
  rw [nameText, nameText, roleText, roleText, Node.field?_quiet]
  cases node.field? "name" with
  | none => rfl
  | some found => exact Node.text_quiet source found

theorem textsOf_quiet (nodes : List Node) :
    textsOf source (nodes.map Node.quiet) = textsOf source nodes := by
  induction nodes with
  | nil => rfl
  | cons first rest ih => rw [List.map_cons, textsOf, textsOf, strippedText_quiet, ih]

@[simp] theorem modifiers_quiet (node : Node) :
    modifiers source node.quiet = modifiers source node := by
  have kept := filter_quietAll (hasType_note (show "modifier" ≠ "comment" by decide)) node.children
  rw [modifiers, Node.children_quiet]
  exact (congrArg (textsOf source) kept).trans (textsOf_quiet source _)

@[simp] theorem itemsOf_quiet {type : String} (other : type ≠ "comment") (list : Option Node) :
    itemsOf type (list.map Node.quiet) = (itemsOf type list).map Node.quiet := by
  cases list with
  | none => rfl
  | some found =>
    rw [Option.map_some, itemsOf, Node.children_quiet]
    exact filter_quietAll (hasType_note other) found.children

theorem accessorKeywords_note (mark : Mark) (note : mark.isNote = true) :
    accessorKeywords.contains mark.type = false := by
  simp only [Mark.isNote, Bool.and_eq_true, beq_iff_eq] at note
  rw [note.1]
  decide

@[simp] theorem accessorKind_quiet (node : Node) :
    accessorKind source node.quiet = accessorKind source node := by
  have found := find?_quietAll accessorKeywords_note node.children
  have same : (node.quiet.children.find? fun child => accessorKeywords.contains child.type).map
        Node.type =
      (node.children.find? fun child => accessorKeywords.contains child.type).map Node.type := by
    rw [Node.children_quiet]
    refine (congrArg (Option.map Node.type) found).trans ?_
    rw [Option.map_map]
    exact Option.map_congr fun child _ => Node.type_quiet child
  rw [accessorKind, accessorKind, Node.field?_quiet, strippedText?_quiet, same]

theorem accessorsOf_quiet (nodes : List Node) :
    accessorsOf source (nodes.map Node.quiet) = accessorsOf source nodes := by
  induction nodes with
  | nil => rfl
  | cons first rest ih =>
    rw [List.map_cons, accessorsOf, accessorsOf, accessorKind_quiet, modifiers_quiet, ih]

@[simp] theorem accessors_quiet (list : Option Node) :
    accessors source (list.map Node.quiet) = accessors source list := by
  rw [accessors, itemsOf_quiet (by decide), accessorsOf_quiet, accessors]

theorem parametersFrom_quietAll (scan : ParameterScan) (nodes : List Node) :
    parametersFrom source scan (quietAll nodes) = parametersFrom source scan nodes := by
  induction nodes generalizing scan with
  | nil => rw [quietAll]
  | cons first rest ih =>
    rw [quietAll]
    split
    · rename_i note
      have isComment : (first.type == "comment") = true := by
        simp only [Mark.isNote, Bool.and_eq_true] at note
        exact note.1
      rw [ih, parametersFrom.eq_def source scan (first :: rest)]
      simp only [isComment, Bool.or_true, ↓reduceIte]
    · rw [parametersFrom.eq_def, parametersFrom.eq_def source scan (first :: rest)]
      simp only [Node.mark_quiet, Node.type_quiet, nameText_quiet, Node.field?_quiet,
        strippedText?_quiet, strippedText_quiet, ih]

@[simp] theorem parameters_quiet (node : Node) :
    parameters source node.quiet = parameters source node := by
  rw [parameters, parameters, Node.part?_quiet node _ (by decide)]
  cases node.part? "parameters" "parameter_list" with
  | none => rfl
  | some list =>
    rw [Option.map_some]
    simp only [Node.children_quiet, parametersFrom_quietAll]

@[simp] theorem method_quiet (node : Node) : method source node.quiet = method source node := by
  have returns : strippedText? source (node.quiet.field? "returns" <|> node.quiet.field? "type") =
      strippedText? source (node.field? "returns" <|> node.field? "type") := by
    rw [Node.field?_quiet, Node.field?_quiet]
    cases node.field? "returns" with
    | none => exact strippedText?_quiet source _
    | some found => exact strippedText_quiet source found
  rw [method, method, nameText_quiet, returns, parameters_quiet, modifiers_quiet]

@[simp] theorem constructor_quiet (node : Node) :
    constructor source node.quiet = constructor source node := by
  rw [constructor, constructor, nameText_quiet, parameters_quiet, modifiers_quiet]

@[simp] theorem declaratorName_quiet (node : Node) :
    declaratorName source node.quiet = declaratorName source node := by
  rw [declaratorName, declaratorName, Node.field?_quiet, Node.child?_quiet node (by decide)]
  cases node.field? "name" with
  | some name => exact Node.text_quiet source name
  | none =>
    cases node.child? "identifier" with
    | none => rfl
    | some name => exact Node.text_quiet source name

@[simp] theorem enumHeader_quiet (node : Node) :
    enumHeader source node.quiet = enumHeader source node := by
  rw [enumHeader, enumHeader, nameText_quiet, modifiers_quiet]

end ClassSketch.Outline
