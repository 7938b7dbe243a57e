import ClassSketch.Proofs.Outline.Spelling

set_option autoImplicit false

namespace ClassSketch.Outline

open ClassSketch.Concrete ClassSketch.Model

variable {source : List UInt8}

theorem strippedText_of_readable {node : Node} (readable : node.mark.unreadable = none) :
    strippedText source node = .ok (Text.strip (node.spelled source)) := by
  rw [strippedText, Node.text_of_readable readable]
  rfl

/-- Comments and other extras. -/
def IsPassed (node : Node) : Prop := node.mark.extra = true ∨ node.type = "comment"

/-- An unnamed node, which the grammar spells out. -/
structure IsToken (type : String) (node : Node) : Prop where
  unnamed : node.mark.named = false
  fits : node.type = type

/-- A named node of a type that says nothing to the scan. -/
structure IsPlain (node : Node) : Prop where
  named : node.mark.named = true
  kept : node.mark.extra = false
  other : node.type ∉ ["comment", "parameter", "parameter_array", "params"]

theorem parametersFrom_passed (scan : ParameterScan) {note : Node} (passed : IsPassed note)
    (rest : List Node) :
    parametersFrom source scan (note :: rest) = parametersFrom source scan rest := by
  rw [parametersFrom.eq_def]
  rcases passed with extra | comment
  · simp only [extra, Bool.true_or, ↓reduceIte]
  · simp only [comment, beq_self_eq_true, Bool.or_true, ↓reduceIte]

theorem parametersFrom_token (scan : ParameterScan) {type : String} {token : Node}
    (isToken : IsToken type token)
    (other : type ∉ ["parameter", "parameter_array", "params"]) (rest : List Node) :
    parametersFrom source scan (token :: rest) = parametersFrom source scan rest := by
  simp only [List.mem_cons, List.not_mem_nil, or_false, not_or] at other
  rw [parametersFrom.eq_def]
  simp only [isToken.fits, isToken.unnamed, beq_iff_eq, other, or_self, ↓reduceIte,
    Bool.or_eq_true, Bool.false_eq_true, ite_self]

theorem parametersFrom_keyword (scan : ParameterScan) {keyword : Node}
    (isToken : IsToken "params" keyword) (kept : keyword.mark.extra = false) (rest : List Node) :
    parametersFrom source scan (keyword :: rest) = parametersFrom source .afterKeyword rest := by
  rw [parametersFrom.eq_def]
  simp [isToken.fits, kept]

theorem parametersFrom_wrapped (scan : ParameterScan) {node : Node}
    (kept : node.mark.extra = false) (isParameter : node.type ∈ ["parameter", "parameter_array"])
    (rest : List Node) :
    parametersFrom source scan (node :: rest) = do
      let name ← nameText source node
      let type ← strippedText? source (node.field? "type")
      let others ← parametersFrom source scan rest
      return ⟨name, type⟩ :: others := by
  rw [parametersFrom.eq_def]
  simp only [List.mem_cons, List.not_mem_nil, or_false] at isParameter
  rcases isParameter with same | same <;> simp [same, kept]

/-- What a scan makes of a plain node depends on where it stands. -/
theorem parametersFrom_plain (scan : ParameterScan) {node : Node} (plain : IsPlain node)
    (rest : List Node) :
    parametersFrom source scan (node :: rest) = match scan with
      | .outside => parametersFrom source .outside rest
      | .afterKeyword => do
        let type ← strippedText source node
        parametersFrom source (.afterType type) rest
      | .afterType type => do
        let name ← strippedText source node
        let others ← parametersFrom source .outside rest
        return ⟨name, type⟩ :: others := by
  have other := plain.other
  simp only [List.mem_cons, List.not_mem_nil, or_false, not_or] at other
  rw [parametersFrom.eq_def]
  cases scan <;> simp [plain.kept, plain.named, other]

/-- One parameter of a list. A trailing array parameter has no node around its keyword, its type
and its name. -/
inductive ParameterItem where
  | wrapped (node : Node) (kept : node.mark.extra = false)
      (isParameter : node.type ∈ ["parameter", "parameter_array"])
  | group (keyword type name : Node) (isKeyword : IsToken "params" keyword)
      (kept : keyword.mark.extra = false) (plainType : IsPlain type) (plainName : IsPlain name)

namespace ParameterItem

def nodes : ParameterItem → List Node
  | wrapped node _ _ => [node]
  | group keyword type name _ _ _ _ => [keyword, type, name]

/-- The nodes whose texts are read. -/
def taken : ParameterItem → List Node
  | wrapped node _ _ => (node.field? "name").toList ++ (node.field? "type").toList
  | group _ type name _ _ _ _ => [type, name]

def read (source : List UInt8) : ParameterItem → Read Parameter
  | wrapped node _ _ => do
    let name ← nameText source node
    let type ← strippedText? source (node.field? "type")
    return ⟨name, type⟩
  | group _ type name _ _ _ _ => do
    let type ← strippedText source type
    let name ← strippedText source name
    return ⟨name, type⟩

def shown (source : List UInt8) : ParameterItem → Parameter
  | wrapped node _ _ =>
    { name := ((node.field? "name").map (Node.spelled source)).getD ""
      type := ((node.field? "type").map fun type => Text.strip (type.spelled source)).getD "" }
  | group _ type name _ _ _ _ =>
    { name := Text.strip (name.spelled source)
      type := Text.strip (type.spelled source) }

theorem read_eq_shown (item : ParameterItem)
    (readable : ∀ node ∈ item.taken, node.mark.unreadable = none) :
    item.read source = .ok (item.shown source) := by
  cases item with
  | wrapped node kept isParameter =>
    rw [taken, List.forall_mem_append] at readable
    have name : nameText source node =
        .ok (((node.field? "name").map (Node.spelled source)).getD "") := by
      rw [nameText, roleText]
      cases found : node.field? "name" with
      | none => rfl
      | some name => exact Node.text_of_readable (readable.1 name (by simp [found]))
    have type : strippedText? source (node.field? "type") =
        .ok (((node.field? "type").map fun type => Text.strip (type.spelled source)).getD "") := by
      cases found : node.field? "type" with
      | none => rfl
      | some type => exact strippedText_of_readable (readable.2 type (by simp [found]))
    rw [read, name, type]
    rfl
  | group keyword type name isKeyword kept plainType plainName =>
    rw [read, strippedText_of_readable (readable type (by simp [taken])),
      strippedText_of_readable (readable name (by simp [taken]))]
    rfl

/-- The scan reads a parameter and stands outside again. -/
theorem parametersFrom_nodes (item : ParameterItem) (rest : List Node) :
    parametersFrom source .outside (item.nodes ++ rest) = do
      let parameter ← item.read source
      let others ← parametersFrom source .outside rest
      return parameter :: others := by
  cases item with
  | wrapped node kept isParameter =>
    rw [nodes, List.singleton_append, parametersFrom_wrapped .outside kept isParameter, read]
    simp only [bind_assoc, pure_bind]
  | group keyword type name isKeyword kept plainType plainName =>
    simp only [nodes, List.cons_append, List.nil_append, parametersFrom_keyword _ isKeyword kept,
      parametersFrom_plain _ plainType, parametersFrom_plain _ plainName, read, bind_assoc,
      pure_bind]

end ParameterItem

/-- Attributes stand in front of a parameter, and commas between parameters. -/
inductive Separated : List ParameterItem → List Node → Prop
  | none : Separated [] []
  | last {attributes : List Node} {item : ParameterItem}
      (plain : ∀ node ∈ attributes, IsPlain node) :
      Separated [item] (attributes ++ item.nodes)
  | next {attributes nodes : List Node} {comma : Node} {item following : ParameterItem}
      {items : List ParameterItem} (plain : ∀ node ∈ attributes, IsPlain node)
      (isComma : IsToken "," comma) (later : Separated (following :: items) nodes) :
      Separated (item :: following :: items) (attributes ++ item.nodes ++ comma :: nodes)

inductive Enclosed (items : List ParameterItem) : List Node → Prop
  | parentheses {opening closing : Node} {nodes : List Node} (opens : IsToken "(" opening)
      (separated : Separated items nodes) (closes : IsToken ")" closing) :
      Enclosed items (opening :: nodes ++ [closing])

/-- Comments and other extras are put between the nodes. -/
inductive Strewn : List Node → List Node → Prop
  | none : Strewn [] []
  | keep {node : Node} {nodes more : List Node} (later : Strewn nodes more) :
      Strewn (node :: nodes) (node :: more)
  | note {node : Node} {nodes more : List Node} (passed : IsPassed node)
      (later : Strewn nodes more) : Strewn nodes (node :: more)

/-- The scan goes on behind an inserted node as it would have without it. -/
theorem parametersFrom_strewn {nodes more : List Node} (strewn : Strewn nodes more)
    (scan : ParameterScan) :
    parametersFrom source scan more = parametersFrom source scan nodes := by
  induction strewn generalizing scan with
  | none => rfl
  | keep later ih =>
    rw [parametersFrom.eq_def, parametersFrom.eq_def source scan (_ :: _)]
    simp only [ih]
  | note passed later ih => rw [parametersFrom_passed scan passed, ih]

theorem parametersFrom_attributes {attributes : List Node}
    (plain : ∀ node ∈ attributes, IsPlain node) (rest : List Node) :
    parametersFrom source .outside (attributes ++ rest) = parametersFrom source .outside rest := by
  induction attributes with
  | nil => rfl
  | cons first others ih =>
    rw [List.forall_mem_cons] at plain
    rw [List.cons_append, parametersFrom_plain .outside plain.1]
    exact ih plain.2

theorem parametersFrom_separated {items : List ParameterItem} {nodes : List Node}
    (separated : Separated items nodes) {closing : Node} (closes : IsToken ")" closing) :
    parametersFrom source .outside (nodes ++ [closing]) =
      items.mapM (ParameterItem.read source) := by
  have ends : parametersFrom source .outside [closing] = .ok [] :=
    parametersFrom_token .outside closes (by decide) []
  induction separated with
  | none => exact ends
  | @last attributes item plain =>
    rw [List.append_assoc, parametersFrom_attributes plain, item.parametersFrom_nodes, ends,
      List.mapM_cons]
    rfl
  | @next attributes nodes comma item following items plain isComma later ih =>
    rw [List.append_assoc, List.append_assoc, parametersFrom_attributes plain, List.cons_append,
      item.parametersFrom_nodes, parametersFrom_token .outside isComma (by decide), ih]
    exact List.mapM_cons.symm

theorem mapM_eq_ok_map {α β : Type} {read : α → Read β} {made : α → β} {items : List α}
    (each : ∀ item ∈ items, read item = .ok (made item)) :
    items.mapM read = .ok (items.map made) := by
  induction items with
  | nil => rfl
  | cons item rest ih =>
    rw [List.forall_mem_cons] at each
    rw [List.mapM_cons, each.1, ih each.2]
    rfl

/-- A list of parameters gives one for each item, in order, with the texts of its name and type. -/
theorem parameters_of_enclosed {node list : Node} {items : List ParameterItem} {nodes : List Node}
    (found : node.part? "parameters" "parameter_list" = some list)
    (enclosed : Enclosed items nodes) (strewn : Strewn nodes list.children)
    (source : List UInt8) :
    parameters source node = items.mapM (ParameterItem.read source) ∧
      ((∀ item ∈ items, ∀ taken ∈ item.taken, taken.mark.unreadable = none) →
        parameters source node = .ok (items.map (ParameterItem.shown source))) := by
  have whole : parameters source node = items.mapM (ParameterItem.read source) := by
    rw [parameters, found]
    refine (parametersFrom_strewn strewn .outside).trans ?_
    cases enclosed with
    | parentheses opens separated closes =>
      rw [List.cons_append, parametersFrom_token .outside opens (by decide)]
      exact parametersFrom_separated separated closes
  refine ⟨whole, fun readable => whole.trans (mapM_eq_ok_map fun item inside => ?_)⟩
  exact item.read_eq_shown (readable item inside)

def tokenAt (type : String) (start stop : Nat) : Node :=
  .node { Mark.plain type none start stop with named := false } []

/-- `int x`, behind an opening parenthesis and an attribute. -/
def wrappedX : ParameterItem :=
  .wrapped (.plain "parameter" none 4 9
    [.plain "predefined_type" (some "type") 4 7 [], .plain "identifier" (some "name") 8 9 []])
    rfl (by decide)

/-- `params T[] xs` with a comment behind the keyword. -/
def groupXs : ParameterItem :=
  .group (tokenAt "params" 11 17) (.plain "array_type" none 24 27 [])
    (.plain "identifier" none 28 30 []) ⟨rfl, rfl⟩ rfl ⟨rfl, rfl, by decide⟩ ⟨rfl, rfl, by decide⟩

def commentedMethod : Node :=
  .plain "method_declaration" none 0 31 [.plain "parameter_list" (some "parameters") 0 31
    ([tokenAt "(" 0 1, .plain "attribute_list" none 1 4 []] ++ wrappedX.nodes ++
      [tokenAt "," 9 10, tokenAt "params" 11 17,
        .node { Mark.plain "comment" none 18 23 with extra := true } [],
        .plain "array_type" none 24 27 [], .plain "identifier" none 28 30 [], tokenAt ")" 30 31])]

theorem commentedMethod_has_both_parameters :
    parameters "([A]int x, params /*c*/ T[] xs)".toUTF8.toList commentedMethod =
      .ok [⟨"x", "int"⟩, ⟨"xs", "T[]"⟩] := by
  have separated : Separated [wrappedX, groupXs]
      ([.plain "attribute_list" none 1 4 []] ++ wrappedX.nodes ++ tokenAt "," 9 10 ::
        ([] ++ groupXs.nodes)) := by
    refine .next ?_ ⟨rfl, rfl⟩ (.last (by simp))
    intro node inside
    rw [List.mem_singleton.mp inside]
    exact ⟨rfl, rfl, by decide⟩
  have enclosed : Enclosed [wrappedX, groupXs]
      (tokenAt "(" 0 1 :: _ ++ [tokenAt ")" 30 31]) :=
    .parentheses ⟨rfl, rfl⟩ separated ⟨rfl, rfl⟩
  refine ((parameters_of_enclosed rfl enclosed ?_ _).2 ?_).trans
    (congrArg Except.ok (by decide +kernel))
  · exact .keep (.keep (.keep (.keep (.keep (.note (.inl rfl) (.keep (.keep (.keep .none))))))))
  · decide

end ClassSketch.Outline
