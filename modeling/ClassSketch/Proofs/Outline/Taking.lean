import ClassSketch.Proofs.Concrete.Agreement
import ClassSketch.Proofs.Outline.Quiet
import ClassSketch.Proofs.Outline.Reachable

set_option autoImplicit false

namespace ClassSketch.Outline

open ClassSketch.Concrete ClassSketch.Model

/-- The nodes hold neither a clause with a value nor a value behind an equals sign. -/
def Undecided (nodes : List Node) : Prop :=
  (∀ node ∈ nodes, node.type ≠ "equals_value_clause") ∧ valueAfterSign false nodes = none

/-- The gaps where a comment becomes the assigned value: behind the equals sign, where no value
has come yet, and in the clause, where no named node has come yet. -/
inductive TakesValue : Gap → Prop
  | behindSign {before after : List Node} (undecided : Undecided before)
      (sign : ∃ node ∈ before, node.type = "=") : TakesValue (.here before after)
  | inClause {before front rear after : List Node} {mark : Mark} (undecided : Undecided before)
      (isClause : mark.type = "equals_value_clause")
      (unnamed : ∀ node ∈ front, node.mark.named = false) :
      TakesValue (.within before mark (.here front rear) after)

/-- The gaps where a comment becomes the type of a base with constructor arguments: no child is
marked as the type, and no named node has come yet. -/
inductive TakesBase : Mark → Gap → Prop
  | untyped {mark : Mark} {early late : List Node}
      (called : mark.type = "primary_constructor_base_type")
      (free : ((Gap.here early late).tree mark []).field? "type" = none)
      (unnamed : ∀ node ∈ early, node.mark.named = false) : TakesBase mark (.here early late)

/-- What is read in a tree: the value assigned in a node, or the base that a node names. -/
inductive Reading where
  | value (node : Node)
  | base (node : Node)

/-- The text of a base, or of its type when it has constructor arguments. -/
def baseText (source : List UInt8) (node : Node) : Read String := do
  let base ← baseNode node
  strippedText source base

theorem baseText_plain {source : List UInt8} {node : Node}
    (plain : node.type ≠ "primary_constructor_base_type") :
    baseText source node = strippedText source node := by
  rw [baseText, baseNode, if_neg (by simpa using plain)]
  rfl

theorem baseText_called {source : List UInt8} {node : Node}
    (called : node.type = "primary_constructor_base_type") :
    baseText source node = match node.field? "type" <|> node.namedChildren.head? with
      | some type => strippedText source type
      | none => .error .missingBase := by
  rw [baseText, baseNode, if_pos (by simpa using called)]
  cases node.field? "type" <|> node.namedChildren.head? <;> rfl

/-- The comment in place of what is read makes no difference. -/
def Reading.Matches (source : List UInt8) (comment : Node) : Reading → Prop
  | .value node => expression? source (assignedValue? node) = expression? source (some comment)
  | .base node => baseText source node = strippedText source comment

/-- The gaps where a declaration of a form takes a comment for a value or a base, and what it reads
there without the comment. -/
inductive TakesOwn : Form → Mark → Gap → Reading → Prop
  | property {mark : Mark} {gap : Gap} (free : (gap.tree mark []).field? "value" = none)
      (listed : ((gap.tree mark []).part? "accessors" "accessor_list").isSome = true)
      (takes : TakesValue gap) : TakesOwn .property mark gap (.value (gap.tree mark []))
  | declarator {mark list item : Mark} {before front rear after : List Node} {gap : Gap}
      (picked : ((Gap.within before list (.within front item gap rear) after).tree mark
        []).childPlace? "variable_declaration" = some before.length)
      (isDeclarator : item.type = "variable_declarator") (takes : TakesValue gap) :
      TakesOwn .field mark (.within before list (.within front item gap rear) after)
        (.value (gap.tree item []))
  | enumMember {mark list item : Mark} {before front rear after : List Node} {gap : Gap}
      (picked : ((Gap.within before list (.within front item gap rear) after).tree mark
        []).partPlace? "body" "enum_member_declaration_list" = some before.length)
      (isMember : item.type = "enum_member_declaration")
      (free : (gap.tree item []).field? "value" = none) (takes : TakesValue gap) :
      TakesOwn .enum mark (.within before list (.within front item gap rear) after)
        (.value (gap.tree item []))
  | base {mark list item : Mark} {kind : TypeKind} {before front rear after : List Node} {gap : Gap}
      (picked : ((Gap.within before list (.within front item gap rear) after).tree mark
        []).childPlace? "base_list" = some before.length)
      (names : isBase (gap.tree item []) = true) (takes : TakesBase item gap) :
      TakesOwn (.type kind) mark (.within before list (.within front item gap rear) after)
        (.base (gap.tree item []))

/-- The same in a declaration and in those that its body holds. -/
inductive Takes : Mark → Gap → Reading → Prop
  | own {mark : Mark} {gap : Gap} {reading : Reading} {form : Form}
      (made : Form.ofType? mark.type = some form) (takes : TakesOwn form mark gap reading) :
      Takes mark gap reading
  | held {mark body item : Mark} {before front rear after : List Node} {gap : Gap}
      {reading : Reading}
      (picked : bodyPlace? ((Gap.within before body (.within front item gap rear) after).tree mark
        []) = some before.length)
      (inner : Takes item gap reading) :
      Takes mark (.within before body (.within front item gap rear) after) reading

/-- The same below the root, where a file scoped namespace opens a list of its own. -/
inductive TakesAtTop : Gap → Reading → Prop
  | plain {mark : Mark} {before after : List Node} {gap : Gap} {reading : Reading}
      (plain : mark.type ≠ "file_scoped_namespace_declaration") (inner : Takes mark gap reading) :
      TakesAtTop (.within before mark gap after) reading
  | fileScoped {mark item : Mark} {before front rear after : List Node} {gap : Gap}
      {reading : Reading} (opens : mark.type = "file_scoped_namespace_declaration")
      (inner : Takes item gap reading) :
      TakesAtTop (.within before mark (.within front item gap rear) after) reading

/-- A scan that has decided stays as it is, and one that has not goes on. -/
theorem valueAfterSign_append (sign : Bool) (nodes rest : List Node) :
    valueAfterSign sign (nodes ++ rest) =
      if (∀ node ∈ nodes, node.type ≠ "equals_value_clause") ∧ valueAfterSign sign nodes = none then
        valueAfterSign (sign || nodes.any fun node => node.type == "=") rest
      else valueAfterSign sign nodes := by
  induction nodes generalizing sign with
  | nil => simp [valueAfterSign]
  | cons first others ih =>
    rw [List.cons_append, valueAfterSign, valueAfterSign]
    by_cases clause : first.type = "equals_value_clause"
    · simp [clause]
    · by_cases isSign : first.type = "="
      · simp [isSign, ih]
      · by_cases found : sign = true ∧ first.mark.named = true
        · simp [clause, isSign, found]
        · have passed : (sign && first.mark.named) = false := by
            simpa using found
          have noSign : (first.type == "=") = false := by simpa using isSign
          simp [clause, noSign, passed, ih]

/-- The first named node after some others is the next one, when none of them is named. -/
theorem head?_namedChildren_here {mark : Mark} {early late : List Node} {leaf : Node}
    (named : leaf.mark.named = true) (unnamed : ∀ node ∈ early, node.mark.named = false) :
    ((Gap.here early late).tree mark [leaf]).namedChildren.head? = some leaf := by
  have nothing : early.filter (fun node => node.mark.named) = [] := by
    rw [List.filter_eq_nil_iff]
    intro node inside
    simp [unnamed node inside]
  simp [Node.namedChildren, nothing, named]

theorem mark_head?_namedChildren {gap : Gap} {mark : Mark} {leaf : Node}
    (kept : ∀ early late, gap = .here early late → ∃ node ∈ early, node.mark.named = true) :
    (gap.tree mark [leaf]).namedChildren.head?.map Node.mark =
      (gap.tree mark []).namedChildren.head?.map Node.mark := by
  simp only [Node.namedChildren, List.head?_filter]
  cases gap with
  | here early late =>
    obtain ⟨node, inside, named⟩ := kept early late rfl
    have found : (early.find? fun node => node.mark.named).isSome = true := by
      rw [List.find?_isSome]
      exact ⟨node, inside, named⟩
    obtain ⟨first, isFirst⟩ := Option.isSome_iff_exists.mp found
    simp [List.find?_append, isFirst]
  | within before inner gap after =>
    have marks := Gap.map_mark_fill_within before inner gap after [leaf] []
    have search (nodes : List Node) : (nodes.find? fun node => node.mark.named).map Node.mark =
        (nodes.map Node.mark).find? Mark.named := by
      rw [List.find?_map]
      rfl
    rw [Gap.children_tree, Gap.children_tree, search, search, marks]

theorem exists_named {nodes : List Node} (some : ¬ ∀ node ∈ nodes, node.mark.named = false) :
    ∃ node ∈ nodes, node.mark.named = true := by
  simpa using some

theorem assignedValue?_of_takesValue {gap : Gap} {mark : Mark} {leaf : Node}
    (comment : IsComment leaf) (takes : TakesValue gap) :
    assignedValue? (gap.tree mark [leaf]) = some leaf := by
  cases takes with
  | @behindSign before after undecided sign =>
    obtain ⟨unclaused, unvalued⟩ := undecided
    have signed : (before.any fun node => node.type == "=") = true := by
      simpa using sign
    rw [assignedValue?, Gap.children_tree, Gap.fill_here, valueAfterSign_append,
      if_pos ⟨unclaused, unvalued⟩, signed]
    simp [valueAfterSign, comment.type, comment.named]
  | @inClause before front rear after clause undecided isClause unnamed =>
    obtain ⟨unclaused, unvalued⟩ := undecided
    rw [assignedValue?, Gap.children_tree, Gap.fill_within, valueAfterSign_append,
      if_pos ⟨unclaused, unvalued⟩, valueAfterSign, Gap.type_tree, isClause]
    exact head?_namedChildren_here comment.named unnamed

/-- A comment that is not taken for the value leaves the mark of the value. -/
theorem mark_assignedValue?_of_not_takesValue {gap : Gap} {mark : Mark} {leaf : Node}
    (comment : IsComment leaf) (untaken : ¬ TakesValue gap) :
    (assignedValue? (gap.tree mark [leaf])).map Node.mark =
      (assignedValue? (gap.tree mark [])).map Node.mark := by
  unfold assignedValue?
  cases gap with
  | here before after =>
    simp only [Gap.children_tree, Gap.fill_here, valueAfterSign_append]
    split
    · rename_i undecided
      have unsigned : (before.any fun node => node.type == "=") = false := by
        rw [← Bool.not_eq_true, List.any_eq_true]
        rintro ⟨node, inside, isSign⟩
        exact untaken (.behindSign undecided ⟨node, inside, by simpa using isSign⟩)
      simp [unsigned, valueAfterSign, comment.type]
    · rfl
  | within before inner gap after =>
    simp only [Gap.children_tree, Gap.fill_within, valueAfterSign_append]
    split
    · rename_i undecided
      rw [valueAfterSign, valueAfterSign, Gap.type_tree, Gap.type_tree, Gap.mark_tree,
        Gap.mark_tree]
      by_cases clause : inner.type = "equals_value_clause"
      · simp only [clause, beq_self_eq_true, ↓reduceIte]
        refine mark_head?_namedChildren ?_
        rintro early late rfl
        exact exists_named fun unnamed => untaken (.inClause undecided clause unnamed)
      · simp only [beq_iff_eq, clause, ↓reduceIte]
        split
        · rfl
        · split <;> rfl
    · rfl

end ClassSketch.Outline
