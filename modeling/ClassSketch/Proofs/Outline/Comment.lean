import ClassSketch.Proofs.Outline.Taking

set_option autoImplicit false

namespace ClassSketch.Outline

open ClassSketch.Concrete ClassSketch.Model

variable {source : List UInt8} {leaf : Node}

/-- A reading that does without comments does without one more. -/
theorem blind {α : Type} (read : Node → α) (deaf : ∀ node, read node.quiet = read node)
    (comment : IsComment leaf) (gap : Gap) (mark : Mark) :
    read (gap.tree mark [leaf]) = read (gap.tree mark []) := by
  rw [← deaf, Gap.quiet_tree comment.isNote, deaf]

theorem text_congr {first second : Node} (same : first.mark = second.mark) :
    first.text source = second.text source := by
  rw [Node.text, Node.text, same]

theorem expression?_congr {first second : Option Node}
    (same : first.map Node.mark = second.map Node.mark) :
    expression? source first = expression? source second := by
  cases first with
  | none =>
    cases second with
    | none => rfl
    | some node => cases same
  | some node =>
    cases second with
    | none => cases same
    | some other =>
      have marks : node.mark = other.mark := Option.some.inj same
      simp only [expression?, expression, text_congr marks, Node.type, marks]

theorem expression?_agrees (comment : IsComment leaf) (gap : Gap) (mark : Mark) :
    AgreesWhen (TakesValue gap → (Reading.value (gap.tree mark [])).Matches source leaf)
      (expression? source (assignedValue? (gap.tree mark [])))
      (expression? source (assignedValue? (gap.tree mark [leaf]))) := by
  by_cases takes : TakesValue gap
  · rw [assignedValue?_of_takesValue comment takes]
    exact (AgreesWhen.self _ _).under takes
  · refine .vacuous takes (expression?_congr ?_)
    exact mark_assignedValue?_of_not_takesValue comment takes

theorem any_type_congr {first second : Option Node} {type : String}
    (same : first.map Node.mark = second.map Node.mark) :
    (first.any fun node => node.type == type) = second.any fun node => node.type == type := by
  have marks := congrArg (Option.any fun mark => mark.type == type) same
  rwa [Option.any_map, Option.any_map] at marks

theorem expression?_comment (source : List UInt8) (comment : IsComment leaf) :
    ∃ text, expression? source (some leaf) = .ok (some ⟨"comment", text⟩) := by
  refine ⟨Text.foldExpression (Text.Utf8.slice source leaf.mark.start leaf.mark.stop), ?_⟩
  simp only [expression?, expression, Node.text, comment.readable, comment.type]
  rfl

theorem kind_of_expression? {value : Option Node} {shown : Expression}
    (read : expression? source value = .ok (some shown)) :
    value.map Node.type = some shown.kind := by
  cases value with
  | none => cases read
  | some node =>
    obtain ⟨made, read, same⟩ := Read.bind_eq_ok.mp read
    cases same
    obtain ⟨text, _, same⟩ := Read.bind_eq_ok.mp read
    cases same
    rfl

theorem declarator_agrees (comment : IsComment leaf) (gap : Gap) (mark : Mark) :
    AgreesWhen (TakesValue gap → (Reading.value (gap.tree mark [])).Matches source leaf)
      (declarator source (gap.tree mark [])) (declarator source (gap.tree mark [leaf])) := by
  rw [declarator, declarator, blind _ (declaratorName_quiet source) comment]
  refine .bind_right fun name => (expression?_agrees comment gap mark).bind_left ?_
  intro value change result here there
  cases here
  cases there
  rfl

theorem mark_field? (comment : IsComment leaf) (gap : Gap) (mark : Mark) (role : String) :
    ((gap.tree mark [leaf]).field? role).map Node.mark =
      ((gap.tree mark []).field? role).map Node.mark := by
  refine blind (fun node => (node.field? role).map Node.mark) ?_ comment gap mark
  intro node
  rw [Node.field?_quiet, Option.map_map]
  exact Option.map_congr fun child _ => Node.mark_quiet child

theorem field?_eq_none_of_comment (comment : IsComment leaf) {gap : Gap} {mark : Mark}
    {role : String} (free : (gap.tree mark []).field? role = none) :
    (gap.tree mark [leaf]).field? role = none := by
  have marks := mark_field? comment gap mark role
  rwa [free, Option.map_none, Option.map_eq_none_iff] at marks

theorem field?_eq_some_of_comment (comment : IsComment leaf) {gap : Gap} {mark : Mark}
    {role : String} {child : Node} (found : (gap.tree mark []).field? role = some child) :
    ∃ other, (gap.tree mark [leaf]).field? role = some other ∧ other.mark = child.mark :=
  Option.map_eq_some_iff.mp ((mark_field? comment gap mark role).trans (congrArg _ found))

theorem enumMember_agrees (comment : IsComment leaf) (gap : Gap) (mark : Mark) :
    AgreesWhen ((gap.tree mark []).field? "value" = none → TakesValue gap →
        (Reading.value (gap.tree mark [])).Matches source leaf)
      (enumMember source (gap.tree mark [])) (enumMember source (gap.tree mark [leaf])) := by
  rw [enumMember, enumMember, blind _ (nameText_quiet source) comment]
  cases free : (gap.tree mark []).field? "value" with
  | none =>
    rw [field?_eq_none_of_comment comment free]
    refine .bind_right fun name => ?_
    refine ((expression?_agrees comment gap mark).bind_left ?_).under rfl
    intro value change result here there
    cases here
    cases there
    rfl
  | some value =>
    obtain ⟨other, found, marks⟩ := field?_eq_some_of_comment comment free
    rw [found]
    have same : expression? source (some other) = expression? source (some value) :=
      expression?_congr (congrArg some marks)
    refine .bind_right fun name => .vacuous (Option.some_ne_none value) ?_
    change (expression? source (some other) >>= _) = (expression? source (some value) >>= _)
    rw [same]

theorem isSome_part? (comment : IsComment leaf) (gap : Gap) (mark : Mark) (role : String)
    {type : String} (other : type ≠ "comment") :
    ((gap.tree mark [leaf]).part? role type).isSome =
      ((gap.tree mark []).part? role type).isSome := by
  refine blind (fun node => (node.part? role type).isSome) ?_ comment gap mark
  intro node
  rw [Node.part?_quiet node _ other, Option.isSome_map]

/-- The value of a property keeps its mark, unless the comment is taken for it. -/
theorem mark_propertyValue? (comment : IsComment leaf) (gap : Gap) (mark : Mark)
    (untaken : (gap.tree mark []).field? "value" = none →
      ((gap.tree mark []).part? "accessors" "accessor_list").isSome = true → ¬ TakesValue gap) :
    (propertyValue? (gap.tree mark [leaf])
        ((gap.tree mark [leaf]).part? "accessors" "accessor_list")).map Node.mark =
      (propertyValue? (gap.tree mark [])
        ((gap.tree mark []).part? "accessors" "accessor_list")).map Node.mark := by
  have listed := isSome_part? comment gap mark "accessors"
    (show "accessor_list" ≠ "comment" by decide)
  unfold propertyValue?
  cases free : (gap.tree mark []).field? "value" with
  | some value =>
    obtain ⟨other, found, marks⟩ := field?_eq_some_of_comment comment free
    rw [found]
    exact congrArg some marks
  | none =>
    simp only [field?_eq_none_of_comment comment free, listed]
    split
    · rename_i isListed
      exact mark_assignedValue?_of_not_takesValue comment (untaken free isListed)
    · rfl

/-- A value that reads like a comment is no arrow. -/
theorem any_arrow_of_matches (comment : IsComment leaf) {value : Option Node}
    (same : expression? source value = expression? source (some leaf)) :
    (value.any fun found => found.type == "arrow_expression_clause") = false := by
  obtain ⟨text, shown⟩ := expression?_comment source comment
  have kind := kind_of_expression? (same.trans shown)
  cases value with
  | none => rfl
  | some node =>
    have isComment : node.type = "comment" := Option.some.inj kind
    simp [isComment]

theorem property_agrees (comment : IsComment leaf) (gap : Gap) (mark : Mark) :
    AgreesWhen ((gap.tree mark []).field? "value" = none →
        ((gap.tree mark []).part? "accessors" "accessor_list").isSome = true → TakesValue gap →
        (Reading.value (gap.tree mark [])).Matches source leaf)
      (property source (gap.tree mark [])) (property source (gap.tree mark [leaf])) := by
  have listed : accessors source ((gap.tree mark [leaf]).part? "accessors" "accessor_list") =
      accessors source ((gap.tree mark []).part? "accessors" "accessor_list") := by
    refine blind (fun node => accessors source (node.part? "accessors" "accessor_list")) ?_
      comment gap mark
    intro node
    rw [Node.part?_quiet node _ (by decide), accessors_quiet]
  have type : strippedText? source ((gap.tree mark [leaf]).field? "type") =
      strippedText? source ((gap.tree mark []).field? "type") := by
    refine blind (fun node => strippedText? source (node.field? "type")) ?_ comment gap mark
    intro node
    rw [Node.field?_quiet, strippedText?_quiet]
  simp only [property, blind _ (nameText_quiet source) comment,
    blind _ (modifiers_quiet source) comment, listed, type]
  refine .bind_right fun accessors => ?_
  by_cases taken : (gap.tree mark []).field? "value" = none ∧
    ((gap.tree mark []).part? "accessors" "accessor_list").isSome = true ∧ TakesValue gap
  · obtain ⟨free, isListed, takes⟩ := taken
    have role := field?_eq_none_of_comment comment free
    have old : propertyValue? (gap.tree mark [])
        ((gap.tree mark []).part? "accessors" "accessor_list") =
          assignedValue? (gap.tree mark []) := by
      simp only [propertyValue?, free, isListed, ↓reduceIte]
    have new : propertyValue? (gap.tree mark [leaf])
        ((gap.tree mark [leaf]).part? "accessors" "accessor_list") = some leaf := by
      rw [← isSome_part? comment gap mark "accessors" (by decide)] at isListed
      simp only [propertyValue?, role, isListed, ↓reduceIte,
        assignedValue?_of_takesValue comment takes]
    have noArrow :
        (some leaf).any (fun found => found.type == "arrow_expression_clause") = false := by
      simp [comment.type]
    rw [old, new, noArrow]
    constructor
    · intro spared
      have same := spared free isListed takes
      rw [any_arrow_of_matches comment same]
      exact congrArg (· >>= _) same.symm
    · intro made here there _ _ _
      rw [if_neg Bool.false_ne_true] at there
      have second := initializer_of_tail there
      cases arrow : (assignedValue? (gap.tree mark [])).any
          fun found => found.type == "arrow_expression_clause" with
      | false =>
        rw [arrow, if_neg Bool.false_ne_true] at here
        exact (initializer_of_tail here).trans second.symm
      | true =>
        rw [arrow, if_pos rfl] at here
        obtain ⟨text, shown⟩ := expression?_comment source comment
        rw [shown, ← Read.pure_eq_ok.mp (initializer_of_tail here)] at second
        cases second
  · have marks := mark_propertyValue? comment gap mark
      fun free isListed takes => taken ⟨free, isListed, takes⟩
    rw [any_type_congr marks, expression?_congr marks]
    refine (AgreesWhen.of_eq rfl).congr (iff_of_true trivial ?_)
    intro free isListed takes
    exact absurd ⟨free, isListed, takes⟩ taken

theorem strippedText_congr {first second : Node} (same : first.mark = second.mark) :
    strippedText source first = strippedText source second := by
  rw [strippedText, strippedText, text_congr same]

theorem baseText_of_takesBase (comment : IsComment leaf) {gap : Gap} {mark : Mark}
    (takes : TakesBase mark gap) :
    baseText source (gap.tree mark [leaf]) = strippedText source leaf := by
  cases takes with
  | @untyped early late called free unnamed =>
    have role := field?_eq_none_of_comment comment free
    have wrapped :
        ((Gap.here early late).tree mark [leaf]).type = "primary_constructor_base_type" :=
      called
    rw [baseText_called wrapped, role, head?_namedChildren_here comment.named unnamed]
    rfl

theorem baseText_of_not_takesBase (comment : IsComment leaf) {gap : Gap} {mark : Mark}
    (untaken : ¬ TakesBase mark gap) :
    baseText source (gap.tree mark [leaf]) = baseText source (gap.tree mark []) := by
  by_cases called : mark.type = "primary_constructor_base_type"
  · have wrapped (nodes : List Node) :
        (gap.tree mark nodes).type = "primary_constructor_base_type" :=
      called
    rw [baseText_called (wrapped [leaf]), baseText_called (wrapped [])]
    cases free : (gap.tree mark []).field? "type" with
    | some type =>
      obtain ⟨other, found, marks⟩ := field?_eq_some_of_comment comment free
      rw [found]
      exact strippedText_congr marks
    | none =>
      have marks : (gap.tree mark [leaf]).namedChildren.head?.map Node.mark =
          (gap.tree mark []).namedChildren.head?.map Node.mark := by
        refine mark_head?_namedChildren ?_
        rintro early late rfl
        exact exists_named fun unnamed => untaken (.untyped called free unnamed)
      rw [field?_eq_none_of_comment comment free]
      cases first : (gap.tree mark []).namedChildren.head? with
      | some type =>
        obtain ⟨other, found, same⟩ := Option.map_eq_some_iff.mp (marks.trans (congrArg _ first))
        rw [found]
        exact strippedText_congr same
      | none =>
        rw [first, Option.map_none, Option.map_eq_none_iff] at marks
        rw [marks]
  · have plain (nodes : List Node) : (gap.tree mark nodes).type ≠ "primary_constructor_base_type" :=
      called
    rw [baseText_plain (plain [leaf]), baseText_plain (plain [])]
    exact strippedText_congr rfl

theorem baseText_agrees (comment : IsComment leaf) (gap : Gap) (mark : Mark) :
    AgreesWhen (TakesBase mark gap → (Reading.base (gap.tree mark [])).Matches source leaf)
      (baseText source (gap.tree mark [])) (baseText source (gap.tree mark [leaf])) := by
  by_cases takes : TakesBase mark gap
  · rw [baseText_of_takesBase comment takes]
    exact (AgreesWhen.self _ _).under takes
  · exact .vacuous takes (baseText_of_not_takesBase comment takes)

end ClassSketch.Outline
