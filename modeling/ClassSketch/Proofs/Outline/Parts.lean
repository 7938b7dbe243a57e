import ClassSketch.Proofs.Outline.Picking

set_option autoImplicit false

namespace ClassSketch.Outline

open ClassSketch.Concrete ClassSketch.Model

variable {source : List UInt8} {leaf : Node}

theorem basesOf_append (first second : List Node) :
    basesOf source (first ++ second) = do
      let texts ← basesOf source first
      let others ← basesOf source second
      return texts ++ others := by
  induction first with
  | nil => exact (bind_pure _).symm
  | cons node rest ih =>
    simp only [List.cons_append, basesOf, ih, bind_assoc, pure_bind]
    refine bind_congr fun base => bind_congr fun text => bind_congr fun texts => ?_
    refine bind_congr fun others => ?_
    split <;> rfl

theorem basesOf_cons (node : Node) (rest : List Node) :
    basesOf source (node :: rest) = do
      let text ← baseText source node
      let others ← basesOf source rest
      return if text = "" then others else text :: others := by
  rw [basesOf, baseText, bind_assoc]

/-- One base more or less, or another one, shows in the list. -/
theorem basesOf_agrees {condition : Prop} {item change : Node}
    (agree : AgreesWhen condition (baseText source item) (baseText source change))
    (before after : List Node) :
    AgreesWhen condition (basesOf source (before ++ item :: after))
      (basesOf source (before ++ change :: after)) := by
  simp only [basesOf_append, basesOf_cons]
  refine .bind_right fun texts => (agree.bind_left ?_).bind_left ?_
  · intro text other result here there
    obtain ⟨others, here, there⟩ := Read.bind_eq_ok_both here there
    have same := Read.eq_of_pure_eq_ok here there
    have longer (word : String) : others ≠ word :: others := by
      intro equal
      have := congrArg List.length equal
      simp at this
    by_cases empty : text = "" <;> by_cases emptyToo : other = ""
    · rw [empty, emptyToo]
    · rw [if_pos empty, if_neg emptyToo] at same
      exact absurd same (longer other)
    · rw [if_neg empty, if_pos emptyToo] at same
      exact absurd same.symm (longer text)
    · rw [if_neg empty, if_neg emptyToo] at same
      exact (List.cons.inj same).1
  · intro value other result here there
    cases here
    exact (List.append_cancel_left (Read.pure_eq_ok.mp there)).symm

theorem isBase_tree (gap : Gap) (mark : Mark) (nodes : List Node) :
    isBase (gap.tree mark nodes) = isBase (gap.tree mark []) := rfl

theorem bases_agrees (comment : IsComment leaf) (list : Mark) (gap : Gap) :
    AgreesWhen (gap.Inside fun _ mark inner => isBase (inner.tree mark []) = true →
        TakesBase mark inner → (Reading.base (inner.tree mark [])).Matches source leaf)
      (basesIn source (some (gap.tree list [])))
      (basesIn source (some (gap.tree list [leaf]))) := by
  have passed : isBase leaf = false := by
    simp [isBase, comment.type]
  rw [basesIn, basesIn]
  cases gap with
  | here before after =>
    have same : ((Gap.here before after).tree list [leaf]).children.filter isBase =
        ((Gap.here before after).tree list []).children.filter isBase := by
      simp [List.filter_append, passed]
    rw [same]
    exact .refl _
  | within front mark inner rear =>
    by_cases names : isBase (inner.tree mark []) = true
    · have items (nodes : List Node) :
          ((Gap.within front mark inner rear).tree list nodes).children.filter isBase =
            front.filter isBase ++ inner.tree mark nodes :: rear.filter isBase := by
        simp [List.filter_append, isBase_tree inner mark nodes, names]
      rw [items, items]
      exact (basesOf_agrees (baseText_agrees comment inner mark) _ _).under names
    · have same (nodes : List Node) :
          ((Gap.within front mark inner rear).tree list nodes).children.filter isBase =
            front.filter isBase ++ rear.filter isBase := by
        simp [List.filter_append, isBase_tree inner mark nodes, names]
      rw [same, same]
      exact .vacuous names rfl

theorem ownProperty_agrees (comment : IsComment leaf) (gap : Gap) (mark : Mark) :
    AgreesWhen (∀ reading, TakesOwn .property mark gap reading → reading.Matches source leaf)
      (property source (gap.tree mark [])) (property source (gap.tree mark [leaf])) := by
  refine (property_agrees comment gap mark).congr ⟨?_, ?_⟩
  · intro holds reading takes
    cases takes with
    | property free listed takes => exact holds free listed takes
  · intro own free listed takes
    exact own _ (.property free listed takes)

theorem field_agrees (comment : IsComment leaf) (gap : Gap) (mark : Mark) :
    AgreesWhen (∀ reading, TakesOwn .field mark gap reading → reading.Matches source leaf)
      (field source (gap.tree mark [])) (field source (gap.tree mark [leaf])) := by
  have type : strippedText? source
        (((gap.tree mark [leaf]).child? "variable_declaration").bind (·.field? "type")) =
      strippedText? source
        (((gap.tree mark []).child? "variable_declaration").bind (·.field? "type")) := by
    refine blind (fun node => strippedText? source
      ((node.child? "variable_declaration").bind (·.field? "type"))) ?_ comment gap mark
    intro node
    rw [Node.child?_quiet node (by decide)]
    cases node.child? "variable_declaration" with
    | none => rfl
    | some list =>
      simp only [Option.map_some, Option.bind_some, Node.field?_quiet, strippedText?_quiet]
  have declared := (picks_child? (show "variable_declaration" ≠ "comment" by decide)).agrees comment
    (fun list => (itemsOf "variable_declarator" list).mapM (declarator source)) gap mark
    (Gap.inside_of_forall
      (fun _ list => items_agrees (by decide) comment (declarator_agrees comment) list) gap)
  simp only [field, type, blind _ (modifiers_quiet source) comment]
  refine .bind_right fun type => (declared.bind_left ?_).congr ⟨?_, ?_⟩
  · intro value change result here there
    obtain ⟨words, _, here⟩ := Read.bind_eq_ok.mp here
    obtain ⟨more, _, there⟩ := Read.bind_eq_ok.mp there
    cases here
    cases there
    rfl
  · intro holds reading takes
    cases takes with
    | declarator picked isDeclarator takes =>
      exact holds picked isDeclarator takes
  · intro all
    refine Gap.inside_of_within ?_
    rintro before list inner after rfl picked
    refine Gap.inside_of_within ?_
    rintro front item deeper rear rfl isDeclarator takes
    exact all _ (.declarator picked isDeclarator takes)

theorem enumBlock_agrees (comment : IsComment leaf) (gap : Gap) (mark : Mark) :
    AgreesWhen (∀ reading, TakesOwn .enum mark gap reading → reading.Matches source leaf)
      (enumBlock source (gap.tree mark [])) (enumBlock source (gap.tree mark [leaf])) := by
  have members := (picks_part? "body"
      (show "enum_member_declaration_list" ≠ "comment" by decide)).agrees comment
    (fun list => (itemsOf "enum_member_declaration" list).mapM (enumMember source)) gap mark
    (Gap.inside_of_forall
      (fun _ list => items_agrees (by decide) comment (enumMember_agrees comment) list) gap)
  rw [enumBlock, enumBlock, blind _ (enumHeader_quiet source) comment]
  refine (members.bind_left ?_).congr ⟨?_, ?_⟩
  · intro value change result here there
    obtain ⟨header, _, here⟩ := Read.bind_eq_ok.mp here
    obtain ⟨other, _, there⟩ := Read.bind_eq_ok.mp there
    have same := Read.eq_of_pure_eq_ok here there
    injection same with _ same
    exact (List.map_inj_right fun _ _ equal => Declaration.enumMember.inj equal).mp same
  · intro holds reading takes
    cases takes with
    | enumMember picked isMember free takes =>
      exact holds picked isMember free takes
  · intro all
    refine Gap.inside_of_within ?_
    rintro before list inner after rfl picked
    refine Gap.inside_of_within ?_
    rintro front item deeper rear rfl isMember free takes
    exact all _ (.enumMember picked isMember free takes)

theorem typeHeader_agrees (comment : IsComment leaf) (kind : TypeKind) (gap : Gap) (mark : Mark) :
    AgreesWhen (∀ reading, TakesOwn (.type kind) mark gap reading → reading.Matches source leaf)
      (typeHeader source kind (gap.tree mark []))
      (typeHeader source kind (gap.tree mark [leaf])) := by
  have typeParameters : strippedText? source ((gap.tree mark [leaf]).child? "type_parameter_list") =
      strippedText? source ((gap.tree mark []).child? "type_parameter_list") := by
    refine blind (fun node => strippedText? source (node.child? "type_parameter_list")) ?_ comment
      gap mark
    intro node
    rw [Node.child?_quiet node (by decide), strippedText?_quiet]
  have bases := (picks_child? (show "base_list" ≠ "comment" by decide)).agrees comment
    (basesIn source) gap mark
    (Gap.inside_of_forall (fun _ => bases_agrees comment) gap)
  simp only [typeHeader, baseTypes, typeParameters, blind _ (nameText_quiet source) comment,
    blind _ (modifiers_quiet source) comment]
  refine .bind_right fun name => .bind_right fun typeParameters => .bind_right fun words => ?_
  refine (AgreesWhen.bind_left bases ?_).congr ⟨?_, ?_⟩
  · intro value change result here there
    cases here
    cases there
    rfl
  · intro holds reading takes
    cases takes with
    | base picked names takes => exact holds picked names takes
  · intro all
    refine Gap.inside_of_within ?_
    rintro before list inner after rfl picked
    refine Gap.inside_of_within ?_
    rintro front item deeper rear rfl names takes
    exact all _ (.base picked names takes)

end ClassSketch.Outline
