import ClassSketch.Diagram.Stroke
import ClassSketch.Proofs.Outline.Parts

set_option autoImplicit false

namespace ClassSketch.Outline

open ClassSketch.Concrete ClassSketch.Model

variable {source : List UInt8} {leaf : Node}

theorem not_declares_comment (comment : IsComment leaf) : ¬ Declares leaf := by
  rw [Declares, comment.type]
  decide

theorem membersOf_here (comment : IsComment leaf) (before after : List Node) :
    membersOf source (before ++ leaf :: after) = membersOf source (before ++ after) := by
  induction before with
  | nil =>
    rw [List.nil_append, List.nil_append, membersOf,
      declaration?_of_not_declares (not_declares_comment comment)]
    exact bind_pure (membersOf source after)
  | cons first rest ih => rw [List.cons_append, List.cons_append, membersOf, membersOf, ih]

theorem membersOf_agrees {condition : Prop} {item change : Node}
    (agree : AgreesWhen condition (declaration? source item) (declaration? source change))
    (before after : List Node) :
    AgreesWhen condition (membersOf source (before ++ item :: after))
      (membersOf source (before ++ change :: after)) := by
  induction before with
  | nil =>
    rw [List.nil_append, List.nil_append, membersOf, membersOf]
    refine agree.bind_left ?_
    intro made other result here there
    obtain ⟨others, here, there⟩ := Read.bind_eq_ok_both here there
    have same := Read.eq_of_pure_eq_ok here there
    have lists := congrArg List.head? (List.append_cancel_right same)
    rwa [Option.head?_toList, Option.head?_toList] at lists
  | cons first rest ih =>
    rw [List.cons_append, List.cons_append, membersOf, membersOf]
    refine .bind_right fun made => ih.bind_left ?_
    intro members others result here there
    have same := Read.eq_of_pure_eq_ok here there
    exact List.append_cancel_left same

/-- The members read from a list are the same, unless the comment stands in one of them. -/
theorem members_agrees (comment : IsComment leaf) {spared : Mark → Gap → Prop} (gap : Gap)
    (each : gap.Inside fun _ mark inner =>
      AgreesWhen (spared mark inner) (declaration? source (inner.tree mark []))
        (declaration? source (inner.tree mark [leaf]))) :
    AgreesWhen (gap.Inside fun _ => spared) (membersOf source (gap.fill []))
      (membersOf source (gap.fill [leaf])) := by
  cases gap with
  | here before after =>
    refine .of_eq ?_
    simpa using membersOf_here comment before after
  | within front mark inner rear => exact membersOf_agrees each front rear

/-- The comment is taken for nothing else in a declaration. -/
def Spared (source : List UInt8) (leaf : Node) (mark : Mark) (gap : Gap) : Prop :=
  ∀ reading, Takes mark gap reading → reading.Matches source leaf

/-- The comment is taken for nothing else in the members that a declaration holds. -/
def HeldSpared (source : List UInt8) (leaf : Node) (mark : Mark) (gap : Gap) : Prop :=
  gap.Inside fun before _ inner => bodyPlace? (gap.tree mark []) = some before.length →
    inner.Inside fun _ => Spared source leaf

theorem spared_iff {mark : Mark} {gap : Gap} {form : Form}
    (made : Form.ofType? mark.type = some form) :
    Spared source leaf mark gap ↔
      (∀ reading, TakesOwn form mark gap reading → reading.Matches source leaf) ∧
        HeldSpared source leaf mark gap := by
  constructor
  · intro all
    refine ⟨fun reading takes => all reading (.own made takes), ?_⟩
    refine Gap.inside_of_within ?_
    rintro before list inner after rfl picked
    refine Gap.inside_of_within ?_
    rintro front item deeper rear rfl reading takes
    exact all reading (.held picked takes)
  · rintro ⟨own, held⟩ reading takes
    cases takes with
    | own madeToo takes =>
      rw [made] at madeToo
      cases madeToo
      exact own reading takes
    | held picked takes => exact held picked reading takes

/-- Declarations without a body hold nothing. -/
theorem heldSpared_of_bodiless {mark : Mark} {gap : Gap}
    (bodiless : bodyPlace? (gap.tree mark []) = none) : HeldSpared source leaf mark gap := by
  refine Gap.inside_of_within ?_
  intro before list inner after _ picked
  rw [bodiless] at picked
  cases picked

/-- A form is agreed on when what it reads for itself is, and with its members when it has a
body. -/
theorem spared_of_own {mark : Mark} {gap : Gap} {form : Form}
    {first second : Read (Option Declaration)}
    (bodiless : bodyPlace? (gap.tree mark []) = none)
    (own : AgreesWhen (∀ reading, TakesOwn form mark gap reading → reading.Matches source leaf)
      first second) :
    AgreesWhen ((∀ reading, TakesOwn form mark gap reading → reading.Matches source leaf) ∧
      HeldSpared source leaf mark gap) first second :=
  own.congr (and_iff_left (heldSpared_of_bodiless bodiless)).symm

theorem spared_of_held {mark : Mark} {gap : Gap} {form : Form}
    {first second : Read (Option Declaration)}
    (untaking : ∀ reading, ¬ TakesOwn form mark gap reading)
    (held : AgreesWhen (HeldSpared source leaf mark gap) first second) :
    AgreesWhen ((∀ reading, TakesOwn form mark gap reading → reading.Matches source leaf) ∧
      HeldSpared source leaf mark gap) first second :=
  held.congr (and_iff_right fun reading takes => absurd takes (untaking reading)).symm

theorem spared_of_quiet {mark : Mark} {gap : Gap} {form : Form}
    {first second : Read (Option Declaration)}
    (untaking : ∀ reading, ¬ TakesOwn form mark gap reading)
    (bodiless : bodyPlace? (gap.tree mark []) = none) (same : second = first) :
    AgreesWhen ((∀ reading, TakesOwn form mark gap reading → reading.Matches source leaf) ∧
      HeldSpared source leaf mark gap) first second :=
  spared_of_held untaking
    ((AgreesWhen.of_eq same).congr (iff_of_true trivial (heldSpared_of_bodiless bodiless)))

/-- A declaration shows the one part that is read for it. -/
theorem declaration_agrees {α : Type} {condition : Prop} {first second : Read α}
    (agree : AgreesWhen condition first second) {make : α → Declaration}
    (faithful : ∀ value change, make value = make change → value = change) :
    AgreesWhen condition (do return some (make (← first))) (do return some (make (← second))) := by
  refine agree.bind_left ?_
  intro value change result here there
  have same := Read.eq_of_pure_eq_ok here there
  exact faithful value change (Option.some.inj same)

theorem declaration?_agrees_of_held (comment : IsComment leaf) (gap : Gap) (mark : Mark)
    (members : AgreesWhen (HeldSpared source leaf mark gap)
      (membersOf source (held (gap.tree mark [])))
      (membersOf source (held (gap.tree mark [leaf])))) :
    AgreesWhen (Spared source leaf mark gap)
      (declaration? source (gap.tree mark [])) (declaration? source (gap.tree mark [leaf])) := by
  rw [declaration?, declaration?, Gap.type_tree, Gap.type_tree]
  cases form : Form.ofType? mark.type with
  | none =>
    refine (AgreesWhen.refl _).congr (iff_of_true trivial ?_)
    intro reading takes
    cases takes with
    | own made =>
      rw [form] at made
      cases made
    | held picked => simp [bodyPlace?, form] at picked
  | some made =>
    refine AgreesWhen.congr ?_ (spared_iff form).symm
    cases made with
    | type kind =>
      refine (typeHeader_agrees comment kind gap mark).bind (fun header => ?_) ?_
      · refine declaration_agrees members ?_
        intro value change same
        cases same
        rfl
      · intro header other result here there
        obtain ⟨_, _, here⟩ := Read.bind_eq_ok.mp here
        obtain ⟨_, _, there⟩ := Read.bind_eq_ok.mp there
        cases here
        cases there
        rfl
    | enum =>
      refine spared_of_own (by simp [bodyPlace?, form]) ?_
      exact declaration_agrees (enumBlock_agrees comment gap mark) fun _ _ same => same
    | namespaceBlock =>
      refine spared_of_held (fun reading takes => by cases takes) ?_
      rw [blind _ (nameText_quiet source) comment]
      refine .bind_right fun name => declaration_agrees members ?_
      intro value change same
      exact (Declaration.namespaceBlock.inj same).2
    | field =>
      refine spared_of_own (by simp [bodyPlace?, form]) ?_
      exact declaration_agrees (field_agrees comment gap mark) fun _ _ => Declaration.field.inj
    | property =>
      refine spared_of_own (by simp [bodyPlace?, form]) ?_
      exact declaration_agrees (ownProperty_agrees comment gap mark)
        fun _ _ => Declaration.property.inj
    | method =>
      refine spared_of_quiet (fun reading takes => by cases takes) (by simp [bodyPlace?, form]) ?_
      rw [blind _ (method_quiet source) comment]
    | constructor =>
      refine spared_of_quiet (fun reading takes => by cases takes) (by simp [bodyPlace?, form]) ?_
      rw [blind _ (constructor_quiet source) comment]
    | unsupported =>
      refine spared_of_held (fun reading takes => by cases takes) ?_
      rw [blind _ (nameText_quiet source) comment]
      refine .bind_right fun name => declaration_agrees members ?_
      intro value change same
      exact (Declaration.unsupported.inj same).2.2

theorem held_agrees (comment : IsComment leaf) (gap : Gap) (mark : Mark)
    (inner : gap.Inside fun _ _ inner => AgreesWhen (inner.Inside fun _ => Spared source leaf)
      (membersOf source (inner.fill [])) (membersOf source (inner.fill [leaf]))) :
    AgreesWhen (HeldSpared source leaf mark gap) (membersOf source (held (gap.tree mark [])))
      (membersOf source (held (gap.tree mark [leaf]))) := by
  rw [held_eq, held_eq]
  exact picks_heldList?.agrees comment
    (fun list => membersOf source ((list.map Node.children).getD [])) gap mark inner

/-- The comment changes declarations exactly where it is taken for something else in them. The
induction is on the way down to the gap: a declaration goes by the list of its members, and the list
by the member that the gap lies in. -/
theorem declarations_agree (source : List UInt8) (comment : IsComment leaf) (gap : Gap) :
    (∀ mark, AgreesWhen (Spared source leaf mark gap)
        (declaration? source (gap.tree mark [])) (declaration? source (gap.tree mark [leaf]))) ∧
      AgreesWhen (gap.Inside fun _ => Spared source leaf) (membersOf source (gap.fill []))
        (membersOf source (gap.fill [leaf])) := by
  induction gap with
  | here before after =>
    refine ⟨fun mark => ?_, members_agrees comment _ trivial⟩
    exact declaration?_agrees_of_held comment _ mark (held_agrees comment _ mark trivial)
  | within before list inner after ih =>
    refine ⟨fun mark => ?_, members_agrees comment _ (ih.1 list)⟩
    exact declaration?_agrees_of_held comment _ mark (held_agrees comment _ mark ih.2)

theorem topLevel_here (comment : IsComment leaf) (before after : List Node) :
    topLevel source (before ++ leaf :: after) = topLevel source (before ++ after) := by
  induction before with
  | nil =>
    have plain : leaf.type ≠ "file_scoped_namespace_declaration" := by
      rw [comment.type]
      decide
    rw [List.nil_append, List.nil_append, topLevel, if_neg plain,
      declaration?_of_not_declares (not_declares_comment comment)]
    exact bind_pure (topLevel source after)
  | cons first rest ih =>
    rw [List.cons_append, List.cons_append, topLevel, topLevel, ih]

theorem topLevel_append_agrees {condition : Prop} {nodes others : List Node}
    (agree : AgreesWhen condition (topLevel source nodes) (topLevel source others))
    (before : List Node) :
    AgreesWhen condition (topLevel source (before ++ nodes))
      (topLevel source (before ++ others)) := by
  induction before with
  | nil => exact agree
  | cons first rest ih =>
    rw [List.cons_append, List.cons_append, topLevel, topLevel]
    split
    · refine .bind_right fun name => .bind_right fun own => ih.bind_left ?_
      rintro ⟨following, namespaces⟩ ⟨later, more⟩ result here there
      have same := Read.eq_of_pure_eq_ok here there
      injection same with _ same
      injection same with same tails
      injection same with _ same
      rw [List.append_cancel_left same, tails]
    · refine .bind_right fun made => ih.bind_left ?_
      rintro ⟨following, namespaces⟩ ⟨later, more⟩ result here there
      have same := Read.eq_of_pure_eq_ok here there
      injection same with same tails
      rw [List.append_cancel_left same, tails]

theorem topLevel_within_agrees (comment : IsComment leaf) (before : List Node) (mark : Mark)
    (inner : Gap) (after : List Node) :
    AgreesWhen (∀ reading, TakesAtTop (.within before mark inner after) reading →
        reading.Matches source leaf)
      (topLevel source (inner.tree mark [] :: after))
      (topLevel source (inner.tree mark [leaf] :: after)) := by
  rw [topLevel, topLevel, Gap.type_tree, Gap.type_tree]
  split
  · rename_i opens
    have own := (declarations_agree source comment inner).2
    rw [blind _ (nameText_quiet source) comment]
    refine .bind_right fun name => (own.bind_left ?_).congr ⟨?_, ?_⟩
    · intro members change result here there
      obtain ⟨rest, here, there⟩ := Read.bind_eq_ok_both here there
      have same := Read.eq_of_pure_eq_ok here there
      injection same with _ same
      injection same with same _
      injection same with _ same
      exact List.append_cancel_right same
    · intro holds reading takes
      cases takes with
      | plain plain _ => exact absurd opens plain
      | fileScoped _ takes => exact holds reading takes
    · intro all
      refine Gap.inside_of_within ?_
      rintro front item deeper rear rfl reading takes
      exact all reading (.fileScoped opens takes)
  · rename_i plain
    refine (((declarations_agree source comment inner).1 mark).bind_left ?_).congr ⟨?_, ?_⟩
    · intro made change result here there
      obtain ⟨rest, here, there⟩ := Read.bind_eq_ok_both here there
      have same := Read.eq_of_pure_eq_ok here there
      injection same with same _
      have lists := congrArg List.head? (List.append_cancel_right same)
      rwa [Option.head?_toList, Option.head?_toList] at lists
    · intro holds reading takes
      cases takes with
      | plain _ takes => exact holds reading takes
      | fileScoped opens _ => exact absurd opens plain
    · intro all reading takes
      exact all reading (.plain plain takes)

theorem topLevel_agrees (source : List UInt8) (comment : IsComment leaf) (gap : Gap) :
    AgreesWhen (∀ reading, TakesAtTop gap reading → reading.Matches source leaf)
      (topLevel source (gap.fill [])) (topLevel source (gap.fill [leaf])) := by
  cases gap with
  | here before after =>
    refine (AgreesWhen.of_eq ?_).congr (iff_of_true trivial ?_)
    · simpa using topLevel_here comment before after
    · intro reading takes
      cases takes
  | within before mark inner after =>
    exact topLevel_append_agrees (topLevel_within_agrees comment before mark inner after) before

/-- Every file scoped namespace opens one list of its own. -/
theorem length_namespaces {nodes : List Node} {leading namespaces : List Declaration}
    (success : topLevel source nodes = .ok (leading, namespaces)) :
    namespaces.length =
      nodes.countP fun node => node.type == "file_scoped_namespace_declaration" := by
  induction nodes generalizing leading namespaces with
  | nil =>
    cases success
    rfl
  | cons first rest ih =>
    obtain ⟨following, others, later, ⟨opens, name, own, _, _, rfl⟩ | ⟨plain, _, _, _, rfl⟩⟩ :=
      topLevel_cons_eq_ok success
    · rw [List.countP_cons_of_pos (by simpa [IsFileScoped] using opens), List.length_cons, ih later]
    · rw [List.countP_cons_of_neg (by simpa [IsFileScoped] using plain), ih later]

theorem countP_fileScoped (comment : IsComment leaf) (gap : Gap) :
    ((gap.fill [leaf]).countP fun node => node.type == "file_scoped_namespace_declaration") =
      (gap.fill []).countP fun node => node.type == "file_scoped_namespace_declaration" := by
  cases gap with
  | here before after => simp [List.countP_append, comment.type]
  | within before mark inner after => simp [List.countP_append, List.countP_cons]

/-- The built unit shows each part of what is read at the top. -/
theorem unit_agrees (source : List UInt8) (filePath : String) (comment : IsComment leaf)
    (mark : Mark) (gap : Gap) :
    AgreesWhen (∀ reading, TakesAtTop gap reading → reading.Matches source leaf)
      (unit source filePath (gap.tree mark [])) (unit source filePath (gap.tree mark [leaf])) := by
  have top := topLevel_agrees source comment gap
  constructor
  · intro spared
    rw [unit, unit, Gap.children_tree, Gap.children_tree, top.same spared]
  · intro tree here there
    obtain ⟨⟨leading, namespaces⟩, read, here⟩ := Read.bind_eq_ok.mp here
    obtain ⟨⟨leadingToo, namespacesToo⟩, readToo, there⟩ := Read.bind_eq_ok.mp there
    have same := Read.eq_of_pure_eq_ok here there
    injection same with _ same
    have lengths : namespaces.length = namespacesToo.length := by
      rw [length_namespaces read, length_namespaces readToo]
      exact (countP_fileScoped comment gap).symm
    obtain ⟨rfl, rfl⟩ := List.append_inj' same lengths
    exact top.needed _ read readToo

/-- A comment put into a tree leaves what is built, the failure included, unless it is taken for a
value or a base that reads otherwise. Where a unit is built at all, no weaker condition will do. -/
theorem unit_with_comment (filePath : String) (mark : Mark) (gap : Gap) (comment : IsComment leaf) :
    ((∀ reading, TakesAtTop gap reading → reading.Matches source leaf) →
        unit source filePath (gap.tree mark [leaf]) = unit source filePath (gap.tree mark [])) ∧
      ∀ tree, unit source filePath (gap.tree mark []) = .ok tree →
        (unit source filePath (gap.tree mark [leaf]) = .ok tree ↔
          ∀ reading, TakesAtTop gap reading → reading.Matches source leaf) := by
  have agree := unit_agrees source filePath comment mark gap
  refine ⟨agree.same, ?_⟩
  intro tree built
  refine ⟨agree.needed tree built, ?_⟩
  intro spared
  rw [agree.same spared, built]

/-- A comment from one offset to another, on the first row. -/
def noteAt (start stop : Nat) : Node :=
  .node { Mark.plain "comment" none start stop with extra := true } []

theorem isComment_noteAt (start stop : Nat) : IsComment (noteAt start stop) :=
  ⟨rfl, rfl, rfl, rfl, rfl, rfl, rfl⟩

/-- In a class with one base, the place behind the base. -/
def behindBase : Gap :=
  .within [] (.plain "class_declaration" none 0 19)
    (.within [.plain "identifier" (some "name") 6 7 []] (.plain "base_list" none 8 17)
      (.here [.plain "identifier" none 10 11 []] []) []) []

theorem comment_behind_base_changes_nothing :
    unit "class A : B /*c*/ {}".toUTF8.toList ""
        (behindBase.tree (.plain "compilation_unit" none 0 20) [noteAt 12 17]) =
      unit "class A : B /*c*/ {}".toUTF8.toList ""
        (behindBase.tree (.plain "compilation_unit" none 0 20) []) := by
  refine (unit_with_comment "" _ behindBase (isComment_noteAt 12 17)).1 ?_
  intro reading takes
  cases takes with
  | plain _ takes =>
    cases takes with
    | own made takes =>
      cases takes with
      | property _ _ takes =>
        cases takes with
        | inClause _ isClause => exact absurd isClause (by decide)
  | fileScoped opens => exact absurd opens (by decide)

/-- In a class with one field, the place between the equals sign and the value. -/
def behindSign : Gap :=
  .within [] (.plain "class_declaration" none 0 28)
    (.within [.plain "identifier" (some "name") 6 7 []]
      (.plain "declaration_list" (some "body") 8 28)
      (.within [] (.plain "field_declaration" none 10 26)
        (.within [] (.plain "variable_declaration" none 10 25)
          (.within [.plain "predefined_type" (some "type") 10 13 []]
            (.plain "variable_declarator" none 14 25)
            (.here [.plain "identifier" (some "name") 14 15 [],
                .node { Mark.plain "=" none 16 17 with named := false } []]
              [.plain "integer_literal" none 24 25 []])
            []) []) []) []) []

theorem comment_behind_sign_hides_value :
    ¬ ∀ (source : List UInt8) (filePath : String) (mark : Mark) (gap : Gap) (leaf : Node),
      IsComment leaf →
        unit source filePath (gap.tree mark [leaf]) = unit source filePath (gap.tree mark []) := by
  intro all
  have same := all "class A { int x = /*c*/ 5; }".toUTF8.toList ""
    (.plain "compilation_unit" none 0 28) behindSign (noteAt 18 23) (isComment_noteAt 18 23)
  have drawn := congrArg (fun built => built.toOption.map Diagram.strokes) same
  revert drawn
  decide +kernel

end ClassSketch.Outline
