import ClassSketch.Proofs.Diagram.Transparent
import ClassSketch.Proofs.Outline.Making

set_option autoImplicit false

namespace ClassSketch.Outline

open ClassSketch.Concrete ClassSketch.Model ClassSketch.Diagram

/-- Some nodes with groups of them in block namespaces, to any depth. The bare nodes come second.
Braces, comments and the like may stand between the styled ones. -/
inductive Wrapped (source : List UInt8) : List Node → List Node → Prop
  | nil : Wrapped source [] []
  | silent {node : Node} {styled bare : List Node} (silent : ¬ Declares node)
      (rest : Wrapped source styled bare) : Wrapped source (node :: styled) bare
  | plain {node : Node} {styled bare : List Node} (other : ¬ IsFileScoped node)
      (rest : Wrapped source styled bare) : Wrapped source (node :: styled) (node :: bare)
  | block {node body : Node} {name : String} {styled bare group : List Node}
      (type : node.type = "namespace_declaration") (holds : body? node = some body)
      (named : nameText source node = .ok name) (inner : Wrapped source body.children group)
      (rest : Wrapped source styled bare) : Wrapped source (node :: styled) (group ++ bare)

/-- The nodes of a root: wrapped ones, a file scoped namespace behind them, and so on. -/
inductive Styled (source : List UInt8) : List Node → List Node → Prop
  | wrapped {styled bare : List Node} (wrapped : Wrapped source styled bare) :
      Styled source styled bare
  | fileScoped {node : Node} {name : String} {before group styled bare : List Node}
      (front : Wrapped source before group) (opens : IsFileScoped node)
      (named : nameText source node = .ok name)
      (silent : ∀ child ∈ node.children, ¬ Declares child)
      (rest : Styled source styled bare) :
      Styled source (before ++ node :: styled) (group ++ bare)

variable {source : List UInt8} {nodes styled bare : List Node} {members : List Declaration}

theorem membersOf_cons_of_ok {first : Node} {rest : List Node} {made : Option Declaration}
    {others : List Declaration} (here : declaration? source first = .ok made)
    (later : membersOf source rest = .ok others) :
    membersOf source (first :: rest) = .ok (made.toList ++ others) := by
  rw [membersOf, here, later]
  rfl

theorem membersOf_append_eq_ok {front back : List Node}
    (success : membersOf source (front ++ back) = .ok members) :
    ∃ first second, membersOf source front = .ok first ∧ membersOf source back = .ok second ∧
      members = first ++ second := by
  induction front generalizing members with
  | nil => exact ⟨[], members, by rw [membersOf], success, rfl⟩
  | cons node rest ih =>
    obtain ⟨made, others, here, later, rfl⟩ := membersOf_cons_eq_ok success
    obtain ⟨first, second, behind, last, rfl⟩ := ih later
    exact ⟨made.toList ++ first, second, membersOf_cons_of_ok here behind, last,
      (List.append_assoc ..).symm⟩

theorem membersOf_of_silent (silent : ∀ node ∈ nodes, ¬ Declares node) :
    membersOf source nodes = .ok [] := by
  induction nodes with
  | nil => rw [membersOf]
  | cons node rest ih =>
    rw [List.forall_mem_cons] at silent
    exact membersOf_cons_of_ok (declaration?_of_not_declares silent.1) (ih silent.2)

/-- A block whose nodes are read makes a namespace of what they make. -/
theorem declaration?_of_block {node body : Node} {name : String}
    (type : node.type = "namespace_declaration") (holds : body? node = some body)
    (named : nameText source node = .ok name)
    (read : membersOf source body.children = .ok members) :
    declaration? source node = .ok (some (.namespaceBlock name members)) := by
  have form : Form.ofType? node.type = some .namespaceBlock := by
    rw [type]
    decide
  have inner : held node = body.children := by
    rw [held, form]
    simp [holds]
  rw [declaration?, form]
  simp only [inner, named, read]
  rfl

/-- Wrapped nodes make what the bare ones make, up to the namespaces around it. -/
theorem exists_membersOf_wrapped (wrapped : Wrapped source styled bare)
    (success : membersOf source bare = .ok members) :
    ∃ others, membersOf source styled = .ok others ∧
      strokesOfAll others = strokesOfAll members := by
  induction wrapped generalizing members with
  | nil =>
    rw [membersOf] at success
    cases success
    exact ⟨[], by rw [membersOf], rfl⟩
  | silent silent _ ih =>
    obtain ⟨others, read, same⟩ := ih success
    exact ⟨others, membersOf_cons_of_ok (declaration?_of_not_declares silent) read, same⟩
  | plain _ _ ih =>
    obtain ⟨made, later, here, behind, rfl⟩ := membersOf_cons_eq_ok success
    obtain ⟨others, read, same⟩ := ih behind
    refine ⟨made.toList ++ others, membersOf_cons_of_ok here read, ?_⟩
    simp only [strokesOfAll_eq, List.flatMap_append] at same ⊢
    rw [same]
  | block type holds named _ _ ihInner ih =>
    obtain ⟨first, second, grouped, behind, rfl⟩ := membersOf_append_eq_ok success
    obtain ⟨inner, readInner, sameInner⟩ := ihInner grouped
    obtain ⟨others, read, same⟩ := ih behind
    have here := declaration?_of_block type holds named readInner
    refine ⟨_, membersOf_cons_of_ok here read, ?_⟩
    simp only [strokesOfAll_eq, List.flatMap_append, Option.toList_some, List.flatMap_cons,
      List.flatMap_nil, List.append_nil, strokes] at same sameInner ⊢
    rw [same, sameInner]

theorem topLevel_cons_of_plain {first : Node} {rest : List Node} {made : Option Declaration}
    {following namespaces : List Declaration} (plain : ¬ IsFileScoped first)
    (here : declaration? source first = .ok made)
    (later : topLevel source rest = .ok (following, namespaces)) :
    topLevel source (first :: rest) = .ok (made.toList ++ following, namespaces) := by
  unfold IsFileScoped at plain
  rw [topLevel, if_neg plain, here, later]
  rfl

theorem topLevel_cons_of_fileScoped {first : Node} {rest : List Node} {name : String}
    {own following namespaces : List Declaration} (opens : IsFileScoped first)
    (named : nameText source first = .ok name) (read : membersOf source first.children = .ok own)
    (later : topLevel source rest = .ok (following, namespaces)) :
    topLevel source (first :: rest) =
      .ok ([], .namespaceBlock name (own ++ following) :: namespaces) := by
  unfold IsFileScoped at opens
  rw [topLevel, if_pos opens, named, read, later]
  rfl

/-- What stands before the first file scoped namespace is read as in a body. -/
theorem topLevel_append_of_plain {rest : List Node} {following namespaces : List Declaration}
    (plain : ∀ node ∈ nodes, ¬ IsFileScoped node) (read : membersOf source nodes = .ok members)
    (later : topLevel source rest = .ok (following, namespaces)) :
    topLevel source (nodes ++ rest) = .ok (members ++ following, namespaces) := by
  induction nodes generalizing members with
  | nil =>
    rw [membersOf] at read
    cases read
    exact later
  | cons first others ih =>
    rw [List.forall_mem_cons] at plain
    obtain ⟨made, behind, here, readBehind, rfl⟩ := membersOf_cons_eq_ok read
    rw [List.append_assoc]
    exact topLevel_cons_of_plain plain.1 here (ih plain.2 readBehind)

/-- Without file scoped namespaces a root holds its declarations as a body does. -/
theorem membersOf_of_topLevel {leading namespaces : List Declaration}
    (plain : ∀ node ∈ nodes, ¬ IsFileScoped node)
    (success : topLevel source nodes = .ok (leading, namespaces)) :
    membersOf source nodes = .ok leading ∧ namespaces = [] := by
  induction nodes generalizing leading namespaces with
  | nil =>
    cases success
    exact ⟨by rw [membersOf], rfl⟩
  | cons first rest ih =>
    rw [List.forall_mem_cons] at plain
    obtain ⟨following, others, later, ⟨opens, _⟩ | ⟨_, made, here, rfl, rfl⟩⟩ :=
      topLevel_cons_eq_ok success
    · exact absurd opens plain.1
    · obtain ⟨read, none⟩ := ih plain.2 later
      exact ⟨membersOf_cons_of_ok here read, none⟩

theorem not_isFileScoped_of_block {node : Node} (type : node.type = "namespace_declaration") :
    ¬ IsFileScoped node := by
  rw [IsFileScoped, type]
  decide

theorem not_isFileScoped_of_silent {node : Node} (silent : ¬ Declares node) :
    ¬ IsFileScoped node := by
  intro opens
  rw [Declares, opens] at silent
  exact silent (by decide)

theorem Wrapped.plain_styled (wrapped : Wrapped source styled bare) :
    ∀ node ∈ styled, ¬ IsFileScoped node := by
  induction wrapped with
  | nil => exact List.forall_mem_nil _
  | silent silent _ ih =>
    exact List.forall_mem_cons.mpr ⟨not_isFileScoped_of_silent silent, ih⟩
  | plain other _ ih => exact List.forall_mem_cons.mpr ⟨other, ih⟩
  | block type _ _ _ _ _ ih =>
    exact List.forall_mem_cons.mpr ⟨not_isFileScoped_of_block type, ih⟩

theorem Wrapped.plain_bare (wrapped : Wrapped source styled bare) :
    ∀ node ∈ bare, ¬ IsFileScoped node := by
  induction wrapped with
  | nil => exact List.forall_mem_nil _
  | silent _ _ ih => exact ih
  | plain other _ ih => exact List.forall_mem_cons.mpr ⟨other, ih⟩
  | block _ _ _ _ _ ihInner ih => exact List.forall_mem_append.mpr ⟨ihInner, ih⟩

theorem Styled.plain_bare (style : Styled source styled bare) :
    ∀ node ∈ bare, ¬ IsFileScoped node := by
  induction style with
  | wrapped wrapped => exact wrapped.plain_bare
  | fileScoped front _ _ _ _ ih => exact List.forall_mem_append.mpr ⟨front.plain_bare, ih⟩

/-- A file scoped namespace takes what follows and draws it in its place. -/
theorem exists_topLevel_styled (style : Styled source styled bare)
    (success : membersOf source bare = .ok members) :
    ∃ leading namespaces, topLevel source styled = .ok (leading, namespaces) ∧
      strokesOfAll (leading ++ namespaces) = strokesOfAll members := by
  induction style generalizing members with
  | @wrapped styled _ wrapped =>
    obtain ⟨others, read, same⟩ := exists_membersOf_wrapped wrapped success
    have nothing : topLevel source [] = .ok ([], []) := by rw [topLevel]
    have whole := topLevel_append_of_plain wrapped.plain_styled read nothing
    rw [List.append_nil, List.append_nil] at whole
    exact ⟨others, [], whole, by rw [List.append_nil, same]⟩
  | @fileScoped node _ _ _ _ _ front opens named silent _ ih =>
    obtain ⟨first, second, grouped, behind, rfl⟩ := membersOf_append_eq_ok success
    obtain ⟨leading, readFront, sameFront⟩ := exists_membersOf_wrapped front grouped
    obtain ⟨following, namespaces, read, same⟩ := ih behind
    have own : membersOf source node.children = .ok [] := membersOf_of_silent silent
    have space := topLevel_cons_of_fileScoped opens named own read
    refine ⟨_, _, topLevel_append_of_plain front.plain_styled readFront space, ?_⟩
    simp only [strokesOfAll_eq, List.nil_append, List.append_nil, List.flatMap_append,
      List.flatMap_cons, strokes] at same sameFront ⊢
    rw [same, sameFront]

theorem unit_of_topLevel {root : Node} {leading namespaces : List Declaration}
    (read : topLevel source root.children = .ok (leading, namespaces)) (filePath : String) :
    unit source filePath root = .ok (.unit filePath (leading ++ namespaces)) := by
  rw [unit, read]
  rfl

/-- A source is drawn alike in every style of namespaces, and a tree is drawn alike with a
namespace and with its members in its place. -/
theorem namespaces_are_transparent (filePath indent : String) :
    (∀ (source : List UInt8) (root other : Node) (tree : Declaration),
      Styled source other.children root.children → unit source filePath root = .ok tree →
        ∃ drawn, unit source filePath other = .ok drawn ∧
          document drawn indent = document tree indent) ∧
    ∀ whole flat, Flattens whole flat → document flat indent = document whole indent := by
  refine ⟨?_, fun whole flat step => document_congr step.strokes_eq indent⟩
  intro source root other tree style built
  obtain ⟨members, namespaces, read, rfl⟩ := unit_eq_ok built
  obtain ⟨success, rfl⟩ := membersOf_of_topLevel style.plain_bare read
  obtain ⟨leading, namespaces, styled, same⟩ := exists_topLevel_styled style success
  refine ⟨_, unit_of_topLevel styled filePath, document_congr ?_ indent⟩
  rw [strokes, strokes, same, List.append_nil]

/-- `class A { }`, behind `namespace N;`. -/
def classA : Node :=
  .plain "class_declaration" none 13 24 [.plain "identifier" (some "name") 19 20 [],
    .plain "declaration_list" (some "body") 21 24 []]

/-- `enum B { C }`, in the body of a namespace `M`. -/
def enumB : Node :=
  .plain "enum_declaration" none 39 51 [.plain "identifier" (some "name") 44 45 [],
    .plain "enum_member_declaration_list" (some "body") 46 51
      [.plain "enum_member_declaration" none 48 49 [.plain "identifier" (some "name") 48 49 []]]]

def opensN : Node :=
  .plain "file_scoped_namespace_declaration" none 0 12 [.plain "identifier" (some "name") 10 11 []]

def bodyM : Node :=
  .plain "declaration_list" (some "body") 37 53
    [.plain "\x7b" none 37 38 [], enumB, .plain "\x7d" none 52 53 []]

def blockM : Node :=
  .plain "namespace_declaration" none 25 53 [.plain "identifier" (some "name") 35 36 [], bodyM]

theorem blockM_drawn_bare :
    let source := "namespace N; class A { } namespace M { enum B { C } }".toUTF8.toList
    let bare := Node.plain "compilation_unit" none 0 53 [classA, enumB]
    let styled := Node.plain "compilation_unit" none 0 53 [opensN, classA, blockM]
    ∃ tree drawn, unit source "" bare = .ok tree ∧ unit source "" styled = .ok drawn ∧
      strokes tree = [.opening "class A \x7b", .closing, .opening "enum B \x7b", .member "C,",
        .closing] ∧
      document drawn "\t" = document tree "\t" ∧
      document (.unit "" [tree]) "\t" = document (.unit "" [.namespaceBlock "N" [tree]]) "\t" := by
  intro source bare styled
  have opened : nameText source opensN = .ok "N" := by decide +kernel
  have named : nameText source blockM = .ok "M" := by decide +kernel
  have holds : body? blockM = some bodyM := rfl
  have inner : Wrapped source bodyM.children [enumB] :=
    .silent (by decide) (.plain (by decide) (.silent (by decide) .nil))
  have behind : Wrapped source [classA, blockM] [classA, enumB] :=
    .plain (by decide) (.block rfl holds named inner .nil)
  have style : Styled source styled.children bare.children :=
    .fileScoped .nil (by decide) opened (by decide) (.wrapped behind)
  have shown : (unit source "" bare).toOption.map strokes = some [.opening "class A \x7b",
      .closing, .opening "enum B \x7b", .member "C,", .closing] := by
    decide +kernel
  cases built : unit source "" bare with
  | error failure =>
    rw [built] at shown
    cases shown
  | ok tree =>
    rw [built] at shown
    obtain ⟨sources, trees⟩ := namespaces_are_transparent "" "\t"
    obtain ⟨drawn, read, same⟩ := sources source bare styled tree style built
    have step : Flattens (.unit "" [.namespaceBlock "N" [tree]]) (.unit "" [tree]) :=
      @Flattens.here (.unit "") rfl "N" [] [tree] []
    exact ⟨tree, drawn, rfl, read, Option.some.inj shown, same, trees _ _ step⟩

end ClassSketch.Outline
