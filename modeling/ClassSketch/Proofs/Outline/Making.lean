import ClassSketch.Proofs.Outline.Form

set_option autoImplicit false

namespace ClassSketch.Outline

open ClassSketch.Concrete ClassSketch.Model

variable {source : List UInt8}

def Declares (node : Node) : Prop := Text.endsWith node.type "_declaration" = true

instance (node : Node) : Decidable (Declares node) := inferInstanceAs (Decidable (_ = true))

theorem declaration?_of_not_declares {node : Node} (silent : ¬ Declares node) :
    declaration? source node = .ok none := by
  have unformed : Form.ofType? node.type = none := by
    rw [← Option.not_isSome_iff_eq_none, Form.isSome_ofType?]
    exact silent
  rw [declaration?, unformed]

def IsFileScoped (node : Node) : Prop := node.type = "file_scoped_namespace_declaration"

instance (node : Node) : Decidable (IsFileScoped node) := inferInstanceAs (Decidable (_ = _))

/-- What a node makes, with all that was read for it. -/
inductive Makes (source : List UInt8) (node : Node) : Option Declaration → Prop
  | nothing (form : Form.ofType? node.type = none) : Makes source node none
  | typeBlock {kind : TypeKind} {header : TypeHeader} {members : List Declaration}
      (form : Form.ofType? node.type = some (.type kind))
      (head : typeHeader source kind node = .ok header)
      (inner : membersOf source (held node) = .ok members) :
      Makes source node (some (.typeBlock header members))
  | enumBlock {made : Declaration} (form : Form.ofType? node.type = some .enum)
      (read : enumBlock source node = .ok made) : Makes source node (some made)
  | namespaceBlock {name : String} {members : List Declaration}
      (form : Form.ofType? node.type = some .namespaceBlock)
      (named : nameText source node = .ok name)
      (inner : membersOf source (held node) = .ok members) :
      Makes source node (some (.namespaceBlock name members))
  | field {made : Field} (form : Form.ofType? node.type = some .field)
      (read : field source node = .ok made) : Makes source node (some (.field made))
  | property {made : Property} (form : Form.ofType? node.type = some .property)
      (read : property source node = .ok made) : Makes source node (some (.property made))
  | method {made : Method} (form : Form.ofType? node.type = some .method)
      (read : method source node = .ok made) : Makes source node (some (.method made))
  | constructor {made : Constructor} (form : Form.ofType? node.type = some .constructor)
      (read : constructor source node = .ok made) : Makes source node (some (.constructor made))
  | unsupported {name : String} {members : List Declaration}
      (form : Form.ofType? node.type = some .unsupported)
      (named : nameText source node = .ok name)
      (inner : membersOf source (held node) = .ok members) :
      Makes source node (some (.unsupported node.type name members))

theorem makes_of_declaration? {node : Node} {made : Option Declaration}
    (success : declaration? source node = .ok made) : Makes source node made := by
  rw [declaration?] at success
  cases form : Form.ofType? node.type with
  | none =>
    rw [form] at success
    cases success
    exact .nothing form
  | some shape =>
    rw [form] at success
    cases shape with
    | type kind =>
      obtain ⟨header, head, success⟩ := Read.bind_eq_ok.mp success
      obtain ⟨members, inner, success⟩ := Read.bind_eq_ok.mp success
      cases success
      exact .typeBlock form head inner
    | enum =>
      obtain ⟨block, read, success⟩ := Read.bind_eq_ok.mp success
      cases success
      exact .enumBlock form read
    | namespaceBlock =>
      obtain ⟨name, named, success⟩ := Read.bind_eq_ok.mp success
      obtain ⟨members, inner, success⟩ := Read.bind_eq_ok.mp success
      cases success
      exact .namespaceBlock form named inner
    | field =>
      obtain ⟨shown, read, success⟩ := Read.bind_eq_ok.mp success
      cases success
      exact .field form read
    | property =>
      obtain ⟨shown, read, success⟩ := Read.bind_eq_ok.mp success
      cases success
      exact .property form read
    | method =>
      obtain ⟨shown, read, success⟩ := Read.bind_eq_ok.mp success
      cases success
      exact .method form read
    | constructor =>
      obtain ⟨shown, read, success⟩ := Read.bind_eq_ok.mp success
      cases success
      exact .constructor form read
    | unsupported =>
      obtain ⟨name, named, success⟩ := Read.bind_eq_ok.mp success
      obtain ⟨members, inner, success⟩ := Read.bind_eq_ok.mp success
      cases success
      exact .unsupported form named inner

theorem forall_of_mapM {α β : Type} {read : α → Read β} (holds : β → Prop)
    (each : ∀ item value, read item = .ok value → holds value) {items : List α} {values : List β}
    (success : items.mapM read = .ok values) : ∀ value ∈ values, holds value := by
  induction items generalizing values with
  | nil =>
    cases success
    intro value inside
    cases inside
  | cons item rest ih =>
    rw [List.mapM_cons] at success
    obtain ⟨value, here, success⟩ := Read.bind_eq_ok.mp success
    obtain ⟨others, later, success⟩ := Read.bind_eq_ok.mp success
    cases success
    exact List.forall_mem_cons.mpr ⟨each item value here, ih later⟩

theorem membersOf_cons_eq_ok {first : Node} {rest : List Node} {members : List Declaration}
    (success : membersOf source (first :: rest) = .ok members) :
    ∃ made others, declaration? source first = .ok made ∧ membersOf source rest = .ok others ∧
      members = made.toList ++ others := by
  rw [membersOf] at success
  obtain ⟨made, here, success⟩ := Read.bind_eq_ok.mp success
  obtain ⟨others, later, success⟩ := Read.bind_eq_ok.mp success
  exact ⟨made, others, here, later, (Read.pure_eq_ok.mp success).symm⟩

/-- Each member was made by one of the nodes. -/
theorem exists_of_mem_membersOf {nodes : List Node} {members : List Declaration}
    (success : membersOf source nodes = .ok members) {member : Declaration}
    (inside : member ∈ members) :
    ∃ node ∈ nodes, declaration? source node = .ok (some member) := by
  induction nodes generalizing members with
  | nil =>
    rw [membersOf] at success
    cases success
    cases inside
  | cons first rest ih =>
    obtain ⟨made, others, here, later, rfl⟩ := membersOf_cons_eq_ok success
    rcases List.mem_append.mp inside with isMade | isOther
    · rw [Option.mem_toList.mp isMade] at here
      exact ⟨first, List.mem_cons_self, here⟩
    · obtain ⟨node, isNode, read⟩ := ih later isOther
      exact ⟨node, List.mem_cons_of_mem first isNode, read⟩

/-- A file scoped namespace takes what follows it, and any other node stands with what follows. -/
theorem topLevel_cons_eq_ok {first : Node} {rest : List Node}
    {leading namespaces : List Declaration}
    (success : topLevel source (first :: rest) = .ok (leading, namespaces)) :
    ∃ following others, topLevel source rest = .ok (following, others) ∧
      ((IsFileScoped first ∧ ∃ name own, membersOf source first.children = .ok own ∧ leading = [] ∧
          namespaces = .namespaceBlock name (own ++ following) :: others) ∨
        (¬ IsFileScoped first ∧ ∃ made, declaration? source first = .ok made ∧
          leading = made.toList ++ following ∧ namespaces = others)) := by
  rw [topLevel] at success
  split at success
  · rename_i opens
    obtain ⟨name, _, success⟩ := Read.bind_eq_ok.mp success
    obtain ⟨own, read, success⟩ := Read.bind_eq_ok.mp success
    obtain ⟨⟨following, others⟩, later, success⟩ := Read.bind_eq_ok.mp success
    cases success
    exact ⟨following, others, later, .inl ⟨opens, name, own, read, rfl, rfl⟩⟩
  · rename_i plain
    obtain ⟨made, read, success⟩ := Read.bind_eq_ok.mp success
    obtain ⟨⟨following, others⟩, later, success⟩ := Read.bind_eq_ok.mp success
    cases success
    exact ⟨following, _, later, .inr ⟨plain, made, read, rfl, rfl⟩⟩

theorem unit_eq_ok {filePath : String} {root : Node} {tree : Declaration}
    (built : unit source filePath root = .ok tree) :
    ∃ leading namespaces, topLevel source root.children = .ok (leading, namespaces) ∧
      tree = .unit filePath (leading ++ namespaces) := by
  obtain ⟨⟨leading, namespaces⟩, read, built⟩ := Read.bind_eq_ok.mp built
  exact ⟨leading, namespaces, read, (Read.pure_eq_ok.mp built).symm⟩

/-- Induction along the members that declarations hold. -/
theorem held_induct {holds : Node → Prop}
    (step : ∀ node, (∀ child ∈ held node, holds child) → holds node) (node : Node) :
    holds node := by
  induction size : sizeOf node using Nat.strongRecOn generalizing node with
  | ind length ih =>
    subst size
    apply step
    intro child inside
    have smaller := List.sizeOf_lt_of_mem inside
    have bound := sizeOf_held_lt node
    exact ih (sizeOf child) (by omega) child rfl

/-- What a declaration has as soon as its members have it, every declaration has that is made. -/
theorem made_induct {holds : Declaration → Prop}
    (step : ∀ node made, Makes source node (some made) →
      (∀ members, membersOf source (held node) = .ok members → ∀ member ∈ members, holds member) →
        holds made)
    {node : Node} {made : Declaration} (success : declaration? source node = .ok (some made)) :
    holds made := by
  induction node using held_induct generalizing made with
  | step node ih =>
    refine step node made (makes_of_declaration? success) ?_
    intro members read member inside
    obtain ⟨child, isHeld, here⟩ := exists_of_mem_membersOf read inside
    exact ih child isHeld here

/-- What all declarations have that are made, and a namespace as soon as its members have it, the
declarations of a whole source have. -/
theorem forall_of_topLevel {holds : Declaration → Prop}
    (each : ∀ node made, declaration? source node = .ok (some made) → holds made)
    (space : ∀ name members, (∀ member ∈ members, holds member) →
      holds (.namespaceBlock name members))
    {nodes : List Node} {leading namespaces : List Declaration}
    (success : topLevel source nodes = .ok (leading, namespaces)) :
    ∀ member ∈ leading ++ namespaces, holds member := by
  induction nodes generalizing leading namespaces with
  | nil =>
    cases success
    intro member inside
    cases inside
  | cons first rest ih =>
    obtain ⟨following, others, later, ⟨_, name, own, read, rfl, rfl⟩ | ⟨_, made, here, rfl, rfl⟩⟩ :=
      topLevel_cons_eq_ok success
    · have behind := List.forall_mem_append.mp (ih later)
      rw [List.nil_append, List.forall_mem_cons]
      refine ⟨space name _ (List.forall_mem_append.mpr ⟨?_, behind.1⟩), behind.2⟩
      intro member inside
      obtain ⟨node, _, here⟩ := exists_of_mem_membersOf read inside
      exact each node member here
    · rw [List.append_assoc, List.forall_mem_append]
      refine ⟨?_, ih later⟩
      intro member inside
      rw [Option.mem_toList.mp inside] at here
      exact each first member here

end ClassSketch.Outline
