import ClassSketch.Proofs.Diagram.Skipping
import ClassSketch.Proofs.Outline.Making

set_option autoImplicit false

namespace ClassSketch.Outline

open ClassSketch.Concrete ClassSketch.Model ClassSketch.Diagram ClassSketch.Text

variable {source : List UInt8} {node : Node} {nodes : List Node}

theorem stripped_strippedText {text : String} (success : strippedText source node = .ok text) :
    Stripped text := by
  obtain ⟨whole, _, success⟩ := Read.bind_eq_ok.mp success
  cases success
  exact stripped_strip whole

theorem stripped_strippedText? {found : Option Node} {text : String}
    (success : strippedText? source found = .ok text) : Stripped text := by
  cases found with
  | none =>
    cases success
    exact stripped_empty
  | some node => exact stripped_strippedText success

theorem stripped_textsOf {texts : List String} (success : textsOf source nodes = .ok texts) :
    ∀ text ∈ texts, Stripped text := by
  induction nodes generalizing texts with
  | nil =>
    cases success
    simp
  | cons first rest ih =>
    obtain ⟨text, read, success⟩ := Read.bind_eq_ok.mp success
    obtain ⟨others, later, success⟩ := Read.bind_eq_ok.mp success
    cases success
    exact List.forall_mem_cons.mpr ⟨stripped_strippedText read, ih later⟩

theorem stripped_modifiers {words : List String} (success : modifiers source node = .ok words) :
    ∀ word ∈ words, Stripped word :=
  stripped_textsOf success

theorem neat_expression? {found : Option Node} {value : Option Expression}
    (success : expression? source found = .ok value) : ∀ made ∈ value, made.Neat := by
  cases found with
  | none =>
    cases success
    simp
  | some node =>
    obtain ⟨made, read, success⟩ := Read.bind_eq_ok.mp success
    cases success
    obtain ⟨whole, _, read⟩ := Read.bind_eq_ok.mp read
    cases read
    intro other same
    cases same
    exact ⟨stripped_foldExpression whole, not_mem_foldExpression whole⟩

theorem neat_basesOf {texts : List String} (success : basesOf source nodes = .ok texts) :
    ∀ base ∈ texts, base ≠ "" ∧ Stripped base := by
  induction nodes generalizing texts with
  | nil =>
    cases success
    simp
  | cons first rest ih =>
    obtain ⟨base, _, success⟩ := Read.bind_eq_ok.mp success
    obtain ⟨text, read, success⟩ := Read.bind_eq_ok.mp success
    obtain ⟨others, later, success⟩ := Read.bind_eq_ok.mp success
    cases success
    split
    · exact ih later
    · rename_i filled
      exact List.forall_mem_cons.mpr ⟨⟨filled, stripped_strippedText read⟩, ih later⟩

theorem neat_baseTypes {texts : List String} (success : baseTypes source node = .ok texts) :
    ∀ base ∈ texts, base ≠ "" ∧ Stripped base := by
  unfold baseTypes basesIn at success
  split at success
  · exact neat_basesOf success
  · cases success
    simp

/-- A type that has been read and waits for its name is stripped. -/
def ParameterScan.Neat : ParameterScan → Prop
  | .afterType type => Stripped type
  | _ => True

theorem neat_parametersFrom {scan : ParameterScan} {listed : List Parameter} (neat : scan.Neat)
    (success : parametersFrom source scan nodes = .ok listed) :
    ∀ parameter ∈ listed, parameter.Neat := by
  fun_induction parametersFrom source scan nodes generalizing listed
  case case1 =>
    cases success
    simp
  case case2 ih => exact ih neat success
  case case3 ih =>
    obtain ⟨name, _, success⟩ := Read.bind_eq_ok.mp success
    obtain ⟨type, read, success⟩ := Read.bind_eq_ok.mp success
    obtain ⟨others, later, success⟩ := Read.bind_eq_ok.mp success
    cases success
    exact List.forall_mem_cons.mpr ⟨⟨stripped_strippedText? read⟩, ih neat later⟩
  case case4 ih => exact ih trivial success
  case case5 ih => exact ih trivial success
  case case6 ih =>
    obtain ⟨type, read, success⟩ := Read.bind_eq_ok.mp success
    exact ih type (stripped_strippedText read) success
  case case7 ih =>
    obtain ⟨name, _, success⟩ := Read.bind_eq_ok.mp success
    obtain ⟨others, later, success⟩ := Read.bind_eq_ok.mp success
    cases success
    exact List.forall_mem_cons.mpr ⟨⟨neat⟩, ih trivial later⟩
  case case8 ih => exact ih neat success

theorem neat_parameters {listed : List Parameter} (success : parameters source node = .ok listed) :
    ∀ parameter ∈ listed, parameter.Neat := by
  unfold parameters at success
  split at success
  · rename_i list _
    have outside : ParameterScan.outside.Neat := trivial
    exact neat_parametersFrom outside success
  · cases success
    simp

theorem mem_accessorKinds {kind : String}
    (success : accessorKind source node = .ok (some kind)) : kind ∈ accessorKinds := by
  obtain ⟨word, _, success⟩ := Read.bind_eq_ok.mp success
  have found := Read.pure_eq_ok.mp success
  split at found
  · rename_i keyword
    cases found
    exact List.contains_iff_mem.mp keyword
  · obtain ⟨child, picked, rfl⟩ := Option.map_eq_some_iff.mp found
    have keyword := List.find?_some picked
    exact List.contains_iff_mem.mp keyword

theorem neat_accessorsOf {listed : List Accessor}
    (success : accessorsOf source nodes = .ok listed) : ∀ accessor ∈ listed, accessor.Neat := by
  induction nodes generalizing listed with
  | nil =>
    cases success
    simp
  | cons first rest ih =>
    obtain ⟨kind, read, success⟩ := Read.bind_eq_ok.mp success
    cases kind with
    | none => exact ih success
    | some kind =>
      obtain ⟨words, worded, success⟩ := Read.bind_eq_ok.mp success
      obtain ⟨others, later, success⟩ := Read.bind_eq_ok.mp success
      cases success
      exact List.forall_mem_cons.mpr
        ⟨⟨mem_accessorKinds read, stripped_modifiers worded⟩, ih later⟩

/-- The readings behind a property. An arrow adds an accessor and hides the value. -/
theorem property_eq_ok {made : Property} (success : property source node = .ok made) :
    ∃ listed found, accessors source (node.part? "accessors" "accessor_list") = .ok listed ∧
      (made.accessors = listed ∨ made.accessors = listed ++ [⟨"get", []⟩]) ∧
      expression? source found = .ok made.initializer ∧
      strippedText? source (node.field? "type") = .ok made.type ∧
      modifiers source node = .ok made.modifiers := by
  simp only [property] at success
  obtain ⟨listed, read, success⟩ := Read.bind_eq_ok.mp success
  split at success
  · obtain ⟨initializer, nothing, success⟩ := Read.bind_eq_ok.mp success
    obtain ⟨name, _, success⟩ := Read.bind_eq_ok.mp success
    obtain ⟨type, typed, success⟩ := Read.bind_eq_ok.mp success
    obtain ⟨words, worded, success⟩ := Read.bind_eq_ok.mp success
    cases nothing
    cases success
    exact ⟨listed, none, read, .inr rfl, rfl, typed, worded⟩
  · obtain ⟨initializer, valued, success⟩ := Read.bind_eq_ok.mp success
    obtain ⟨name, _, success⟩ := Read.bind_eq_ok.mp success
    obtain ⟨type, typed, success⟩ := Read.bind_eq_ok.mp success
    obtain ⟨words, worded, success⟩ := Read.bind_eq_ok.mp success
    cases success
    exact ⟨listed, _, read, .inl rfl, valued, typed, worded⟩

theorem neat_property {made : Property} (success : property source node = .ok made) :
    made.Neat := by
  obtain ⟨listed, found, read, shown, valued, typed, worded⟩ := property_eq_ok success
  have neat : ∀ accessor ∈ listed, accessor.Neat := neat_accessorsOf read
  refine ⟨stripped_strippedText? typed, ?_, stripped_modifiers worded, neat_expression? valued⟩
  rcases shown with same | longer
  · rwa [same]
  · have get : Accessor.Neat ⟨"get", []⟩ := ⟨by decide, by simp⟩
    rw [longer, List.forall_mem_append, List.forall_mem_singleton]
    exact ⟨neat, get⟩

theorem neat_method {made : Method} (success : method source node = .ok made) : made.Neat := by
  obtain ⟨name, _, success⟩ := Read.bind_eq_ok.mp success
  obtain ⟨returnType, read, success⟩ := Read.bind_eq_ok.mp success
  obtain ⟨listed, parameters, success⟩ := Read.bind_eq_ok.mp success
  obtain ⟨words, worded, success⟩ := Read.bind_eq_ok.mp success
  cases success
  exact ⟨stripped_strippedText? read, neat_parameters parameters, stripped_modifiers worded⟩

theorem neat_constructor {made : Constructor} (success : constructor source node = .ok made) :
    made.Neat := by
  obtain ⟨name, _, success⟩ := Read.bind_eq_ok.mp success
  obtain ⟨listed, parameters, success⟩ := Read.bind_eq_ok.mp success
  obtain ⟨words, worded, success⟩ := Read.bind_eq_ok.mp success
  cases success
  exact ⟨neat_parameters parameters, stripped_modifiers worded⟩

theorem neat_declarator {made : Variable} (success : declarator source node = .ok made) :
    made.Neat := by
  obtain ⟨name, _, success⟩ := Read.bind_eq_ok.mp success
  obtain ⟨initializer, read, success⟩ := Read.bind_eq_ok.mp success
  cases success
  exact ⟨neat_expression? read⟩

theorem neat_field {made : Field} (success : field source node = .ok made) : made.Neat := by
  obtain ⟨type, read, success⟩ := Read.bind_eq_ok.mp success
  obtain ⟨declared, listed, success⟩ := Read.bind_eq_ok.mp success
  obtain ⟨words, worded, success⟩ := Read.bind_eq_ok.mp success
  cases success
  refine ⟨stripped_strippedText? read, ?_, stripped_modifiers worded⟩
  exact forall_of_mapM Variable.Neat (fun _ _ => neat_declarator) listed

theorem neat_enumMember {made : EnumMember} (success : enumMember source node = .ok made) :
    made.Neat := by
  obtain ⟨name, _, success⟩ := Read.bind_eq_ok.mp success
  obtain ⟨value, read, success⟩ := Read.bind_eq_ok.mp success
  cases success
  exact ⟨neat_expression? read⟩

theorem isMember_enumBlock {made : Declaration} (success : enumBlock source node = .ok made) :
    made.IsMember := by
  obtain ⟨members, listed, success⟩ := Read.bind_eq_ok.mp success
  obtain ⟨header, read, success⟩ := Read.bind_eq_ok.mp success
  cases success
  obtain ⟨name, _, read⟩ := Read.bind_eq_ok.mp read
  obtain ⟨words, worded, read⟩ := Read.bind_eq_ok.mp read
  cases read
  exact .enumBlock ⟨stripped_modifiers worded⟩
    (forall_of_mapM EnumMember.Neat (fun _ _ => neat_enumMember) listed)

theorem neat_typeHeader {kind : TypeKind} {header : TypeHeader}
    (success : typeHeader source kind node = .ok header) : header.Neat := by
  obtain ⟨name, _, success⟩ := Read.bind_eq_ok.mp success
  obtain ⟨typeParameters, read, success⟩ := Read.bind_eq_ok.mp success
  obtain ⟨words, worded, success⟩ := Read.bind_eq_ok.mp success
  obtain ⟨bases, based, success⟩ := Read.bind_eq_ok.mp success
  cases success
  exact ⟨stripped_strippedText? read, stripped_modifiers worded, neat_baseTypes based⟩

theorem shapeless_of_ofType? {kind : String} (form : Form.ofType? kind = some .unsupported) :
    Shapeless kind := by
  refine ⟨Form.fits_of_ofType? form, ?_⟩
  intro shaped
  simp only [shapedKinds, List.mem_cons, List.not_mem_nil, or_false] at shaped
  rcases shaped with rfl | rfl | rfl | rfl | rfl | rfl | rfl | rfl | rfl <;> cases form

theorem isMember_declaration? {made : Declaration}
    (success : declaration? source node = .ok (some made)) : made.IsMember := by
  refine made_induct ?_ success
  intro node made makes held
  cases makes with
  | typeBlock _ head inner => exact .typeBlock (neat_typeHeader head) (held _ inner)
  | enumBlock _ read => exact isMember_enumBlock read
  | namespaceBlock _ _ inner => exact .namespaceBlock _ (held _ inner)
  | field _ read => exact .field (neat_field read)
  | property _ read => exact .property (neat_property read)
  | method _ read => exact .method (neat_method read)
  | constructor _ read => exact .constructor (neat_constructor read)
  | unsupported form _ inner => exact .unsupported _ (shapeless_of_ofType? form) (held _ inner)

theorem wellFormed_unit {filePath : String} {root : Node} {tree : Declaration}
    (built : unit source filePath root = .ok tree) : tree.WellFormed := by
  obtain ⟨leading, namespaces, read, rfl⟩ := unit_eq_ok built
  refine .unit filePath (forall_of_topLevel ?_ ?_ read)
  · exact fun node made => isMember_declaration?
  · exact fun name members => .namespaceBlock name

/-- A tree that is built is well formed, and its drawing says nothing but that it passes over each
declaration without a shape, in the order of the tree. -/
theorem built_tree_wellFormed {filePath : String} {root : Node} {tree : Declaration}
    (built : unit source filePath root = .ok tree) :
    tree.WellFormed ∧ (∀ part, .unknown part ∉ skips tree) ∧
      entries tree = tree.preorder.filterMap fun found => match found with
        | .unsupported kind name _ =>
          some ⟨.debug, .drawing, "Skipping unsupported declaration " ++ kind ++ " " ++ name⟩
        | _ => none := by
  have wellFormed := wellFormed_unit built
  have skipped := skips_wellFormed wellFormed
  refine ⟨wellFormed, ?_, ?_⟩
  · intro part inside
    rw [skipped, unsupportedIn, List.mem_filterMap] at inside
    obtain ⟨found, _, same⟩ := inside
    cases found <;> cases same
  · rw [entries, skipped, unsupportedIn, List.map_filterMap]
    congr 1
    funext found
    cases found <;> rfl

/-- A class `A` with an event, which has no shape, and an enum `B` with a member `C`. -/
def eventAndEnum : Node :=
  let member := Node.plain "enum_member_declaration" none 29 30
    [.plain "identifier" (some "name") 29 30 []]
  let block := Node.plain "enum_declaration" none 20 32 [.plain "identifier" (some "name") 25 26 [],
    .plain "enum_member_declaration_list" (some "body") 27 32 [member]]
  .plain "compilation_unit" none 0 34 [.plain "class_declaration" none 0 34
    [.plain "identifier" (some "name") 6 7 [], .plain "declaration_list" (some "body") 8 34
      [.plain "event_field_declaration" none 10 19 [], block]]]

theorem eventAndEnum_wellFormed :
    ∃ tree, unit "class A { event D e enum B { C } }".toUTF8.toList "" eventAndEnum =
        .ok tree ∧ tree.WellFormed ∧
      entries tree =
        [⟨.debug, .drawing, "Skipping unsupported declaration event_field_declaration "⟩] := by
  let source := "class A { event D e enum B { C } }".toUTF8.toList
  have told : (unit source "" eventAndEnum).toOption.map entries = some
      [⟨.debug, .drawing, "Skipping unsupported declaration event_field_declaration "⟩] := by
    decide +kernel
  cases built : unit source "" eventAndEnum with
  | error failure =>
    rw [built] at told
    cases told
  | ok tree =>
    rw [built] at told
    exact ⟨tree, rfl, (built_tree_wellFormed built).1, Option.some.inj told⟩

end ClassSketch.Outline
