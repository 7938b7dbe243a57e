import ClassSketch.Proofs.Diagram.Line
import Mathlib.Data.List.Forall2

set_option autoImplicit false

namespace ClassSketch.Model

def Declaration.isLoose : Declaration → Bool
  | .loose _ => true
  | _ => false

/-- The members without the parts that are no declarations of their own. -/
def known (members : List Declaration) : List Declaration :=
  members.filter fun member => !member.isLoose

end ClassSketch.Model

namespace ClassSketch.Diagram

open ClassSketch.Model

/-- No value, or none that is a literal. -/
def Unshown (initializer : Option Expression) : Prop :=
  ∀ value, initializer = some value → value.isLiteral = false

def SameInitializer (first second : Option Expression) : Prop :=
  first = second ∨ (Unshown first ∧ Unshown second)

structure SameVariable (first second : Variable) : Prop where
  name : first.name = second.name
  initializer : SameInitializer first.initializer second.initializer

structure SameField (first second : Field) : Prop where
  type : first.type = second.type
  modifiers : first.modifiers = second.modifiers
  declared : List.Forall₂ SameVariable first.declared second.declared

/-- Private accessors may come and go. -/
structure SameProperty (first second : Property) : Prop where
  name : first.name = second.name
  type : first.type = second.type
  modifiers : first.modifiers = second.modifiers
  accessors : (first.accessors.filter fun accessor => !accessor.isPrivate) =
    second.accessors.filter fun accessor => !accessor.isPrivate
  initializer : SameInitializer first.initializer second.initializer

/-- Modifiers of a class or interface that agree on `abstract` and on all but access. -/
structure SameModifiers (first second : List String) : Prop where
  abstractness : "abstract" ∈ first ↔ "abstract" ∈ second
  shown :
    (first.filter fun word =>
      word ∉ ["public", "private", "protected", "internal", "abstract"]) =
    second.filter fun word =>
      word ∉ ["public", "private", "protected", "internal", "abstract"]

/-- A structure may differ in its modifiers and bases. -/
structure SameHeader (first second : TypeHeader) : Prop where
  kind : first.kind = second.kind
  name : first.name = second.name
  typeParameters : first.typeParameters = second.typeParameters
  modifiers : first.kind ≠ .structKind → SameModifiers first.modifiers second.modifiers
  baseTypes : first.kind ≠ .structKind → first.baseTypes = second.baseTypes

/-- Two trees of one shape that differ in hidden parts only. Loose parts may come and go among the
members of any declaration, and all but the containers among those of an unsupported one. -/
inductive Alike : Declaration → Declaration → Prop
  | unit (filePath other : String) (members others : List Declaration)
      (held : List.Forall₂ Alike (known members) (known others)) :
      Alike (.unit filePath members) (.unit other others)
  | namespaceBlock (name other : String) (members others : List Declaration)
      (held : List.Forall₂ Alike (known members) (known others)) :
      Alike (.namespaceBlock name members) (.namespaceBlock other others)
  | typeBlock (header other : TypeHeader) (members others : List Declaration)
      (same : SameHeader header other)
      (held : List.Forall₂ Alike (known members) (known others)) :
      Alike (.typeBlock header members) (.typeBlock other others)
  | enumBlock (header other : EnumHeader) (members others : List Declaration)
      (name : header.name = other.name)
      (held : List.Forall₂ Alike (known members) (known others)) :
      Alike (.enumBlock header members) (.enumBlock other others)
  | enumMember (member : EnumMember) : Alike (.enumMember member) (.enumMember member)
  | field (field other : Field) (same : SameField field other) :
      Alike (.field field) (.field other)
  | property (property other : Property) (same : SameProperty property other) :
      Alike (.property property) (.property other)
  | method (method : Method) : Alike (.method method) (.method method)
  | constructor (constructor : Constructor) :
      Alike (.constructor constructor) (.constructor constructor)
  | unsupported (kind name otherKind otherName : String) (members others : List Declaration)
      (held : List.Forall₂ Alike (members.filter Declaration.isContainer)
        (others.filter Declaration.isContainer)) :
      Alike (.unsupported kind name members) (.unsupported otherKind otherName others)
  | loose (part other : Part) : Alike (.loose part) (.loose other)

theorem literalSuffix_of_unshown {initializer : Option Expression}
    (unshown : Unshown initializer) : literalSuffix initializer = "" := by
  cases initializer with
  | none => rfl
  | some value =>
    have hidden : value.isLiteral = false := unshown value rfl
    simp [literalSuffix, hidden]

theorem SameInitializer.literalSuffix_eq {first second : Option Expression}
    (same : SameInitializer first second) : literalSuffix first = literalSuffix second := by
  rcases same with equal | ⟨left, right⟩
  · rw [equal]
  · rw [literalSuffix_of_unshown left, literalSuffix_of_unshown right]

theorem SameVariable.variableLine_eq {first second : Variable} (same : SameVariable first second)
    {field other : Field} (type : field.type = other.type)
    (modifiers : field.modifiers = other.modifiers) :
    variableLine field first = variableLine other second := by
  have suffix := same.initializer.literalSuffix_eq
  simp only [variableLine, type, modifiers, same.name, suffix]

theorem SameField.strokes_eq {first second : Field} (same : SameField first second) :
    strokes (.field first) = strokes (.field second) := by
  rw [strokes, strokes]
  have drawn {left right : List Variable} (each : List.Forall₂ SameVariable left right) :
      left.map (fun declarator => Stroke.member (variableLine first declarator)) =
        right.map fun declarator => Stroke.member (variableLine second declarator) := by
    induction each with
    | nil => rfl
    | cons here _ ih =>
      have line := here.variableLine_eq same.type same.modifiers
      rw [List.map_cons, List.map_cons, ih, line]
  exact drawn same.declared

theorem SameProperty.propertyLine_eq {first second : Property} (same : SameProperty first second) :
    propertyLine first = propertyLine second := by
  have suffix := same.initializer.literalSuffix_eq
  have accessors : accessorsText first.accessors = accessorsText second.accessors := by
    rw [accessorsText, same.accessors, accessorsText]
  simp only [propertyLine, same.name, same.type, same.modifiers, accessors, suffix]

theorem SameModifiers.contains_abstract {first second : List String}
    (same : SameModifiers first second) :
    first.contains "abstract" = second.contains "abstract" := by
  have agree := same.abstractness
  rw [Bool.eq_iff_iff, List.contains_iff_mem, List.contains_iff_mem]
  exact agree

theorem SameModifiers.ofType_eq {first second : List String} (same : SameModifiers first second) :
    Notation.ofType first = Notation.ofType second := by
  have shown : (first.filter fun word => !Notation.hiddenOnTypes.contains word) =
      second.filter fun word => !Notation.hiddenOnTypes.contains word := by
    simpa [Notation.hiddenOnTypes] using same.shown
  rw [Notation.ofType, shown, Notation.ofType]

theorem openingLine_struct {header : TypeHeader} (isStruct : header.kind = .structKind) :
    openingLine header =
      "class " ++ header.name ++ header.typeParameters ++ " <<struct>> \x7b" := by
  rw [openingLine, isStruct]

theorem openingLine_block {header : TypeHeader} (isBlock : header.kind ≠ .structKind) :
    openingLine header =
      (if header.modifiers.contains "abstract" then "abstract " else "") ++ header.kind.keyword ++
        " " ++ header.name ++ header.typeParameters ++ " " ++ Notation.ofType header.modifiers ++
        "\x7b" := by
  unfold openingLine
  cases kind : header.kind with
  | structKind => exact absurd kind isBlock
  | classKind => rfl
  | interfaceKind => rfl

theorem SameHeader.openingLine_eq {first second : TypeHeader} (same : SameHeader first second) :
    openingLine first = openingLine second := by
  by_cases isStruct : first.kind = .structKind
  · have other : second.kind = .structKind := same.kind ▸ isStruct
    rw [openingLine_struct isStruct, openingLine_struct other, same.name, same.typeParameters]
  · have other : second.kind ≠ .structKind := same.kind ▸ isStruct
    have modifiers := same.modifiers isStruct
    rw [openingLine_block isStruct, openingLine_block other, modifiers.contains_abstract,
      modifiers.ofType_eq, same.kind, same.name, same.typeParameters]

theorem SameHeader.edges_eq {first second : TypeHeader} (same : SameHeader first second) :
    edges first = edges second := by
  by_cases isStruct : first.kind = .structKind
  · have other : second.kind = .structKind := same.kind ▸ isStruct
    simp only [Diagram.edges_eq, isStruct, other, ↓reduceIte]
  · have other : second.kind ≠ .structKind := same.kind ▸ isStruct
    simp only [Diagram.edges_eq, isStruct, other, ↓reduceIte, same.baseTypes isStruct, same.name]

theorem strokes_of_isLoose {tree : Declaration} (loose : tree.isLoose = true) :
    strokes tree = [] := by
  cases tree with
  | loose part => rw [strokes]
  | _ => cases loose

theorem flatMap_strokes_known (members : List Declaration) :
    (known members).flatMap strokes = members.flatMap strokes := by
  unfold known
  induction members with
  | nil => rfl
  | cons first rest ih =>
    cases loose : first.isLoose with
    | true =>
      have silent := strokes_of_isLoose loose
      simp [loose, silent, ih]
    | false => simp [loose, ih]

theorem flatMap_strokes_eq {members others : List Declaration}
    (held : (known members).flatMap strokes = (known others).flatMap strokes) :
    members.flatMap strokes = others.flatMap strokes := by
  rwa [flatMap_strokes_known, flatMap_strokes_known] at held

/-- Trees that differ in hidden parts only are drawn with the same strokes. -/
theorem Alike.strokes_eq {first second : Declaration} (alike : Alike first second) :
    strokes first = strokes second := by
  -- the relation holds lists of itself, so the induction needs a motive for lists too
  refine @Alike.rec (fun first second _ => strokes first = strokes second)
    (fun members others _ => members.flatMap strokes = others.flatMap strokes)
    ?unit ?namespaceBlock ?typeBlock ?enumBlock ?enumMember ?field ?property ?method ?constructor
    ?unsupported ?loose ?nil ?cons first second alike
  case unit =>
    intro filePath other members others _ held
    rw [strokes, strokes, strokesOfAll_eq, strokesOfAll_eq, flatMap_strokes_eq held]
  case namespaceBlock =>
    intro name other members others _ held
    rw [strokes, strokes, strokesOfAll_eq, strokesOfAll_eq, flatMap_strokes_eq held]
  case typeBlock =>
    intro header other members others same _ held
    rw [strokes, strokes, strokesOfAll_eq, strokesOfAll_eq, flatMap_strokes_eq held,
      same.openingLine_eq, same.edges_eq]
  case enumBlock =>
    intro header other members others name _ held
    have line : enumLine header = enumLine other := by rw [enumLine, name, enumLine]
    rw [strokes, strokes, strokesOfAll_eq, strokesOfAll_eq, flatMap_strokes_eq held, line]
  case enumMember => intros; rfl
  case field =>
    intro field other same
    exact same.strokes_eq
  case property =>
    intro property other same
    rw [strokes, strokes, same.propertyLine_eq]
  case method => intros; rfl
  case constructor => intros; rfl
  case unsupported =>
    intro kind name otherKind otherName members others _ held
    rw [strokes, strokes, strokesOfContainers_eq, strokesOfContainers_eq, held]
  case loose =>
    intro part other
    rw [strokes, strokes]
  case nil => rfl
  case cons =>
    intro first second rest others _ _ here later
    rw [List.flatMap_cons, List.flatMap_cons, here, later]

theorem body_congr {first second : Declaration} (same : strokes first = strokes second)
    (indent : String) : body first indent = body second indent := by
  rw [body, Emitter.visit, same, body, Emitter.visit]

theorem document_congr {first second : Declaration} (same : strokes first = strokes second)
    (indent : String) : document first indent = document second indent := by
  rw [document, Emitter.visit, same, document, Emitter.visit]

theorem Alike.refl (tree : Declaration) : Alike tree tree := by
  have all {members : List Declaration} (each : ∀ member ∈ members, Alike member member)
      (keeps : Declaration → Bool) :
      List.Forall₂ Alike (members.filter keeps) (members.filter keeps) := by
    apply List.forall₂_same.mpr
    intro member inside
    exact each member (List.mem_filter.mp inside).1
  induction tree with
  | unit filePath members ih => exact .unit _ _ _ _ (all ih _)
  | namespaceBlock name members ih => exact .namespaceBlock _ _ _ _ (all ih _)
  | typeBlock header members ih =>
    have same : SameHeader header header := ⟨rfl, rfl, rfl, fun _ => ⟨.rfl, rfl⟩, fun _ => rfl⟩
    exact .typeBlock _ _ _ _ same (all ih _)
  | enumBlock header members ih => exact .enumBlock _ _ _ _ rfl (all ih _)
  | enumMember member => exact .enumMember member
  | field field =>
    have declared : List.Forall₂ SameVariable field.declared field.declared :=
      List.forall₂_same.mpr fun _ _ => ⟨rfl, .inl rfl⟩
    exact .field _ _ ⟨rfl, rfl, declared⟩
  | property property => exact .property _ _ ⟨rfl, rfl, rfl, rfl, .inl rfl⟩
  | method method => exact .method method
  | constructor constructor => exact .constructor constructor
  | unsupported kind name members ih => exact .unsupported _ _ _ _ _ _ (all ih _)
  | loose part => exact .loose part part

/-- What the diagram hides does not show in it, neither with its frame nor without. -/
theorem document_hides {first second : Declaration} (alike : Alike first second)
    (indent : String) :
    document first indent = document second indent ∧ body first indent = body second indent := by
  have same := alike.strokes_eq
  exact ⟨document_congr same indent, body_congr same indent⟩

/-- An abstract class with a computed field and a private setter, and a record behind it. -/
def guardedUnit : Declaration :=
  .unit "Guarded.cs"
    [.namespaceBlock "Inner"
      [.typeBlock ⟨.classKind, "A", "<T>", ["public", "abstract", "partial"], ["B"]⟩
        [.field ⟨"int", [⟨"x", some ⟨"invocation_expression", "f()"⟩⟩], ["private"]⟩,
          .property ⟨"P", "int", [⟨"get", []⟩, ⟨"set", ["private"]⟩], [], none⟩],
      .unsupported "record_declaration" "R"
        [.method ⟨"f", "void", [], []⟩, .enumBlock ⟨"E", ["public"]⟩ [.enumMember ⟨"One", none⟩]],
      .typeBlock ⟨.structKind, "S", "", ["readonly"], ["I"]⟩ []]]

/-- The same as far as a diagram shows. -/
def openUnit : Declaration :=
  .unit "Open.cs"
    [.loose (.expression ⟨"identifier", "x"⟩),
      .namespaceBlock "Outer"
      [.typeBlock ⟨.classKind, "A", "<T>", ["abstract", "partial", "internal"], ["B"]⟩
        [.field ⟨"int", [⟨"x", none⟩], ["private"]⟩,
          .property ⟨"P", "int", [⟨"init", ["private"]⟩, ⟨"get", []⟩], [],
            some ⟨"identifier", "zero"⟩⟩],
      .unsupported "interface_like" "Q"
        [.enumBlock ⟨"E", []⟩ [.enumMember ⟨"One", none⟩], .field ⟨"int", [], []⟩],
      .typeBlock ⟨.structKind, "S", "", [], []⟩ [.loose (.parameter ⟨"p", "int"⟩)]]]

theorem guardedUnit_draws_as_openUnit :
    Alike guardedUnit openUnit ∧ document guardedUnit "\t" = document openUnit "\t" := by
  have header : SameHeader ⟨.classKind, "A", "<T>", ["public", "abstract", "partial"], ["B"]⟩
      ⟨.classKind, "A", "<T>", ["abstract", "partial", "internal"], ["B"]⟩ :=
    ⟨rfl, rfl, rfl, fun _ => ⟨by decide, by decide⟩, fun _ => rfl⟩
  have computed : SameInitializer (some ⟨"invocation_expression", "f()"⟩) none := by
    refine .inr ⟨?_, ?_⟩
    · rintro value ⟨⟩
      decide
    · intro value none
      cases none
  have named : SameInitializer none (some ⟨"identifier", "zero"⟩) := by
    refine .inr ⟨?_, ?_⟩
    · intro value none
      cases none
    · rintro value ⟨⟩
      decide
  have property : SameProperty ⟨"P", "int", [⟨"get", []⟩, ⟨"set", ["private"]⟩], [], none⟩
      ⟨"P", "int", [⟨"init", ["private"]⟩, ⟨"get", []⟩], [], some ⟨"identifier", "zero"⟩⟩ :=
    ⟨rfl, rfl, rfl, by decide, named⟩
  have alike : Alike guardedUnit openUnit := by
    refine .unit _ _ _ _
      (.cons (.namespaceBlock _ _ _ _ (.cons ?_ (.cons ?_ (.cons ?_ .nil)))) .nil)
    · refine .typeBlock _ _ _ _ header (.cons ?_ (.cons ?_ .nil))
      · exact .field _ _ ⟨rfl, rfl, .cons ⟨rfl, computed⟩ .nil⟩
      · exact .property _ _ property
    · refine .unsupported _ _ _ _ _ _ (.cons ?_ .nil)
      exact .enumBlock _ _ _ _ rfl (.cons (.refl _) .nil)
    · refine .typeBlock _ _ _ _ ⟨rfl, rfl, rfl, ?_, ?_⟩ .nil
      · intro other
        exact absurd rfl other
      · intro other
        exact absurd rfl other
  exact ⟨alike, (document_hides alike "\t").1⟩

end ClassSketch.Diagram
