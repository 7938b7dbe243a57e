import ClassSketch.Proofs.Diagram.Element
import ClassSketch.Proofs.Text.Ending
import ClassSketch.Proofs.Text.Lines

set_option autoImplicit false

namespace ClassSketch.Text

instance (text : List Char) : Decidable (Unbroken text) :=
  decidable_of_iff (text.all fun c => !isLineEnd c) (by simp [Unbroken])

theorem unbroken_joinWith {separator : String} (whole : Unbroken separator.toList)
    (texts : List String) :
    Unbroken (joinWith separator texts).toList ↔ ∀ text ∈ texts, Unbroken text.toList := by
  induction texts with
  | nil =>
    rw [joinWith]
    simp
  | cons first rest ih =>
    cases rest with
    | nil =>
      rw [joinWith]
      simp
    | cons second rest =>
      rw [joinWith, String.toList_append, String.toList_append, unbroken_append, unbroken_append,
        ih, List.forall_mem_cons (a := first)]
      exact and_congr_left fun _ => and_iff_left whole

theorem endsIn_joinWith {fits : Char → Prop} {separator : String}
    (between : EndsIn fits separator.toList) {texts : List String}
    (each : ∀ text ∈ texts, EndsIn fits text.toList) :
    EndsIn fits (joinWith separator texts).toList := by
  induction texts with
  | nil =>
    rw [joinWith]
    exact endsIn_nil
  | cons first rest ih =>
    rw [List.forall_mem_cons] at each
    cases rest with
    | nil =>
      rw [joinWith]
      exact each.1
    | cons second rest =>
      rw [joinWith, String.toList_append, String.toList_append]
      exact endsIn_append (endsIn_append each.1 between) (ih each.2)

end ClassSketch.Text

namespace ClassSketch.Model.Notation

open ClassSketch.Text

theorem unbroken_spaced (words : List String) :
    Unbroken (spaced words).toList ↔ ∀ word ∈ words, Unbroken word.toList := by
  have space : Unbroken " ".toList := by decide
  rw [← unbroken_joinWith space words, spaced]
  split
  · rename_i empty
    rw [empty]
  · rw [String.toList_append, unbroken_append]
    exact and_iff_left space

theorem unbroken_stereotype (word : String) :
    Unbroken (stereotype word).toList ↔ Unbroken word.toList := by
  have opening : Unbroken "<<".toList := by decide
  have closing : Unbroken ">>".toList := by decide
  rw [stereotype, String.toList_append, String.toList_append, unbroken_append, unbroken_append]
  exact (and_iff_left closing).trans (and_iff_right opening)

theorem unbroken_memberWord (modifier : String) :
    Unbroken (memberWord modifier).toList ↔ Unbroken modifier.toList := by
  refine memberWord_cases
    (motive := fun modifier word => Unbroken word.toList ↔ Unbroken modifier.toList)
    (by decide) (by decide) (by decide) ?_ unbroken_stereotype modifier
  intro modifier
  have opening : Unbroken "\x7b".toList := by decide
  have closing : Unbroken "\x7d".toList := by decide
  rw [String.toList_append, String.toList_append, unbroken_append, unbroken_append]
  exact (and_iff_left closing).trans (and_iff_right opening)

theorem unbroken_ofMember (modifiers : List String) :
    Unbroken (ofMember modifiers).toList ↔ ∀ word ∈ modifiers, Unbroken word.toList := by
  rw [ofMember, unbroken_spaced, List.forall_mem_map]
  exact forall₂_congr fun word _ => unbroken_memberWord word

theorem unbroken_of_hidden {word : String} (hidden : word ∈ hiddenOnTypes) :
    Unbroken word.toList := by
  have all : ∀ word ∈ hiddenOnTypes, Unbroken word.toList := by decide
  exact all word hidden

theorem unbroken_ofType (modifiers : List String) :
    Unbroken (ofType modifiers).toList ↔ ∀ word ∈ modifiers, Unbroken word.toList := by
  rw [ofType, unbroken_spaced, List.forall_mem_map]
  constructor
  · intro shown word inside
    by_cases hidden : word ∈ hiddenOnTypes
    · exact unbroken_of_hidden hidden
    · refine (unbroken_stereotype word).mp (shown word (List.mem_filter.mpr ⟨inside, ?_⟩))
      simpa using hidden
  · intro whole word inside
    exact (unbroken_stereotype word).mpr (whole word (List.mem_filter.mp inside).1)

end ClassSketch.Model.Notation

namespace ClassSketch.Diagram

open ClassSketch.Model ClassSketch.Text

/-- The texts of a literal value, the only ones that a field or property shows. -/
def literalTexts : Option Expression → List String
  | some value => if value.isLiteral then [value.text] else []
  | none => []

def parameterTexts (parameters : List Parameter) : List String :=
  parameters.flatMap fun parameter => [parameter.name, parameter.type]

/-- The texts of the accessors that are shown. -/
def accessorTexts (accessors : List Accessor) : List String :=
  (accessors.filter fun accessor => !accessor.isPrivate).flatMap fun accessor =>
    accessor.kind :: accessor.modifiers

/-- The texts that the strokes of an element are made of. -/
def Element.shown : Element → List String
  | .typeBlock header =>
    header.name :: header.typeParameters ::
      if header.kind = .structKind then [] else header.modifiers ++ header.baseTypes
  | .enumBlock header => [header.name]
  | .enumMember member => member.name :: (member.value.map Expression.text).toList
  | .declarator field declared =>
    field.modifiers ++ declared.name :: field.type :: literalTexts declared.initializer
  | .property stored =>
    stored.modifiers ++ stored.name :: stored.type :: accessorTexts stored.accessors ++
      literalTexts stored.initializer
  | .method called =>
    called.modifiers ++ called.name :: parameterTexts called.parameters ++ [called.returnType]
  | .constructor called => called.modifiers ++ called.name :: parameterTexts called.parameters

/-- The texts that a member line or an edge may end in. -/
def Element.trailing : Element → List String
  | .typeBlock header => if header.kind = .structKind then [] else header.baseTypes
  | .enumBlock _ => []
  | .enumMember _ => []
  | .declarator field declared => field.type :: literalTexts declared.initializer
  | .property stored => literalTexts stored.initializer
  | .method called => [called.returnType]
  | .constructor _ => []

theorem unbroken_literalSuffix (value : Option Expression) :
    Unbroken (literalSuffix value).toList ↔ ∀ text ∈ literalTexts value, Unbroken text.toList := by
  cases value with
  | none => simp [literalSuffix, literalTexts]
  | some value => cases literal : value.isLiteral <;>
      simp [literalSuffix, literalTexts, literal, isLineEnd]

theorem unbroken_parametersText (parameters : List Parameter) :
    Unbroken (parametersText parameters).toList ↔
      ∀ text ∈ parameterTexts parameters, Unbroken text.toList := by
  rw [parametersText, unbroken_joinWith (by decide), List.forall_mem_map, parameterTexts,
    List.forall_mem_flatMap]
  refine forall₂_congr fun parameter _ => ?_
  simp [isLineEnd]

theorem unbroken_accessorText (accessor : Accessor) :
    Unbroken (accessorText accessor).toList ↔
      ∀ text ∈ accessor.kind :: accessor.modifiers, Unbroken text.toList := by
  rw [accessorText, Notation.unbroken_stereotype, Notation.ofAccessor, String.toList_append,
    unbroken_append, Notation.unbroken_spaced, List.forall_mem_cons, and_comm]

theorem unbroken_accessorsText (accessors : List Accessor) :
    Unbroken (accessorsText accessors).toList ↔
      ∀ text ∈ accessorTexts accessors, Unbroken text.toList := by
  rw [accessorsText, unbroken_joinWith (by decide), List.forall_mem_map, accessorTexts,
    List.forall_mem_flatMap]
  exact forall₂_congr fun accessor _ => unbroken_accessorText accessor

theorem unbroken_openingLine (header : TypeHeader) :
    Unbroken (openingLine header).toList ↔
      Unbroken header.name.toList ∧ Unbroken header.typeParameters.toList ∧
        (header.kind ≠ .structKind → ∀ word ∈ header.modifiers, Unbroken word.toList) := by
  unfold openingLine
  cases kind : header.kind with
  | structKind => simp [isLineEnd]
  | _ =>
    cases header.modifiers.contains "abstract" <;>
      simp [Notation.unbroken_ofType, TypeKind.keyword, isLineEnd]

/-- An element writes whole lines exactly when all that it shows is whole. -/
theorem Element.unbroken_iff (element : Element) :
    (∀ stroke ∈ element.strokes, Unbroken stroke.text.toList) ↔
      ∀ text ∈ element.shown, Unbroken text.toList := by
  cases element with
  | typeBlock header =>
    rw [Element.strokes, edges_eq, Element.shown]
    by_cases struct : header.kind = .structKind
    · simp [struct, Stroke.text, unbroken_openingLine, isLineEnd]
    · simp only [struct, ↓reduceIte, List.forall_mem_cons, List.forall_mem_append,
        List.forall_mem_map, Stroke.text, unbroken_openingLine]
      have closing : Unbroken "\x7d".toList := by decide
      have edge (base : String) : Unbroken (edgeLine header.name base).toList ↔
          Unbroken header.name.toList ∧ Unbroken base.toList := by
        simp [edgeLine, isLineEnd]
      constructor
      · rintro ⟨⟨name, typeParameters, modifiers⟩, _, edges⟩
        exact ⟨name, typeParameters, modifiers struct,
          fun base inside => ((edge base).mp (edges base inside)).2⟩
      · rintro ⟨name, typeParameters, modifiers, bases⟩
        exact ⟨⟨name, typeParameters, fun _ => modifiers⟩, closing,
          fun base inside => (edge base).mpr ⟨name, bases base inside⟩⟩
  | enumBlock header =>
    simp [Element.strokes, Element.shown, Stroke.text, enumLine, isLineEnd]
  | enumMember member =>
    cases value : member.value <;>
      simp [Element.strokes, Element.shown, Stroke.text, enumMemberLine, value, isLineEnd]
  | declarator field declared =>
    simp [Element.strokes, Element.shown, Stroke.text, variableLine, Notation.unbroken_ofMember,
      unbroken_literalSuffix, or_imp, forall_and, isLineEnd]
  | property stored =>
    simp [Element.strokes, Element.shown, Stroke.text, propertyLine, Notation.unbroken_ofMember,
      unbroken_accessorsText, unbroken_literalSuffix, or_imp, forall_and, isLineEnd]
  | method called =>
    simp [Element.strokes, Element.shown, Stroke.text, methodLine, Notation.unbroken_ofMember,
      unbroken_parametersText, or_imp, forall_and, isLineEnd]
  | constructor called =>
    simp [Element.strokes, Element.shown, Stroke.text, constructorLine, Notation.unbroken_ofMember,
      unbroken_parametersText, or_imp, forall_and, isLineEnd]

section Ending

variable {fits : Char → Prop}

theorem endsIn_literalSuffix (space : fits ' ') {value : Option Expression}
    (trailing : ∀ text ∈ literalTexts value, EndsIn fits text.toList) :
    EndsIn fits (literalSuffix value).toList := by
  cases value with
  | none => exact endsIn_nil
  | some value =>
    cases literal : value.isLiteral with
    | false =>
      have nothing : literalSuffix (some value) = "" := by simp [literalSuffix, literal]
      rw [nothing]
      exact endsIn_nil
    | true =>
      have shown : literalSuffix (some value) = " = " ++ value.text := by
        simp [literalSuffix, literal]
      have listed : value.text ∈ literalTexts (some value) := by simp [literalTexts, literal]
      rw [shown, String.toList_append]
      exact endsIn_append (endsIn_of_getLast? rfl space) (trailing value.text listed)

theorem endsIn_accessorsText (space : fits ' ') (angle : fits '>') (accessors : List Accessor) :
    EndsIn fits (accessorsText accessors).toList := by
  refine endsIn_joinWith (endsIn_of_getLast? rfl space) ?_
  rw [List.forall_mem_map]
  intro accessor _
  rw [accessorText, Notation.stereotype, String.toList_append]
  exact endsIn_append_right (by decide) (endsIn_of_getLast? rfl angle)

theorem getLast?_openingLine (header : TypeHeader) :
    (openingLine header).toList.getLast? = some '\x7b' := by
  unfold openingLine
  split
  · rw [String.toList_append, List.getLast?_append]
    rfl
  · rw [String.toList_append, List.getLast?_append]
    rfl

theorem getLast?_enumLine (header : EnumHeader) :
    (enumLine header).toList.getLast? = some '\x7b' := by
  rw [enumLine, String.toList_append, List.getLast?_append]
  rfl

/-- Every opening line ends in the brace that it opens. -/
theorem Element.getLast?_opening {element : Element} {header : String}
    (inside : Stroke.opening header ∈ element.strokes) : header.toList.getLast? = some '\x7b' := by
  cases element with
  | typeBlock shown =>
    rcases Element.mem_strokes_typeBlock.mp inside with same | same | edge
    · cases same
      exact getLast?_openingLine shown
    · cases same
    · obtain ⟨_, base, _, same⟩ := mem_edges.mp edge
      cases same
  | enumBlock shown =>
    rcases Element.mem_strokes_enumBlock.mp inside with same | same
    · cases same
      exact getLast?_enumLine shown
    · cases same
  | _ => cases List.mem_singleton.mp inside

/-- Member lines and edges end in a mark of their notation or in a trailing text. -/
theorem Element.endsIn (space : fits ' ') (comma : fits ',') (round : fits ')') (angle : fits '>')
    (element : Element) (trailing : ∀ text ∈ element.trailing, EndsIn fits text.toList) :
    ∀ stroke ∈ element.strokes, stroke.isBlock = false → EndsIn fits stroke.text.toList := by
  intro stroke inside flat
  cases element with
  | typeBlock header =>
    rcases Element.mem_strokes_typeBlock.mp inside with rfl | rfl | edge
    · cases flat
    · cases flat
    · obtain ⟨shown, base, isBase, rfl⟩ := mem_edges.mp edge
      rw [Element.trailing, if_neg shown] at trailing
      rw [Stroke.text, edgeLine, String.toList_append, String.toList_append]
      refine endsIn_append (endsIn_append_right (by decide) ?_) (trailing base isBase)
      exact endsIn_of_getLast? rfl space
  | enumBlock header =>
    rcases Element.mem_strokes_enumBlock.mp inside with rfl | rfl
    · cases flat
    · cases flat
  | enumMember member =>
    cases List.mem_singleton.mp inside
    rw [Stroke.text, enumMemberLine, String.toList_append]
    exact endsIn_append_right (by decide) (endsIn_of_getLast? rfl comma)
  | declarator field declared =>
    cases List.mem_singleton.mp inside
    rw [Element.trailing, List.forall_mem_cons] at trailing
    rw [Stroke.text, variableLine, String.toList_append, String.toList_append, String.toList_append]
    refine endsIn_append (endsIn_append (endsIn_append_right (by decide) ?_) trailing.1)
      (endsIn_literalSuffix space trailing.2)
    exact endsIn_of_getLast? rfl space
  | property stored =>
    cases List.mem_singleton.mp inside
    rw [Stroke.text, propertyLine, String.toList_append, String.toList_append,
      String.toList_append (t := " ")]
    refine endsIn_append (endsIn_append (endsIn_append_right (by decide) ?_)
      (endsIn_accessorsText space angle _)) (endsIn_literalSuffix space trailing)
    exact endsIn_of_getLast? rfl space
  | method called =>
    cases List.mem_singleton.mp inside
    rw [Element.trailing, List.forall_mem_singleton] at trailing
    rw [Stroke.text, methodLine, String.toList_append, String.toList_append]
    refine endsIn_append (endsIn_append_right (by decide) ?_) trailing
    exact endsIn_of_getLast? rfl space
  | constructor called =>
    cases List.mem_singleton.mp inside
    rw [Stroke.text, constructorLine, String.toList_append]
    exact endsIn_append_right (by decide) (endsIn_of_getLast? rfl round)

end Ending

end ClassSketch.Diagram
