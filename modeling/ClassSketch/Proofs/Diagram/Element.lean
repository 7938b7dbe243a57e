import ClassSketch.Proofs.Diagram.Line

set_option autoImplicit false

namespace ClassSketch.Diagram

open ClassSketch.Model

inductive Element where
  | typeBlock (header : TypeHeader)
  | enumBlock (header : EnumHeader)
  | enumMember (member : EnumMember)
  | declarator (field : Field) (declared : Variable)
  | property (property : Property)
  | method (method : Method)
  | constructor (constructor : Constructor)

mutual

/-- The elements of a declaration in source order. An unsupported declaration shows only the
containers in it. -/
def elements : Declaration → List Element
  | .unit _ members => elementsOfAll members
  | .namespaceBlock _ members => elementsOfAll members
  | .typeBlock header members => .typeBlock header :: elementsOfAll members
  | .enumBlock header members => .enumBlock header :: elementsOfAll members
  | .enumMember member => [.enumMember member]
  | .field field => field.declared.map (.declarator field)
  | .property property => [.property property]
  | .method method => [.method method]
  | .constructor constructor => [.constructor constructor]
  | .unsupported _ _ members => elementsOfContainers members
  | .loose _ => []

def elementsOfAll : List Declaration → List Element
  | [] => []
  | first :: rest => elements first ++ elementsOfAll rest

def elementsOfContainers : List Declaration → List Element
  | [] => []
  | first :: rest =>
    (if first.isContainer then elements first else []) ++ elementsOfContainers rest

end

theorem elementsOfAll_eq (members : List Declaration) :
    elementsOfAll members = members.flatMap elements := by
  induction members with
  | nil => rw [elementsOfAll]; rfl
  | cons first rest ih => rw [elementsOfAll, ih, List.flatMap_cons]

theorem elementsOfContainers_eq (members : List Declaration) :
    elementsOfContainers members = (members.filter Declaration.isContainer).flatMap elements := by
  induction members with
  | nil => rw [elementsOfContainers]; rfl
  | cons first rest ih =>
    rw [elementsOfContainers, ih]
    cases container : first.isContainer <;> simp [container]

def Element.strokes : Element → List Stroke
  | .typeBlock header => .opening (openingLine header) :: .closing :: edges header
  | .enumBlock header => [.opening (enumLine header), .closing]
  | .enumMember member => [.member (enumMemberLine member)]
  | .declarator field declared => [.member (variableLine field declared)]
  | .property shown => [.member (propertyLine shown)]
  | .method shown => [.member (methodLine shown)]
  | .constructor shown => [.member (constructorLine shown)]

theorem Element.mem_strokes_typeBlock {header : TypeHeader} {stroke : Stroke} :
    stroke ∈ (Element.typeBlock header).strokes ↔
      stroke = .opening (openingLine header) ∨ stroke = .closing ∨ stroke ∈ edges header := by
  rw [Element.strokes, List.mem_cons, List.mem_cons]

theorem Element.mem_strokes_enumBlock {header : EnumHeader} {stroke : Stroke} :
    stroke ∈ (Element.enumBlock header).strokes ↔
      stroke = .opening (enumLine header) ∨ stroke = .closing := by
  rw [Element.strokes, List.mem_cons, List.mem_singleton]

/-- How many lines an element takes: a block has an opening and a closing line, and a class or
interface one more for each base. -/
def Element.facts : Element → Nat
  | .typeBlock header =>
    if header.kind = .structKind then 2 else 2 + header.baseTypes.length
  | .enumBlock _ => 2
  | _ => 1

def facts (tree : Declaration) : Nat :=
  (elements tree).foldr (fun element count => element.facts + count) 0

theorem Element.length_strokes (element : Element) : element.strokes.length = element.facts := by
  cases element with
  | typeBlock header =>
    rw [Element.strokes, Element.facts, edges_eq]
    split
    · rfl
    · simp only [List.length_cons, List.length_map]
      omega
  | _ => rfl

theorem flatMap_strokes_perm (members : List Declaration)
    (each : ∀ member ∈ members,
      (strokes member).Perm ((elements member).flatMap Element.strokes)) :
    (members.flatMap strokes).Perm ((members.flatMap elements).flatMap Element.strokes) := by
  induction members with
  | nil => exact .refl _
  | cons first rest ih =>
    rw [List.forall_mem_cons] at each
    rw [List.flatMap_cons, List.flatMap_cons, List.flatMap_append]
    exact each.1.append (ih each.2)

theorem strokes_perm (tree : Declaration) :
    (strokes tree).Perm ((elements tree).flatMap Element.strokes) := by
  induction tree with
  | unit _ members ih | namespaceBlock _ members ih =>
    rw [strokes, elements, strokesOfAll_eq, elementsOfAll_eq]
    exact flatMap_strokes_perm members ih
  | typeBlock header members ih =>
    rw [strokes, elements, strokesOfAll_eq, elementsOfAll_eq, List.flatMap_cons, List.cons_append]
    refine .trans (.cons _ List.perm_append_comm) ?_
    exact .cons _ (.append (.refl _) (flatMap_strokes_perm members ih))
  | enumBlock header members ih =>
    rw [strokes, elements, strokesOfAll_eq, elementsOfAll_eq, List.flatMap_cons, List.cons_append]
    refine .trans (.cons _ List.perm_append_comm) ?_
    exact .cons _ (.append (.refl _) (flatMap_strokes_perm members ih))
  | field field =>
    rw [strokes, elements, List.flatMap_map]
    exact .of_eq List.map_eq_flatMap
  | unsupported _ _ members ih =>
    rw [strokes, elements, strokesOfContainers_eq, elementsOfContainers_eq]
    exact flatMap_strokes_perm _ fun member inside => ih member (List.mem_filter.mp inside).1
  | _ => exact .refl _

theorem length_strokes (tree : Declaration) : (strokes tree).length = facts tree := by
  rw [(strokes_perm tree).length_eq, facts]
  induction elements tree with
  | nil => rfl
  | cons first rest ih =>
    rw [List.flatMap_cons, List.length_append, Element.length_strokes, ih, List.foldr_cons]

theorem mem_strokes {tree : Declaration} {stroke : Stroke} :
    stroke ∈ strokes tree ↔ ∃ element ∈ elements tree, stroke ∈ element.strokes := by
  rw [(strokes_perm tree).mem_iff, List.mem_flatMap]

end ClassSketch.Diagram
