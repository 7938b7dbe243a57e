import ClassSketch.Proofs.Outline.Comment

set_option autoImplicit false

namespace ClassSketch.Outline

open ClassSketch.Concrete ClassSketch.Model

variable {source : List UInt8} {leaf : Node}

/-- Nodes that differ below their children only. -/
structure SameMarks (first second : Node) : Prop where
  own : first.mark = second.mark
  inner : first.children.map Node.mark = second.children.map Node.mark

/-- A choice of a child that goes by marks and passes over comments. -/
structure Picks (pick : Node → Option Node) (place? : Node → Option Nat) : Prop where
  eq : ∀ node, pick node = (place? node).bind (node.children[·]?)
  steady : ∀ {first second : Node}, SameMarks first second → place? first = place? second
  deaf : ∀ {leaf : Node}, IsComment leaf → ∀ (mark : Mark) (before after : List Node),
    pick ((Gap.here before after).tree mark [leaf]) = pick ((Gap.here before after).tree mark [])

theorem findIdx?_mark {first second : List Node} (sought : Mark → Bool)
    (same : first.map Node.mark = second.map Node.mark) :
    (first.findIdx? fun node => sought node.mark) =
      second.findIdx? fun node => sought node.mark := by
  have places := congrArg (List.findIdx? sought) same
  rwa [List.findIdx?_map, List.findIdx?_map] at places

theorem find?_here (sought : Mark → Bool) (passed : sought leaf.mark = false)
    (before after : List Node) :
    ((before ++ ([leaf] ++ after)).find? fun node => sought node.mark) =
      (before ++ ([] ++ after)).find? fun node => sought node.mark := by
  simp [List.find?_append, passed]

theorem picks_field? (role : String) : Picks (·.field? role) (·.fieldPlace? role) where
  eq node := node.field?_eq role
  steady same := findIdx?_mark (fun mark => mark.field == some role) same.inner
  deaf comment mark before after := by
    simp only [Node.field?, Gap.children_tree, Gap.fill_here]
    exact find?_here (fun mark => mark.field == some role) (hasRole_note role _ comment.isNote)
      before
      after

theorem picks_child? {type : String} (other : type ≠ "comment") :
    Picks (·.child? type) (·.childPlace? type) where
  eq node := node.child?_eq type
  steady same := findIdx?_mark (fun mark => mark.type == type) same.inner
  deaf comment mark before after := by
    simp only [Node.child?, Gap.children_tree, Gap.fill_here]
    exact find?_here (fun mark => mark.type == type) (hasType_note other _ comment.isNote) before
      after

theorem picks_part? (role : String) {type : String} (other : type ≠ "comment") :
    Picks (·.part? role type) (·.partPlace? role type) where
  eq node := node.part?_eq role type
  steady same := by
    simp only [Node.partPlace?, (picks_field? role).steady same, (picks_child? other).steady same]
  deaf comment mark before after := by
    simp only [Node.part?, (picks_field? role).deaf comment, (picks_child? other).deaf comment]

theorem picks_listBody? : Picks listBody? listBodyPlace? where
  eq := listBody?_eq
  steady {first second} same := by
    have role := (picks_field? "body").steady same
    have list := (picks_child? (show "declaration_list" ≠ "comment" by decide)).steady same
    have types (place : Nat) :
        ((first.children[place]?).any fun body => body.type == "declaration_list") =
        (second.children[place]?).any fun body => body.type == "declaration_list" := by
      apply any_type_congr
      rw [← List.getElem?_map, ← List.getElem?_map, same.inner]
    simp only [listBodyPlace?, role, list, types]
  deaf comment mark before after := by
    simp only [listBody?, (picks_field? "body").deaf comment,
      (picks_child? (show "declaration_list" ≠ "comment" by decide)).deaf comment]

/-- The child that holds the members. -/
def heldList? (node : Node) : Option Node := (bodyPlace? node).bind (node.children[·]?)

theorem picks_heldList? : Picks heldList? bodyPlace? where
  eq _ := rfl
  steady {first second} same := by
    have type : first.type = second.type := congrArg Mark.type same.own
    have part := (picks_part? "body" (show "declaration_list" ≠ "comment" by decide)).steady same
    simp only [bodyPlace?, type, part, picks_listBody?.steady same]
  deaf {leaf} comment mark before after := by
    have part := (picks_part? "body" (show "declaration_list" ≠ "comment" by decide)).deaf comment
      mark before after
    have list := picks_listBody?.deaf comment mark before after
    rw [Node.part?_eq, Node.part?_eq] at part
    rw [listBody?_eq, listBody?_eq] at list
    unfold heldList? bodyPlace?
    simp only [Gap.type_tree]
    cases Form.ofType? mark.type with
    | none => rfl
    | some form => cases form <;> first | exact part | exact list | rfl

/-- What is read from the chosen child changes only by a comment in that child. -/
theorem Picks.agrees {α : Type} {pick : Node → Option Node} {place? : Node → Option Nat}
    (picks : Picks pick place?) (comment : IsComment leaf) (read : Option Node → Read α)
    {spared : Mark → Gap → Prop} (gap : Gap) (mark : Mark)
    (inner : gap.Inside fun _ list inner =>
      AgreesWhen (spared list inner) (read (some (inner.tree list [])))
        (read (some (inner.tree list [leaf])))) :
    AgreesWhen (gap.Inside fun before list inner =>
        place? (gap.tree mark []) = some before.length → spared list inner)
      (read (pick (gap.tree mark []))) (read (pick (gap.tree mark [leaf]))) := by
  cases gap with
  | here before after =>
    rw [picks.deaf comment]
    exact .refl _
  | within before list gap after =>
    have steady : place? ((Gap.within before list gap after).tree mark [leaf]) =
        place? ((Gap.within before list gap after).tree mark []) :=
      picks.steady ⟨rfl, Gap.map_mark_fill_within before list gap after [leaf] []⟩
    by_cases chosen : place? ((Gap.within before list gap after).tree mark []) = some before.length
    · have found (nodes : List Node) : (some before.length).bind
          (((Gap.within before list gap after).tree mark nodes).children[·]?) =
            some (gap.tree list nodes) :=
        Gap.getElem?_fill_within before list gap after nodes
      rw [picks.eq, picks.eq, steady, chosen, found, found]
      exact inner.under rfl
    · have same : pick ((Gap.within before list gap after).tree mark [leaf]) =
          pick ((Gap.within before list gap after).tree mark []) := by
        rw [picks.eq, picks.eq, steady]
        cases place : place? ((Gap.within before list gap after).tree mark []) with
        | none => rfl
        | some index =>
          rw [place] at chosen
          refine Gap.getElem?_fill_within_of_ne before list gap after [leaf] [] ?_
          intro same
          exact chosen (congrArg some same)
      exact .vacuous chosen (congrArg read same)

/-- The items of a list are read the same, unless the comment stands in one of them. -/
theorem items_agrees {α : Type} {type : String} (other : type ≠ "comment")
    (comment : IsComment leaf) {read : Node → Read α} {spared : Mark → Gap → Prop}
    (item : ∀ gap mark,
      AgreesWhen (spared mark gap) (read (gap.tree mark [])) (read (gap.tree mark [leaf])))
    (list : Mark) (gap : Gap) :
    AgreesWhen (gap.Inside fun _ mark inner => mark.type = type → spared mark inner)
      ((itemsOf type (some (gap.tree list []))).mapM read)
      ((itemsOf type (some (gap.tree list [leaf]))).mapM read) := by
  have passed : (leaf.type == type) = false := hasType_note other _ comment.isNote
  cases gap with
  | here before after =>
    have same : itemsOf type (some ((Gap.here before after).tree list [leaf])) =
        itemsOf type (some ((Gap.here before after).tree list [])) := by
      simp [itemsOf, List.filter_append, passed]
    rw [same]
    exact .refl _
  | within front mark inner rear =>
    by_cases isItem : mark.type = type
    · have items (nodes : List Node) :
          itemsOf type (some ((Gap.within front mark inner rear).tree list nodes)) =
            (front.filter fun node => node.type == type) ++
              inner.tree mark nodes :: rear.filter fun node => node.type == type := by
        simp [itemsOf, List.filter_append, isItem]
      rw [items, items]
      exact ((item inner mark).mapM _ _).under isItem
    · have same : itemsOf type (some ((Gap.within front mark inner rear).tree list [leaf])) =
          itemsOf type (some ((Gap.within front mark inner rear).tree list [])) := by
        simp [itemsOf, List.filter_append, isItem]
      rw [same]
      exact .vacuous isItem rfl

end ClassSketch.Outline
