import ClassSketch.Proofs.Model.WellFormed
import ClassSketch.Report
import Mathlib.Data.List.Basic

set_option autoImplicit false

namespace ClassSketch.Diagram

open ClassSketch.Model

theorem skipsOfAll_eq (members : List Declaration) :
    skipsOfAll members = members.flatMap skips := by
  induction members with
  | nil => rw [skipsOfAll]; rfl
  | cons first rest ih => rw [skipsOfAll, ih, List.flatMap_cons]

theorem skipsOfContainers_eq (members : List Declaration) :
    skipsOfContainers members = (members.filter Declaration.isContainer).flatMap skips := by
  induction members with
  | nil => rw [skipsOfContainers]; rfl
  | cons first rest ih =>
    rw [skipsOfContainers, ih]
    cases container : first.isContainer <;> simp [container]

/-- What a declaration without a shape is passed over for. -/
def unsupported? : Declaration → Option Skip
  | .unsupported kind name _ => some (.unsupported kind name)
  | _ => none

def unsupportedIn (tree : Declaration) : List Skip := tree.preorder.filterMap unsupported?

theorem filterMap_preorderOfAll (members : List Declaration) :
    (Declaration.preorderOfAll members).filterMap unsupported? =
      members.flatMap unsupportedIn := by
  rw [Declaration.preorderOfAll_eq, List.filterMap_flatMap]
  rfl

theorem unsupportedIn_unsupported (kind name : String) (members : List Declaration) :
    unsupportedIn (.unsupported kind name members) =
      .unsupported kind name :: members.flatMap unsupportedIn := by
  rw [unsupportedIn, Declaration.preorder, ← filterMap_preorderOfAll]
  rfl

/-- Only containers hold declarations without a shape. -/
theorem unsupportedIn_of_not_isContainer {tree : Declaration} (isMember : tree.IsMember)
    (leaf : tree.isContainer = false) : unsupportedIn tree = [] := by
  cases isMember with
  | namespaceBlock | typeBlock | enumBlock | unsupported => cases leaf
  | field | property | method | constructor => rfl

theorem flatMap_filter_isContainer {members : List Declaration}
    (inner : ∀ member ∈ members, member.IsMember) :
    (members.filter Declaration.isContainer).flatMap unsupportedIn =
      members.flatMap unsupportedIn := by
  induction members with
  | nil => rfl
  | cons first rest ih =>
    rw [List.forall_mem_cons] at inner
    cases container : first.isContainer with
    | true =>
      rw [List.filter_cons_of_pos container, List.flatMap_cons, List.flatMap_cons, ih inner.2]
    | false =>
      rw [List.filter_cons_of_neg (by simp [container]), List.flatMap_cons, ih inner.2,
        unsupportedIn_of_not_isContainer inner.1 container, List.nil_append]

theorem skips_isMember {tree : Declaration} (isMember : tree.IsMember) :
    skips tree = unsupportedIn tree := by
  induction isMember with
  | namespaceBlock name inner ih =>
    rw [skips, skipsOfAll_eq, unsupportedIn, Declaration.preorder,
      List.filterMap_cons_none rfl, filterMap_preorderOfAll]
    exact List.flatMap_congr ih
  | typeBlock neat inner ih =>
    rw [skips, skipsOfAll_eq, unsupportedIn, Declaration.preorder,
      List.filterMap_cons_none rfl, filterMap_preorderOfAll]
    exact List.flatMap_congr ih
  | enumBlock neat each =>
    rw [skips, skipsOfAll_eq, unsupportedIn, Declaration.preorder,
      List.filterMap_cons_none rfl, filterMap_preorderOfAll]
    refine List.flatMap_congr ?_
    intro member inside
    obtain ⟨_, _, rfl⟩ := List.mem_map.mp inside
    rw [skips]
    · rfl
    all_goals simp
  | field | property | method | constructor => rfl
  | unsupported name shapeless inner ih =>
    rw [skips, skipsOfContainers_eq, unsupportedIn_unsupported, ← flatMap_filter_isContainer inner]
    refine congrArg (_ :: ·) (List.flatMap_congr ?_)
    intro member inside
    exact ih member (List.mem_filter.mp inside).1

/-- The declarations without a shape are passed over one by one in preorder. -/
theorem skips_wellFormed {tree : Declaration} (wellFormed : tree.WellFormed) :
    skips tree = unsupportedIn tree := by
  obtain ⟨filePath, inner⟩ := wellFormed
  rw [skips, skipsOfAll_eq, unsupportedIn, Declaration.preorder, List.filterMap_cons_none rfl,
    filterMap_preorderOfAll]
  exact List.flatMap_congr fun member inside => skips_isMember (inner member inside)

end ClassSketch.Diagram
