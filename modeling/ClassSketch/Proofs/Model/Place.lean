import ClassSketch.Proofs.Model.WellFormed

set_option autoImplicit false

namespace ClassSketch.Model.Declaration

/-- What a declaration holds. -/
def members : Declaration → List Declaration
  | .unit _ members => members
  | .namespaceBlock _ members => members
  | .typeBlock _ members => members
  | .enumBlock _ members => members
  | .unsupported _ _ members => members
  | .enumMember _ | .field _ | .property _ | .method _ | .constructor _ | .loose _ => []

def isUnit : Declaration → Bool
  | .unit .. => true
  | _ => false

def isNamespace : Declaration → Bool
  | .namespaceBlock .. => true
  | _ => false

def isUnsupported : Declaration → Bool
  | .unsupported .. => true
  | _ => false

/-- Induction on what a declaration holds, whatever its form. -/
theorem members_induct {holds : Declaration → Prop}
    (step : ∀ tree : Declaration, (∀ member ∈ tree.members, holds member) → holds tree)
    (tree : Declaration) : holds tree := by
  induction tree with
  | unit filePath members ih => exact step (.unit filePath members) ih
  | namespaceBlock name members ih => exact step (.namespaceBlock name members) ih
  | typeBlock header members ih => exact step (.typeBlock header members) ih
  | enumBlock header members ih => exact step (.enumBlock header members) ih
  | unsupported kind name members ih => exact step (.unsupported kind name members) ih
  | _ => exact step _ fun member inside => absurd inside List.not_mem_nil

/-- Only a unit and the containers hold anything. -/
theorem isContainer_of_mem_members {tree member : Declaration} (inside : member ∈ tree.members)
    (other : tree.isUnit = false) : tree.isContainer = true := by
  cases tree with
  | unit => cases other
  | namespaceBlock | typeBlock | enumBlock | unsupported => rfl
  | _ => cases inside

/-- The declaration at a place. -/
def at? : Declaration → List Nat → Option Declaration
  | tree, [] => some tree
  | tree, index :: place =>
    match tree.members[index]? with
    | some member => member.at? place
    | none => none

theorem at?_cons {tree member : Declaration} {index : Nat}
    (here : tree.members[index]? = some member) (place : List Nat) :
    tree.at? (index :: place) = member.at? place := by
  rw [at?, here]

theorem exists_of_at?_cons {tree node : Declaration} {index : Nat} {place : List Nat}
    (found : tree.at? (index :: place) = some node) :
    ∃ member, tree.members[index]? = some member ∧ member.at? place = some node := by
  rw [at?] at found
  split at found
  · rename_i member here
    exact ⟨member, here, found⟩
  · cases found

theorem at?_append {tree node : Declaration} {place : List Nat} (found : tree.at? place = some node)
    (further : List Nat) : tree.at? (place ++ further) = node.at? further := by
  induction place generalizing tree with
  | nil =>
    cases found
    rfl
  | cons index place ih =>
    obtain ⟨member, here, found⟩ := exists_of_at?_cons found
    rw [List.cons_append, at?_cons here, ih found]

theorem at?_concat {tree holder member : Declaration} {place : List Nat} {index : Nat}
    (found : tree.at? place = some holder) (here : holder.members[index]? = some member) :
    tree.at? (place ++ [index]) = some member := by
  rw [at?_append found, at?_cons here, at?]

theorem preorder_eq (tree : Declaration) :
    tree.preorder = tree :: tree.members.flatMap preorder := by
  cases tree with
  | unit | namespaceBlock | typeBlock | enumBlock | unsupported =>
    rw [preorder, preorderOfAll_eq]
    rfl
  | _ => rfl

theorem mem_preorder_of_at? {tree node : Declaration} {place : List Nat}
    (found : tree.at? place = some node) : node ∈ tree.preorder := by
  induction place generalizing tree with
  | nil =>
    cases found
    rw [preorder_eq]
    exact List.mem_cons_self
  | cons index place ih =>
    obtain ⟨member, here, found⟩ := exists_of_at?_cons found
    have inside : member ∈ tree.members := List.mem_of_getElem? here
    rw [preorder_eq]
    exact List.mem_cons_of_mem _ (List.mem_flatMap.mpr ⟨member, inside, ih found⟩)

end ClassSketch.Model.Declaration
