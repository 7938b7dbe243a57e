import ClassSketch.Proofs.Diagram.Content
import ClassSketch.Proofs.Model.Place

set_option autoImplicit false

namespace ClassSketch.Diagram

open ClassSketch.Model

/-- The line that opens the block of a type or an enum. -/
def blockLine? : Declaration → Option String
  | .typeBlock header _ => some (openingLine header)
  | .enumBlock header _ => some (enumLine header)
  | _ => none

/-- The lines that a declaration writes before those of what it holds. -/
def leading (depth : Nat) : Declaration → List Line
  | .typeBlock header _ => [⟨depth, .opening (openingLine header)⟩]
  | .enumBlock header _ => [⟨depth, .opening (enumLine header)⟩]
  | .enumMember member => [⟨depth, .member (enumMemberLine member)⟩]
  | .field field =>
    field.declared.map fun declarator => ⟨depth, .member (variableLine field declarator)⟩
  | .property property => [⟨depth, .member (propertyLine property)⟩]
  | .method method => [⟨depth, .member (methodLine method)⟩]
  | .constructor constructor => [⟨depth, .member (constructorLine constructor)⟩]
  | .unit .. | .namespaceBlock .. | .unsupported .. | .loose _ => []

/-- The lines that a declaration writes behind those of what it holds. -/
def trailing (depth : Nat) : Declaration → List Line
  | .typeBlock header _ => ⟨depth, .closing⟩ :: (edges header).map (Line.mk 0)
  | .enumBlock .. => [⟨depth, .closing⟩]
  | _ => []

def ownLines (depth : Nat) (tree : Declaration) : List Line :=
  leading depth tree ++ trailing depth tree

/-- How many blocks are open around what a declaration holds. -/
def depthInside (depth : Nat) (tree : Declaration) : Nat :=
  if (blockLine? tree).isSome then depth + 1 else depth

/-- Whether a member is drawn. Where loose members are not, containers are. -/
def kept (loose : Bool) (member : Declaration) : Bool := !loose || member.isContainer

/-- A line with the place of the declaration that writes it. -/
structure Written where
  place : List Nat
  line : Line
  deriving DecidableEq, Repr

mutual

/-- The lines of a declaration that stands at a place, where so many blocks are open. -/
def written (place : List Nat) (depth : Nat) : Declaration → List Written
  | .unit _ members => writtenIn place depth false 0 members
  | .namespaceBlock _ members => writtenIn place depth false 0 members
  | .typeBlock header members =>
    ⟨place, ⟨depth, .opening (openingLine header)⟩⟩ ::
      writtenIn place (depth + 1) false 0 members ++
      ⟨place, ⟨depth, .closing⟩⟩ :: (edges header).map fun edge => ⟨place, ⟨0, edge⟩⟩
  | .enumBlock header members =>
    ⟨place, ⟨depth, .opening (enumLine header)⟩⟩ :: writtenIn place (depth + 1) false 0 members ++
      [⟨place, ⟨depth, .closing⟩⟩]
  | .unsupported _ _ members => writtenIn place depth true 0 members
  | leaf => (leading depth leaf).map (Written.mk place)

def writtenIn (place : List Nat) (depth : Nat) (loose : Bool) (index : Nat) :
    List Declaration → List Written
  | [] => []
  | first :: rest =>
    (if kept loose first then written (place ++ [index]) depth first else []) ++
      writtenIn place depth loose (index + 1) rest

end

theorem written_eq (place : List Nat) (depth : Nat) (tree : Declaration) :
    written place depth tree =
      (leading depth tree).map (Written.mk place) ++
        writtenIn place (depthInside depth tree) tree.isUnsupported 0 tree.members ++
        (trailing depth tree).map (Written.mk place) := by
  cases tree with
  | unit | namespaceBlock | unsupported =>
    rw [written]
    exact (List.append_nil _).symm
  | typeBlock header members =>
    rw [written, trailing, List.map_cons, List.map_map]
    rfl
  | enumBlock header members =>
    rw [written]
    rfl
  | _ =>
    simp only [written, Declaration.members, writtenIn, trailing, List.map_nil, List.append_nil]

theorem linesFrom_strokes_eq (depth : Nat) (tree : Declaration) :
    linesFrom depth (strokes tree) =
      leading depth tree ++
        drawnLines (depthInside depth tree) tree.isUnsupported tree.members ++
        trailing depth tree := by
  cases tree with
  | unit filePath members =>
    rw [linesFrom_unit]
    exact (List.append_nil _).symm
  | namespaceBlock name members =>
    rw [linesFrom_namespaceBlock]
    exact (List.append_nil _).symm
  | unsupported kind name members =>
    rw [linesFrom_unsupported]
    exact (List.append_nil _).symm
  | typeBlock header members =>
    rw [linesFrom_typeBlock]
    rfl
  | enumBlock header members =>
    rw [linesFrom_enumBlock]
    rfl
  | field field =>
    rw [linesFrom_field]
    exact ((List.append_nil _).trans (List.append_nil _)).symm
  | _ => rfl

theorem drawnLines_cons (depth : Nat) (loose : Bool) (first : Declaration)
    (rest : List Declaration) :
    drawnLines depth loose (first :: rest) =
      (if kept loose first then linesFrom depth (strokes first) else []) ++
        drawnLines depth loose rest := by
  cases loose with
  | false => rfl
  | true => cases container : first.isContainer <;> simp [drawnLines, kept, container]

/-- Without the places, the written lines are those of the drawing. -/
theorem map_line_written (place : List Nat) (depth : Nat) (tree : Declaration) :
    (written place depth tree).map Written.line = linesFrom depth (strokes tree) := by
  have bare (place : List Nat) (lines : List Line) :
      (lines.map (Written.mk place)).map Written.line = lines := by
    rw [List.map_map]
    exact List.map_id lines
  induction tree using Declaration.members_induct generalizing place depth with
  | step tree ih =>
    have inner (members : List Declaration) (some : ∀ member ∈ members, member ∈ tree.members)
        (depth index : Nat) (loose : Bool) :
        (writtenIn place depth loose index members).map Written.line =
          drawnLines depth loose members := by
      induction members generalizing index with
      | nil => cases loose <;> rfl
      | cons first rest further =>
        rw [List.forall_mem_cons] at some
        have here := ih first some.1 (place ++ [index]) depth
        rw [writtenIn, List.map_append, further some.2, drawnLines_cons, apply_ite (List.map _),
          here, List.map_nil]
    rw [written_eq, List.map_append, List.map_append, bare, bare, linesFrom_strokes_eq,
      inner tree.members (fun _ inside => inside)]

section Own

variable {tree : Declaration} {header : String}

theorem leading_block (opens : blockLine? tree = some header) (depth : Nat) :
    leading depth tree = [⟨depth, .opening header⟩] := by
  cases tree with
  | typeBlock | enumBlock =>
    cases opens
    rfl
  | _ => cases opens

theorem trailing_block (opens : blockLine? tree = some header) (depth : Nat) :
    ∃ texts : List String,
      trailing depth tree = ⟨depth, .closing⟩ :: texts.map fun text => ⟨0, .edge text⟩ := by
  cases tree with
  | typeBlock header members =>
    rw [trailing, edges_eq]
    split
    · exact ⟨[], rfl⟩
    · exact ⟨header.baseTypes.map (edgeLine header.name), by simp only [List.map_map]; rfl⟩
  | enumBlock => exact ⟨[], rfl⟩
  | _ => cases opens

theorem leading_flat (flat : blockLine? tree = none) (depth : Nat) :
    ∀ line ∈ leading depth tree, ∃ text, line = ⟨depth, .member text⟩ := by
  intro line inside
  cases tree with
  | typeBlock | enumBlock => cases flat
  | field field =>
    obtain ⟨declarator, _, rfl⟩ := List.mem_map.mp inside
    exact ⟨_, rfl⟩
  | enumMember | property | method | constructor => exact ⟨_, List.mem_singleton.mp inside⟩
  | _ => cases inside

theorem trailing_flat (flat : blockLine? tree = none) (depth : Nat) : trailing depth tree = [] := by
  cases tree with
  | typeBlock | enumBlock => cases flat
  | _ => rfl

theorem depthInside_block (opens : blockLine? tree = some header) (depth : Nat) :
    depthInside depth tree = depth + 1 := by
  rw [depthInside, opens]
  rfl

theorem depthInside_flat (flat : blockLine? tree = none) (depth : Nat) :
    depthInside depth tree = depth := by
  rw [depthInside, flat]
  rfl

end Own

/-- On the way to a place, an unsupported declaration holds what is no container. -/
def hides : Declaration → List Nat → Bool
  | _, [] => false
  | tree, index :: place =>
    match tree.members[index]? with
    | some member => !kept tree.isUnsupported member || hides member place
    | none => false

/-- How many blocks are open around a place. -/
def depthAt (depth : Nat) : Declaration → List Nat → Nat
  | _, [] => depth
  | tree, index :: place =>
    match tree.members[index]? with
    | some member => depthAt (depthInside depth tree) member place
    | none => depth

section Descent

variable {tree member : Declaration} {index : Nat} (here : tree.members[index]? = some member)
include here

theorem hides_cons (place : List Nat) :
    hides tree (index :: place) = (!kept tree.isUnsupported member || hides member place) := by
  rw [hides, here]

theorem depthAt_cons (depth : Nat) (place : List Nat) :
    depthAt depth tree (index :: place) = depthAt (depthInside depth tree) member place := by
  rw [depthAt, here]

end Descent

theorem hides_append {tree node : Declaration} {place : List Nat}
    (found : tree.at? place = some node) (further : List Nat) :
    hides tree (place ++ further) = (hides tree place || hides node further) := by
  induction place generalizing tree with
  | nil =>
    cases found
    rfl
  | cons index place ih =>
    obtain ⟨member, here, found⟩ := Declaration.exists_of_at?_cons found
    rw [List.cons_append, hides_cons here, hides_cons here, ih found, Bool.or_assoc]

theorem depthAt_append {tree node : Declaration} {place : List Nat} (depth : Nat)
    (found : tree.at? place = some node) (further : List Nat) :
    depthAt depth tree (place ++ further) = depthAt (depthAt depth tree place) node further := by
  induction place generalizing tree depth with
  | nil =>
    cases found
    rfl
  | cons index place ih =>
    obtain ⟨member, here, found⟩ := Declaration.exists_of_at?_cons found
    rw [List.cons_append, depthAt_cons here, depthAt_cons here, ih _ found]

variable {place rest : List Nat} {depth start : Nat} {loose : Bool} {tree node : Declaration}
  {members : List Declaration} {line : Written}

theorem mem_writtenIn :
    line ∈ writtenIn place depth loose start members ↔
      ∃ offset member, members[offset]? = some member ∧ kept loose member = true ∧
        line ∈ written (place ++ [start + offset]) depth member := by
  induction members generalizing start with
  | nil =>
    rw [writtenIn]
    simp
  | cons first others ih =>
    rw [writtenIn, List.mem_append, ih]
    constructor
    · rintro (isHere | ⟨offset, member, here, drawn, inside⟩)
      · split at isHere
        · rename_i drawn
          exact ⟨0, first, rfl, drawn, isHere⟩
        · cases isHere
      · have moved : start + 1 + offset = start + (offset + 1) := by omega
        rw [moved] at inside
        exact ⟨offset + 1, member, here, drawn, inside⟩
    · rintro ⟨offset, member, here, drawn, inside⟩
      cases offset with
      | zero =>
        cases here
        left
        rw [if_pos drawn]
        exact inside
      | succ offset =>
        have moved : start + (offset + 1) = start + 1 + offset := by omega
        rw [moved] at inside
        exact .inr ⟨offset, member, here, drawn, inside⟩

/-- A line belongs to a declaration that is in the tree and not passed over, and is one of its own
lines. -/
theorem exists_of_mem_written (inside : line ∈ written place depth tree) :
    ∃ rest node, line.place = place ++ rest ∧ tree.at? rest = some node ∧
      hides tree rest = false ∧ line.line ∈ ownLines (depthAt depth tree rest) node := by
  induction tree using Declaration.members_induct generalizing place depth with
  | step tree ih =>
    rw [written_eq, List.mem_append, List.mem_append] at inside
    rcases inside with (isLeading | isInner) | isTrailing
    · obtain ⟨own, isOwn, rfl⟩ := List.mem_map.mp isLeading
      exact ⟨[], tree, (List.append_nil _).symm, rfl, rfl, List.mem_append_left _ isOwn⟩
    · obtain ⟨index, member, here, drawn, isMember⟩ := mem_writtenIn.mp isInner
      rw [Nat.zero_add] at isMember
      obtain ⟨rest, node, stands, found, shown, own⟩ :=
        ih member (List.mem_of_getElem? here) isMember
      refine ⟨index :: rest, node, ?_, ?_, ?_, ?_⟩
      · rw [stands, List.append_assoc, List.singleton_append]
      · rw [Declaration.at?_cons here, found]
      · rw [hides_cons here, drawn, shown]
        rfl
      · rw [depthAt_cons here]
        exact own
    · obtain ⟨own, isOwn, rfl⟩ := List.mem_map.mp isTrailing
      exact ⟨[], tree, (List.append_nil _).symm, rfl, rfl, List.mem_append_right _ isOwn⟩

/-- The lines that the declaration at a place writes. -/
def linesAt (place : List Nat) (lines : List Written) : List Line :=
  (lines.filter fun line => line.place = place).map Written.line

theorem linesAt_append (place : List Nat) (first second : List Written) :
    linesAt place (first ++ second) = linesAt place first ++ linesAt place second := by
  rw [linesAt, List.filter_append, List.map_append]
  rfl

theorem linesAt_map_mk (place : List Nat) (lines : List Line) :
    linesAt place (lines.map (Written.mk place)) = lines := by
  have all : ∀ line ∈ lines.map (Written.mk place), decide (line.place = place) = true := by
    intro line inside
    obtain ⟨own, _, rfl⟩ := List.mem_map.mp inside
    exact decide_eq_true rfl
  rw [linesAt, List.filter_eq_self.mpr all, List.map_map]
  exact List.map_id lines

theorem linesAt_elsewhere {lines : List Written} (elsewhere : ∀ line ∈ lines, line.place ≠ place) :
    linesAt place lines = [] := by
  have none : ∀ line ∈ lines, ¬ decide (line.place = place) = true := by
    intro line inside
    rw [decide_eq_true_iff]
    exact elsewhere line inside
  rw [linesAt, List.filter_eq_nil_iff.mpr none, List.map_nil]

theorem linesAt_map_mk_of_ne {other : List Nat} (different : other ≠ place) (lines : List Line) :
    linesAt place (lines.map (Written.mk other)) = [] := by
  apply linesAt_elsewhere
  intro line inside
  obtain ⟨own, _, rfl⟩ := List.mem_map.mp inside
  exact different

/-- Members write at places below their own index. -/
theorem place_of_mem_writtenIn (inside : line ∈ writtenIn place depth loose start members) :
    ∃ offset rest, line.place = place ++ (start + offset) :: rest := by
  obtain ⟨offset, member, _, _, isMember⟩ := mem_writtenIn.mp inside
  obtain ⟨rest, node, stands, _⟩ := exists_of_mem_written isMember
  rw [List.append_assoc, List.singleton_append] at stands
  exact ⟨offset, rest, stands⟩

theorem linesAt_writtenIn (place rest : List Nat) (depth start : Nat) (loose : Bool) {offset : Nat}
    {member : Declaration} (here : members[offset]? = some member) :
    linesAt (place ++ (start + offset) :: rest) (writtenIn place depth loose start members) =
      if kept loose member then
        linesAt (place ++ (start + offset) :: rest)
          (written (place ++ [start + offset]) depth member)
      else [] := by
  induction members generalizing start offset with
  | nil => cases here
  | cons first others ih =>
    -- The indices part the members: what stands before or behind the one writes elsewhere.
    rw [writtenIn, linesAt_append]
    cases offset with
    | zero =>
      cases here
      have later : linesAt (place ++ (start + 0) :: rest)
          (writtenIn place depth loose (start + 1) others) = [] := by
        apply linesAt_elsewhere
        intro line inside same
        obtain ⟨offset, further, stands⟩ := place_of_mem_writtenIn inside
        rw [same, List.append_cancel_left_eq, List.cons.injEq] at stands
        omega
      rw [later, List.append_nil]
      split <;> rfl
    | succ offset =>
      have earlier : linesAt (place ++ (start + (offset + 1)) :: rest)
          (if kept loose first then written (place ++ [start]) depth first else []) = [] := by
        apply linesAt_elsewhere
        intro line inside same
        split at inside
        · obtain ⟨further, node, stands, _⟩ := exists_of_mem_written inside
          rw [same, List.append_assoc, List.append_cancel_left_eq, List.singleton_append,
            List.cons.injEq] at stands
          omega
        · cases inside
      have moved : start + (offset + 1) = start + 1 + offset := by omega
      rw [earlier, List.nil_append, moved]
      exact ih (start + 1) here

/-- A declaration writes its own lines and nothing else, all of them once, or nothing at all where
it is passed over. -/
theorem linesAt_written (place : List Nat) (depth : Nat) (found : tree.at? rest = some node) :
    linesAt (place ++ rest) (written place depth tree) =
      if hides tree rest then [] else ownLines (depthAt depth tree rest) node := by
  induction rest generalizing place depth tree with
  | nil =>
    cases found
    have inner : linesAt place (writtenIn place (depthInside depth node) node.isUnsupported 0
        node.members) = [] := by
      apply linesAt_elsewhere
      intro line inside same
      obtain ⟨offset, further, stands⟩ := place_of_mem_writtenIn inside
      rw [same, List.self_eq_append_right] at stands
      cases stands
    rw [List.append_nil, written_eq, linesAt_append, linesAt_append, linesAt_map_mk, inner,
      linesAt_map_mk, List.append_nil]
    rfl
  | cons index rest ih =>
    obtain ⟨member, here, found⟩ := Declaration.exists_of_at?_cons found
    have below : place ≠ place ++ index :: rest := by simp
    have inner := linesAt_writtenIn place rest (depthInside depth tree) 0 tree.isUnsupported here
    have there := ih (place ++ [index]) (depthInside depth tree) found
    rw [Nat.zero_add] at inner
    rw [List.append_assoc, List.singleton_append] at there
    rw [written_eq, linesAt_append, linesAt_append, linesAt_map_mk_of_ne below,
      linesAt_map_mk_of_ne below, inner, there, hides_cons here, depthAt_cons here,
      List.nil_append, List.append_nil]
    cases kept tree.isUnsupported member <;> rfl

end ClassSketch.Diagram
