import ClassSketch.Proofs.Diagram.Written

set_option autoImplicit false

namespace ClassSketch.Diagram

open ClassSketch.Model

/-- The opening lines of the blocks that are open behind a line, the innermost first. -/
def Written.openBehind (stack : List Written) (line : Written) : List Written :=
  match line.line.stroke with
  | .opening _ => line :: stack
  | .closing => stack.tail
  | .member _ | .edge _ => stack

def openBehind (stack lines : List Written) : List Written :=
  lines.foldl Written.openBehind stack

theorem openBehind_append (stack first second : List Written) :
    openBehind stack (first ++ second) = openBehind (openBehind stack first) second :=
  List.foldl_append

theorem openBehind_flat {lines : List Written}
    (flat : ∀ line ∈ lines, line.line.stroke.isBlock = false) (stack : List Written) :
    openBehind stack lines = stack := by
  induction lines with
  | nil => rfl
  | cons first rest ih =>
    rw [List.forall_mem_cons] at flat
    have kept : first.openBehind stack = stack := by
      unfold Written.openBehind
      split
      · rename_i opening
        rw [opening] at flat
        cases flat.1
      · rename_i closing
        rw [closing] at flat
        cases flat.1
      · rfl
      · rfl
    rw [openBehind, List.foldl_cons, kept]
    exact ih flat.2

section Balance

variable {tree : Declaration} {header : String}

theorem flat_leading (flat : blockLine? tree = none) (place : List Nat) (depth : Nat) :
    ∀ line ∈ (leading depth tree).map (Written.mk place), line.line.stroke.isBlock = false := by
  intro line inside
  obtain ⟨own, isOwn, rfl⟩ := List.mem_map.mp inside
  obtain ⟨text, rfl⟩ := leading_flat flat depth own isOwn
  rfl

/-- The lines behind the members of a block close it. -/
theorem openBehind_trailing (opens : blockLine? tree = some header) (place : List Nat)
    (depth : Nat) (opening : Written) (outer : List Written) :
    openBehind (opening :: outer) ((trailing depth tree).map (Written.mk place)) = outer := by
  obtain ⟨texts, behind⟩ := trailing_block opens depth
  have edges : ∀ line ∈ (texts.map fun text => (⟨0, .edge text⟩ : Line)).map (Written.mk place),
      line.line.stroke.isBlock = false := by
    intro line inside
    rw [List.map_map] at inside
    obtain ⟨text, _, rfl⟩ := List.mem_map.mp inside
    rfl
  rw [behind, List.map_cons]
  exact openBehind_flat edges outer

theorem openBehind_writtenIn {members : List Declaration}
    (each : ∀ member ∈ members, ∀ place depth stack,
      openBehind stack (written place depth member) = stack)
    (place : List Nat) (depth : Nat) (loose : Bool) (start : Nat) (stack : List Written) :
    openBehind stack (writtenIn place depth loose start members) = stack := by
  induction members generalizing start with
  | nil => rfl
  | cons first rest ih =>
    rw [List.forall_mem_cons] at each
    rw [writtenIn, openBehind_append]
    split
    · rw [each.1]
      exact ih each.2 (start + 1)
    · exact ih each.2 (start + 1)

/-- Behind a declaration the same blocks are open as before it. -/
theorem openBehind_written (place : List Nat) (depth : Nat) (tree : Declaration)
    (stack : List Written) : openBehind stack (written place depth tree) = stack := by
  induction tree using Declaration.members_induct generalizing place depth stack with
  | step tree ih =>
    have inner := openBehind_writtenIn fun member inside place depth stack =>
      ih member inside place depth stack
    rw [written_eq, openBehind_append, openBehind_append, inner]
    cases opens : blockLine? tree with
    | none =>
      rw [openBehind_flat (flat_leading opens place depth), trailing_flat opens]
      rfl
    | some header =>
      rw [leading_block opens]
      exact openBehind_trailing opens place depth _ stack

end Balance

/-- What holds of each of the lines and the blocks open before it. -/
def Along (holds : List Written → Written → Prop) : List Written → List Written → Prop
  | _, [] => True
  | stack, line :: rest => holds stack line ∧ Along holds (line.openBehind stack) rest

section Along

variable {holds : List Written → Written → Prop} {stack : List Written}

theorem along_append {first second : List Written} :
    Along holds stack (first ++ second) ↔
      Along holds stack first ∧ Along holds (openBehind stack first) second := by
  induction first generalizing stack with
  | nil => exact (and_iff_right trivial).symm
  | cons line rest ih =>
    rw [List.cons_append, Along, ih, Along, and_assoc]
    rfl

theorem Along.here {before after : List Written} {line : Written}
    (along : Along holds stack (before ++ line :: after)) :
    holds (openBehind stack before) line :=
  (along_append.mp along).2.1

theorem along_flat {lines : List Written}
    (flat : ∀ line ∈ lines, line.line.stroke.isBlock = false)
    (each : ∀ line ∈ lines, holds stack line) : Along holds stack lines := by
  induction lines with
  | nil => trivial
  | cons first rest ih =>
    rw [List.forall_mem_cons] at flat each
    have kept : first.openBehind stack = stack :=
      openBehind_flat (List.forall_mem_singleton.mpr flat.1) stack
    refine ⟨each.1, ?_⟩
    rw [kept]
    exact ih flat.2 each.2

theorem along_any {lines : List Written} (each : ∀ line ∈ lines, ∀ stack, holds stack line) :
    Along holds stack lines := by
  induction lines generalizing stack with
  | nil => trivial
  | cons first rest ih =>
    rw [List.forall_mem_cons] at each
    exact ⟨each.1 stack, ih each.2⟩

theorem along_writtenIn {place : List Nat} {depth start : Nat} {loose : Bool}
    {members : List Declaration}
    (each : ∀ (index : Nat) (member : Declaration), members[index]? = some member →
      kept loose member = true →
      Along holds stack (written (place ++ [start + index]) depth member)) :
    Along holds stack (writtenIn place depth loose start members) := by
  induction members generalizing start with
  | nil => trivial
  | cons first rest ih =>
    have later : Along holds stack (writtenIn place depth loose (start + 1) rest) := by
      apply ih
      intro index member here drawn
      have moved : start + 1 + index = start + (index + 1) := by omega
      rw [moved]
      exact each (index + 1) member here drawn
    rw [writtenIn, along_append]
    split
    · rename_i drawn
      rw [openBehind_written]
      exact ⟨each 0 first rfl drawn, later⟩
    · exact ⟨trivial, later⟩

end Along

/-- The innermost of the open blocks is that of the declaration which directly holds what stands at
a place. -/
inductive InHolder (root : Declaration) : List Written → List Nat → Prop
  | block {place : List Nat} {index : Nat} {holder member : Declaration} {header : String}
      (found : root.at? place = some holder) (opens : blockLine? holder = some header)
      (holds : holder.members[index]? = some member) (outer : List Written) :
      InHolder root (⟨place, ⟨outer.length, .opening header⟩⟩ :: outer) (place ++ [index])

theorem InHolder.length_pos {root : Declaration} {stack : List Written} {place : List Nat}
    (inHolder : InHolder root stack place) : 1 ≤ stack.length := by
  cases inHolder with
  | block _ _ _ outer => exact Nat.succ_pos outer.length

/-- A member line in the block of its holder, and the member that it shows. -/
structure StandsInHolder (root : Declaration) (stack : List Written) (line : Written) : Prop where
  inHolder : InHolder root stack line.place
  column : line.line.column = stack.length
  deep : 1 ≤ line.line.column
  shows : ∃ member, root.at? line.place = some member ∧ line.line ∈ leading stack.length member

def MembersStand (root : Declaration) (stack : List Written) (line : Written) : Prop :=
  ∀ text, line.line.stroke = .member text → StandsInHolder root stack line

/-- A tree of declarations in which units and namespaces hold containers only, and no unit stands
inside another declaration. -/
structure Arranged (root : Declaration) : Prop where
  outermost : root.isUnit = true ∨ root.isContainer = true
  single : ∀ node ∈ root.members.flatMap Declaration.preorder, node.isUnit = false
  tidy : ∀ node ∈ root.preorder, node.isUnit = true ∨ node.isNamespace = true →
    ∀ member ∈ node.members, member.isContainer = true

instance (root : Declaration) : Decidable (Arranged root) :=
  decidable_of_iff
    ((root.isUnit = true ∨ root.isContainer = true) ∧
      (∀ node ∈ root.members.flatMap Declaration.preorder, node.isUnit = false) ∧
      ∀ node ∈ root.preorder, node.isUnit = true ∨ node.isNamespace = true →
        ∀ member ∈ node.members, member.isContainer = true)
    ⟨fun ⟨outermost, single, tidy⟩ => ⟨outermost, single, tidy⟩,
      fun ⟨outermost, single, tidy⟩ => ⟨outermost, single, tidy⟩⟩

section Standing

variable {root tree : Declaration} {place : List Nat} {depth : Nat} {stack : List Written}

theorem leading_of_holder (flat : blockLine? tree = none)
    (holder : tree.isUnit = true ∨ tree.isContainer = true) (depth : Nat) :
    leading depth tree = [] := by
  cases tree with
  | unit | namespaceBlock | unsupported | loose => rfl
  | typeBlock | enumBlock => cases flat
  | _ => rcases holder with isUnit | isContainer <;> contradiction

/-- What a declaration without a block draws of its members are containers. -/
theorem isContainer_of_kept (arranged : Arranged root) (found : root.at? place = some tree)
    (flat : blockLine? tree = none) {member : Declaration} (inside : member ∈ tree.members)
    (drawn : kept tree.isUnsupported member = true) : member.isContainer = true := by
  have tidy := arranged.tidy tree (Declaration.mem_preorder_of_at? found)
  cases tree with
  | unit => exact tidy (.inl rfl) member inside
  | namespaceBlock => exact tidy (.inr rfl) member inside
  | unsupported => exact drawn
  | typeBlock | enumBlock => cases flat
  | _ => cases inside

/-- Induction on the declarations of an arranged tree. What is drawn is a container or stands
directly in an open block, and a declaration passes this on to what it draws. -/
theorem along_written (arranged : Arranged root) (found : root.at? place = some tree)
    (deep : stack.length = depth)
    (held : (tree.isUnit = true ∨ tree.isContainer = true) ∨ InHolder root stack place) :
    Along (MembersStand root) stack (written place depth tree) := by
  induction tree using Declaration.members_induct generalizing place depth stack with
  | step tree ih =>
    rw [written_eq, along_append, along_append]
    cases opens : blockLine? tree with
    | none =>
      have flat := flat_leading opens place depth
      rw [depthInside_flat opens, trailing_flat opens, openBehind_flat flat]
      refine ⟨⟨along_flat flat ?own, along_writtenIn ?inner⟩, trivial⟩
      case own =>
        -- Containers without a block write nothing themselves, so this is a member in its holder.
        intro line inside text _
        obtain ⟨own, isOwn, rfl⟩ := List.mem_map.mp inside
        rcases held with holder | inHolder
        · rw [leading_of_holder opens holder] at isOwn
          cases isOwn
        · obtain ⟨shown, rfl⟩ := leading_flat opens depth own isOwn
          subst deep
          exact ⟨inHolder, rfl, inHolder.length_pos, tree, found, isOwn⟩
      case inner =>
        intro index member here drawn
        have inside : member ∈ tree.members := List.mem_of_getElem? here
        have container := isContainer_of_kept arranged found opens inside drawn
        rw [Nat.zero_add]
        exact ih member inside (Declaration.at?_concat found here) deep (.inl (.inr container))
    | some header =>
      obtain ⟨texts, behind⟩ := trailing_block opens depth
      rw [depthInside_block opens, leading_block opens, behind]
      refine ⟨⟨⟨nofun, trivial⟩, along_writtenIn ?_⟩, along_any ?_⟩
      · -- Inside, the block just opened is the innermost, whatever the member is.
        intro index member here drawn
        have inside : member ∈ tree.members := List.mem_of_getElem? here
        subst deep
        rw [Nat.zero_add]
        exact ih member inside (Declaration.at?_concat found here) rfl
          (.inr (.block found opens here stack))
      · intro line inside stack text isMember
        obtain ⟨own, isOwn, rfl⟩ := List.mem_map.mp inside
        rcases List.mem_cons.mp isOwn with rfl | isEdge
        · cases isMember
        · obtain ⟨shown, _, rfl⟩ := List.mem_map.mp isEdge
          cases isMember

end Standing

/-- Nothing is written for a loose member of an unsupported declaration, nor for anything in it. -/
theorem not_prefix_of_loose {root holder member : Declaration} {place : List Nat} {index : Nat}
    (found : root.at? place = some holder) (unsupported : holder.isUnsupported = true)
    (here : holder.members[index]? = some member) (loose : member.isContainer = false)
    {line : Written} (inside : line ∈ written [] 0 root) : ¬ place ++ [index] <+: line.place := by
  rintro ⟨further, below⟩
  obtain ⟨rest, node, stands, _, shown, _⟩ := exists_of_mem_written inside
  rw [List.nil_append] at stands
  have passed : hides holder (index :: further) = true := by
    rw [hides_cons here, kept, unsupported, loose]
    rfl
  rw [← stands, ← below, List.append_assoc, List.singleton_append, hides_append found, passed,
    Bool.or_true] at shown
  cases shown

/-- A container is never passed over where no unit stands inside another declaration. -/
theorem hides_eq_false {tree node : Declaration} {place : List Nat}
    (single : ∀ node ∈ tree.members.flatMap Declaration.preorder, node.isUnit = false)
    (found : tree.at? place = some node) (container : node.isContainer = true) :
    hides tree place = false := by
  induction place generalizing tree with
  | nil => rfl
  | cons index place ih =>
    obtain ⟨member, here, found⟩ := Declaration.exists_of_at?_cons found
    have inside : member ∈ tree.members := List.mem_of_getElem? here
    have within : ∀ node ∈ member.preorder, node.isUnit = false := fun node isIn =>
      single node (List.mem_flatMap.mpr ⟨member, inside, isIn⟩)
    rw [Declaration.preorder_eq, List.forall_mem_cons] at within
    have isContainer : member.isContainer = true := by
      cases place with
      | nil =>
        cases found
        exact container
      | cons next place =>
        obtain ⟨inner, isInner, _⟩ := Declaration.exists_of_at?_cons found
        exact Declaration.isContainer_of_mem_members (List.mem_of_getElem? isInner) within.1
    rw [hides_cons here, ih within.2 found, kept, isContainer, Bool.or_true]
    rfl

/-- What a declaration holds directly or through namespaces and unsupported declarations. -/
inductive Reaches : Declaration → List Nat → Declaration → Prop
  | directly {holder node : Declaration} {index : Nat}
      (here : holder.members[index]? = some node) : Reaches holder [index] node
  | through {holder between node : Declaration} {index : Nat} {place : List Nat}
      (here : holder.members[index]? = some between)
      (passes : between.isNamespace = true ∨ between.isUnsupported = true)
      (further : Reaches between place node) : Reaches holder (index :: place) node

namespace Reaches

variable {holder node : Declaration} {place : List Nat}

theorem at?_eq (reaches : Reaches holder place node) : holder.at? place = some node := by
  induction reaches with
  | directly here => exact Declaration.at?_cons here []
  | through here _ _ ih => rw [Declaration.at?_cons here, ih]

theorem blockLine?_of_passes (passes : holder.isNamespace = true ∨ holder.isUnsupported = true) :
    blockLine? holder = none := by
  cases holder with
  | typeBlock | enumBlock => rcases passes with isNamespace | isUnsupported <;> contradiction
  | _ => rfl

theorem depthAt_eq (reaches : Reaches holder place node) (flat : blockLine? holder = none)
    (depth : Nat) : depthAt depth holder place = depth := by
  induction reaches with
  | directly here =>
    rw [depthAt_cons here, depthInside_flat flat]
    rfl
  | through here passes _ ih =>
    rw [depthAt_cons here, depthInside_flat flat, ih (blockLine?_of_passes passes)]

end Reaches

/-- The blocks that an unsupported declaration reaches are drawn once each, as deep as it stands. -/
theorem linesAt_reached {root holder block : Declaration} {place further : List Nat}
    (arranged : Arranged root) (found : root.at? place = some holder)
    (unsupported : holder.isUnsupported = true) (reaches : Reaches holder further block)
    (opens : (blockLine? block).isSome = true) :
    linesAt (place ++ further) (written [] 0 root) = ownLines (depthAt 0 root place) block := by
  have container : block.isContainer = true := by
    cases block with
    | typeBlock | enumBlock => rfl
    | _ => cases opens
  have stands : root.at? (place ++ further) = some block := by
    rw [Declaration.at?_append found, reaches.at?_eq]
  have shown := hides_eq_false arranged.single stands container
  have flat := Reaches.blockLine?_of_passes (.inr unsupported)
  have once := linesAt_written [] 0 stands
  rwa [List.nil_append, shown, depthAt_append 0 found, reaches.depthAt_eq flat] at once

/-- How the drawing of a tree shares its lines among the declarations in it. -/
structure StandsWhereHeld (root : Declaration) : Prop where
  drawn : ∀ indent, (body root indent).toList =
    (written [] 0 root).flatMap fun line => (line.line.text indent).toList ++ ['\n']
  placed : ∀ line ∈ written [] 0 root, (root.at? line.place).isSome = true
  own : ∀ place node, root.at? place = some node →
    linesAt place (written [] 0 root) =
      if hides root place then [] else ownLines (depthAt 0 root place) node
  members : ∀ before line after text, written [] 0 root = before ++ line :: after →
    line.line.stroke = .member text → StandsInHolder root (openBehind [] before) line
  loose : ∀ place holder index member, root.at? place = some holder →
    holder.isUnsupported = true → holder.members[index]? = some member →
    member.isContainer = false → ∀ line ∈ written [] 0 root, ¬ place ++ [index] <+: line.place
  blocks : ∀ place holder further block, root.at? place = some holder →
    holder.isUnsupported = true → Reaches holder further block →
    (blockLine? block).isSome = true →
    linesAt (place ++ further) (written [] 0 root) = ownLines (depthAt 0 root place) block

/-- Each member line stands in the block of the type or enum that holds the member. Of what an
unsupported declaration holds, the loose members are not drawn, and each block is drawn once. -/
theorem stands_where_held {root : Declaration} (arranged : Arranged root) :
    StandsWhereHeld root where
  drawn := by
    intro indent
    rw [body_toList, ← map_line_written [], List.flatMap_map]
  placed := by
    intro line inside
    obtain ⟨rest, node, stands, found, _⟩ := exists_of_mem_written inside
    rw [stands, List.nil_append, found]
    rfl
  own := fun _ _ found => linesAt_written [] 0 found
  members := by
    intro before line after text split isMember
    have atRoot : root.at? [] = some root := rfl
    have along : Along (MembersStand root) [] (written [] 0 root) :=
      along_written arranged atRoot rfl (.inl arranged.outermost)
    rw [split] at along
    exact along.here text isMember
  loose := fun _ _ _ _ found unsupported here loose _ inside =>
    not_prefix_of_loose found unsupported here loose inside
  blocks := fun _ _ _ _ found unsupported reaches opens =>
    linesAt_reached arranged found unsupported reaches opens

/-- A record with a loose field, and an enum that stands in a namespace. -/
def recordWithEnum : Declaration :=
  .unsupported "record_declaration" "R"
    [.field ⟨"int", [⟨"n", none⟩], []⟩,
      .namespaceBlock "M" [.enumBlock ⟨"E", []⟩ [.enumMember ⟨"One", none⟩]]]

def recordInClass : Declaration :=
  .unit "A.cs"
    [.namespaceBlock "N"
      [.typeBlock ⟨.classKind, "A", "", [], ["B"]⟩
        [recordWithEnum, .method ⟨"Run", "void", [], []⟩]]]

theorem recordInClass_stands :
    Arranged recordInClass ∧
      StandsInHolder recordInClass [⟨[0, 0], ⟨0, .opening "class A \x7b"⟩⟩]
        ⟨[0, 0, 1], ⟨1, .member "Run() : void"⟩⟩ ∧
      (∀ line ∈ written [] 0 recordInClass, ¬ [0, 0, 0, 0] <+: line.place) ∧
      linesAt [0, 0, 0, 1, 0] (written [] 0 recordInClass) =
        [⟨1, .opening "enum E \x7b"⟩, ⟨1, .closing⟩] := by
  have arranged : Arranged recordInClass := by decide
  have stands := stands_where_held arranged
  refine ⟨arranged, ?_, ?_, ?_⟩
  · have lines : written [] 0 recordInClass =
        [⟨[0, 0], ⟨0, .opening "class A \x7b"⟩⟩,
          ⟨[0, 0, 0, 1, 0], ⟨1, .opening "enum E \x7b"⟩⟩,
          ⟨[0, 0, 0, 1, 0, 0], ⟨2, .member "One,"⟩⟩,
          ⟨[0, 0, 0, 1, 0], ⟨1, .closing⟩⟩] ++
        ⟨[0, 0, 1], ⟨1, .member "Run() : void"⟩⟩ ::
        [⟨[0, 0], ⟨0, .closing⟩⟩, ⟨[0, 0], ⟨0, .edge "A <|-- B"⟩⟩] := by decide
    exact stands.members _ _ _ _ lines rfl
  · exact stands.loose [0, 0, 0] recordWithEnum 0 _ rfl rfl rfl rfl
  · have directly : Reaches (.namespaceBlock "M" [.enumBlock ⟨"E", []⟩ [.enumMember ⟨"One", none⟩]])
        [0] (.enumBlock ⟨"E", []⟩ [.enumMember ⟨"One", none⟩]) := .directly rfl
    have reaches : Reaches recordWithEnum [1, 0] _ := .through rfl (.inl rfl) directly
    exact stands.blocks [0, 0, 0] recordWithEnum [1, 0] _ rfl rfl reaches rfl

end ClassSketch.Diagram
