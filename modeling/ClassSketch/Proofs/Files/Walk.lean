import ClassSketch.Proofs.Files.PathText

set_option autoImplicit false

namespace ClassSketch.Files.Path

open ClassSketch.Text

/-- Three characters decide where a path starts. -/
theorem anchorOf_cons_cons_cons (x y z : Char) (rest : List Char) :
    anchorOf (x :: y :: z :: rest) = anchorOf [x, y, z] := by
  by_cases first : x = '/' <;> by_cases second : y = '/' <;> by_cases third : z = '/' <;>
    simp [anchorOf, first, second, third]

theorem anchorOf_behind_slash {c : Char} (other : c ≠ '/') (front rest : List Char) :
    anchorOf (front ++ '/' :: c :: rest) = anchorOf (front ++ ['/']) := by
  match front with
  | [] => simp [anchorOf, other]
  | [x] => by_cases first : x = '/' <;> simp [anchorOf, first, other]
  | [x, y] => exact anchorOf_cons_cons_cons x y '/' (c :: rest)
  | x :: y :: z :: front =>
    exact (anchorOf_cons_cons_cons x y z _).trans (anchorOf_cons_cons_cons x y z _).symm

theorem anchorOf_before_slash {last : Char} (other : last ≠ '/') (front rest : List Char) :
    anchorOf (front ++ [last] ++ '/' :: rest) = anchorOf (front ++ [last]) := by
  match front with
  | [] => simp [anchorOf, other]
  | [x] => by_cases first : x = '/' <;> simp [anchorOf, first, other]
  | [x, y] => exact anchorOf_cons_cons_cons x y last ('/' :: rest)
  | x :: y :: z :: front =>
    exact (anchorOf_cons_cons_cons x y z _).trans (anchorOf_cons_cons_cons x y z _).symm

/-- The components that a text gives. -/
def partsOfChars (text : List Char) : List String :=
  ((pieces '/' text).map String.ofList).filter fun part => part != "" && part != "."

theorem ofText_eq (text : String) :
    ofText text = ⟨anchorOf text.toList, partsOfChars text.toList⟩ := rfl

theorem partsOfChars_append_cons (front back : List Char) :
    partsOfChars (front ++ '/' :: back) = partsOfChars front ++ partsOfChars back := by
  rw [partsOfChars, pieces_append_cons, List.map_append, List.filter_append]
  rfl

theorem partsOfChars_of_isPart {name : String} (part : IsPart name) :
    partsOfChars name.toList = [name] := by
  rw [partsOfChars, pieces_of_not_mem part.single, List.map_singleton, String.ofList_toList]
  exact filter_isPart (List.forall_mem_singleton.mpr part)

/-- A joined text is read as the folder with the name in it. -/
theorem ofText_joinText (folder : String) {name : String} (part : IsPart name) :
    ofText (joinText folder name) = (ofText folder).child name := by
  obtain ⟨c, later, chars, other⟩ := joined_starts [] part
  rw [joinWith] at chars
  rw [joinText, ofText_eq, ofText_eq, child]
  split
  · rename_i open?
    rcases open? with rfl | slashed
    · have empty : "".toList = [] := rfl
      rw [String.empty_append, partsOfChars_of_isPart part, chars, empty]
      simp [anchorOf, other, partsOfChars, pieces]
    · obtain ⟨front, whole⟩ := List.isSuffixOf_iff_suffix.mp slashed
      have slash : "/".toList = ['/'] := rfl
      rw [slash] at whole
      rw [String.toList_append, ← whole, List.append_assoc, List.singleton_append,
        partsOfChars_append_cons, partsOfChars_append_cons, partsOfChars_of_isPart part, chars,
        anchorOf_behind_slash other]
      simp [partsOfChars, pieces]
  · rename_i plain
    have filled : folder.toList ≠ [] := fun empty => plain (.inl (String.toList_inj.mp empty))
    have split := List.dropLast_concat_getLast filled
    have last : folder.toList.getLast filled ≠ '/' := by
      intro slash
      refine plain (.inr (List.isSuffixOf_iff_suffix.mpr ⟨folder.toList.dropLast, ?_⟩))
      rwa [slash] at split
    have slash : "/".toList = ['/'] := rfl
    rw [String.toList_append, String.toList_append, slash, List.append_assoc,
      List.singleton_append, partsOfChars_append_cons, partsOfChars_of_isPart part, ← split,
      anchorOf_before_slash last]

/-- Read as a path, the text of a folder that a walk has reached leads down from the top. -/
theorem ofText_walkText (top : String) {folders : List String}
    (parts : ∀ folder ∈ folders, IsPart folder) :
    ofText (walkText top folders) = (ofText top).below folders := by
  induction folders generalizing top with
  | nil => simp [walkText, below]
  | cons first rest ih =>
    rw [List.forall_mem_cons] at parts
    have later := ih (joinText top first) parts.2
    rw [ofText_joinText top parts.1] at later
    simpa [walkText, below, child] using later

/-- What a path has behind another path, if it starts with it. -/
def relativeTo? (path base : Path) : Option (List String) :=
  if path.anchor = base.anchor ∧ base.parts <+: path.parts then
    some (path.parts.drop base.parts.length)
  else none

theorem relativeTo?_below (base : Path) (parts : List String) :
    (base.below parts).relativeTo? base = some parts := by
  simp [relativeTo?, below]

end ClassSketch.Files.Path
