import ClassSketch.Proofs.Files.Disk

set_option autoImplicit false

namespace ClassSketch.Files

/-- A tree in which no name is a link. -/
inductive Entry.Unlinked : Entry → Prop
  | file (name : String) (number : Nat) : Unlinked (.file name number)
  | folder (name : String) {entries : List Entry} (inner : ∀ entry ∈ entries, Unlinked entry) :
      Unlinked (.folder name entries)

theorem Entry.Unlinked.singleton {entry : Entry} (unlinked : entry.Unlinked) (name : String) :
    (Entry.folder name [entry]).Unlinked :=
  .folder name (List.forall_mem_singleton.mpr unlinked)

namespace Disk

/-- No name on the disk is a link. -/
def Linkless (disk : Disk) : Prop := ∀ location, disk.link? location = none

/-- The location that a component leads to from a folder. -/
def turn (here : List String) (part : String) : List String :=
  if part = ".." then here.dropLast else here ++ [part]

/-- Follows components where no links are to be followed. -/
def walk (disk : Disk) (here : List String) : List String → Except Cause (List String)
  | [] => .ok here
  | part :: rest =>
    match disk.standing? here with
    | none => .error .notFound
    | some (.file _) | some (.link _) => .error .notFolder
    | some .folder =>
      match disk.rules.look .reach (here ++ [part]) with
      | some refusal => .error (.refused refusal)
      | none => disk.walk (turn here part) rest

variable {disk before after : Disk} {keep : Bool} {path base : Path}
  {here parts front back location : List String} {part : String} {rest : List String}

theorem linkless_of_unlinked (unlinked : disk.root.Unlinked) : disk.Linkless := by
  intro location
  unfold link? standing? Entry.standing?
  cases stands : disk.root.get? location with
  | none => rfl
  | some entry =>
    have plain : entry.Unlinked := by
      refine Entry.of_get? ?_ unlinked stands
      intro name entries whole
      cases whole with
      | folder _ inner => exact inner
    cases plain <;> rfl

theorem Linkless.mono (linkless : before.Linkless) (grows : Grows before after) :
    after.Linkless :=
  fun location => (grows.links location).trans (linkless location)

theorem Linkless.followWith_eq_walk (linkless : disk.Linkless)
    (jump : List String → List String → Except Cause (List String)) (here parts : List String) :
    disk.followWith keep jump here parts = disk.walk here parts := by
  induction parts generalizing here with
  | nil => rw [followWith, walk]
  | cons part rest ih =>
    rw [followWith, walk]
    cases disk.standing? here with
    | none => rfl
    | some standing =>
      cases standing with
      | file | link => rfl
      | folder =>
        cases disk.rules.look .reach (here ++ [part]) with
        | some refusal => rfl
        | none =>
          rw [turn]
          by_cases up : part = ".."
          · simp only [if_pos up, ih]
          · simp only [if_neg up, linkless (here ++ [part]), ih]

/-- Where there are no links, it does not matter whether the last one is kept. -/
theorem Linkless.locate_eq (linkless : disk.Linkless) (path : Path) (keep : Bool) :
    disk.locate path keep = disk.walk (path.anchor.start disk.working) path.parts := by
  rw [locate, linkLimit, follow]
  exact linkless.followWith_eq_walk _ _ _

theorem walk_cons_of_folder (isFolder : disk.standing? here = some .folder)
    (reached : disk.rules.look .reach (here ++ [part]) = none) :
    disk.walk here (part :: rest) = disk.walk (turn here part) rest := by
  simp only [walk, isFolder, reached]

theorem walk_cons_eq_ok : disk.walk here (part :: rest) = .ok location ↔
    disk.standing? here = some .folder ∧ disk.rules.look .reach (here ++ [part]) = none ∧
      disk.walk (turn here part) rest = .ok location := by
  rw [walk]
  cases disk.standing? here with
  | none => simp
  | some standing =>
    cases standing with
    | file | link => simp
    | folder => cases disk.rules.look .reach (here ++ [part]) <;> simp

theorem walk_append : disk.walk here (front ++ back) = .ok location ↔
    ∃ middle, disk.walk here front = .ok middle ∧ disk.walk middle back = .ok location := by
  induction front generalizing here with
  | nil => simp [walk]
  | cons part rest ih =>
    simp only [List.cons_append, walk_cons_eq_ok, ih, exists_and_left, and_assoc]

theorem walk_append_of_ok {middle : List String} (led : disk.walk here front = .ok middle) :
    disk.walk here (front ++ back) = disk.walk middle back := by
  induction front generalizing here with
  | nil =>
    cases led
    rfl
  | cons part rest ih =>
    obtain ⟨isFolder, reached, later⟩ := walk_cons_eq_ok.mp led
    rw [List.cons_append, walk_cons_of_folder isFolder reached]
    exact ih later

/-- Components that lead down are the location's own. -/
theorem eq_append_of_walk (down : ∀ part ∈ parts, part ≠ "..")
    (led : disk.walk here parts = .ok location) : location = here ++ parts := by
  induction parts generalizing here with
  | nil =>
    cases led
    rw [List.append_nil]
  | cons part rest ih =>
    rw [List.forall_mem_cons] at down
    have later := ih down.2 (walk_cons_eq_ok.mp led).2.2
    rwa [turn, if_neg down.1, List.append_assoc] at later

theorem Linkless.locate_below (linkless : disk.Linkless) (down : ∀ part ∈ parts, part ≠ "..")
    (led : disk.locate (base.below parts) keep = .ok location) :
    ∃ middle, disk.locate base keep = .ok middle ∧ location = middle ++ parts := by
  rw [linkless.locate_eq] at led ⊢
  obtain ⟨middle, first, second⟩ := walk_append.mp led
  exact ⟨middle, first, eq_append_of_walk down second⟩

end Disk

end ClassSketch.Files
