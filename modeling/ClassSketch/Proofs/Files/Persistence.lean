import ClassSketch.Proofs.Files.Linkless
import ClassSketch.Proofs.Text.Pieces

set_option autoImplicit false

namespace ClassSketch.Files

/-- What is refused once is refused at all times: a change for its kind and place, the rest of a
content for its place and bytes. -/
structure Rules.Steady (rules : Rules) : Prop where
  change : ∀ one other change location,
    rules.change one change location = rules.change other change location
  stop : ∀ one other location content,
    rules.stop one location content = rules.stop other location content

theorem size_joinWith_le (separator : String) (parts : List String) (name : String) :
    (Text.joinWith separator parts).utf8ByteSize ≤
      (Text.joinWith separator (parts ++ [name])).utf8ByteSize := by
  by_cases empty : parts = []
  · rw [empty]
    exact Nat.zero_le _
  · rw [Text.joinWith_concat separator empty, String.utf8ByteSize_append,
      String.utf8ByteSize_append]
    omega

/-- A path below another one is the longer one, but for that which is written as a dot. -/
theorem Path.size_toText_le (path : Path) (name : String) :
    path.toText.utf8ByteSize ≤ max 1 (path.child name).toText.utf8ByteSize := by
  have whole : (path.child name).toText =
      path.anchor.text ++ Text.joinWith "/" (path.parts ++ [name]) := by
    rw [toText, if_neg (by simp [child]), child]
  have longer := size_joinWith_le "/" path.parts name
  rw [whole, String.utf8ByteSize_append, toText]
  split
  · exact Nat.le_max_left ..
  · rw [String.utf8ByteSize_append]
    omega

namespace Disk

/-- A folder stands at the end of a path. -/
def FolderAt (disk : Disk) (path : Path) : Prop :=
  ∃ location, disk.target path path.toText false = .ok location ∧
    disk.standing? location = some .folder

/-- No folder is at the end of a path, nor can one be made there: the path itself is refused, or it
runs into a file, into a name that the system does not let one reach, or into a place where it lets
no folder be made. -/
inductive Barred (disk : Disk) (path : Path) : Prop
  | null (null : hasNull path = true)
  | long (long : disk.rules.longest < path.toText.utf8ByteSize)
  | file {front back place : List String} {number : Nat} (split : path.parts = front ++ back)
      (led : disk.walk (path.anchor.start disk.working) front = .ok place)
      (isFile : disk.standing? place = some (.file number))
  | unreached {front back place : List String} {part : String} {refusal : Refusal}
      (split : path.parts = front ++ part :: back)
      (led : disk.walk (path.anchor.start disk.working) front = .ok place)
      (isFolder : disk.standing? place = some .folder)
      (refused : disk.rules.look .reach (place ++ [part]) = some refusal)
  | refused {front back place : List String} {refusal : Refusal}
      (split : path.parts = front ++ back)
      (led : disk.walk (path.anchor.start disk.working) front = .ok place)
      (notFolder : disk.standing? place ≠ some .folder)
      (refused : ∀ stored, disk.rules.change stored .folder place = some refusal)

variable {disk before after : Disk} {path : Path}

theorem FolderAt.mono (isFolder : before.FolderAt path) (grows : Grows before after) :
    after.FolderAt path := by
  obtain ⟨location, target, stands⟩ := isFolder
  exact ⟨location, grows.target_eq_ok target, grows.kept location _ stands⟩

theorem walk_mono (grows : Grows before after) {here parts location : List String}
    (led : before.walk here parts = .ok location) : after.walk here parts = .ok location := by
  induction parts generalizing here with
  | nil => exact led
  | cons part rest ih =>
    obtain ⟨isFolder, reached, later⟩ := walk_cons_eq_ok.mp led
    rw [← grows.rules] at reached
    exact walk_cons_eq_ok.mpr ⟨grows.kept here _ isFolder, reached, ih later⟩

theorem Barred.mono (barred : before.Barred path) (grows : Grows before after) :
    after.Barred path := by
  have onward {front place : List String}
      (led : before.walk (path.anchor.start before.working) front = .ok place) :
      after.walk (path.anchor.start after.working) front = .ok place := by
    rw [grows.working]
    exact walk_mono grows led
  cases barred with
  | null null => exact .null null
  | long long =>
    rw [← grows.rules] at long
    exact .long long
  | file split led isFile => exact .file split (onward led) (grows.kept _ _ isFile)
  | unreached split led isFolder refused =>
    rw [← grows.rules] at refused
    exact .unreached split (onward led) (grows.kept _ _ isFolder) refused
  | @refused front back place refusal split led notFolder refused =>
    have again : ∀ stored, after.rules.change stored .folder place = some refusal := by
      rwa [grows.rules]
    refine .refused split (onward led) (fun isFolder => ?_) again
    rcases grows.granted place isFolder with isFolder | ⟨stored, granted⟩
    · exact notFolder isFolder
    · rw [refused stored] at granted
      cases granted

/-- What bars a path bars those below it. -/
theorem Barred.child (barred : disk.Barred path) (name : String) :
    disk.Barred (path.child name) := by
  cases barred with
  | null null =>
    refine .null ?_
    rw [hasNull, List.any_eq_true] at null ⊢
    obtain ⟨part, inside, null⟩ := null
    exact ⟨part, List.mem_append_left _ inside, null⟩
  | long long =>
    have longer := path.size_toText_le name
    have room := disk.rules.longest_pos
    exact .long (by omega)
  | @file front back place number split led isFile =>
    have longer : (path.child name).parts = front ++ (back ++ [name]) := by
      rw [Path.child, split, List.append_assoc]
    exact .file longer led isFile
  | @unreached front back place part refusal split led isFolder refused =>
    have longer : (path.child name).parts = front ++ part :: (back ++ [name]) := by
      rw [Path.child, split, List.append_assoc, List.cons_append]
    exact .unreached longer led isFolder refused
  | @refused front back place refusal split led notFolder refused =>
    have longer : (path.child name).parts = front ++ (back ++ [name]) := by
      rw [Path.child, split, List.append_assoc]
    exact .refused longer led notFolder refused

theorem walk_cons_of_refused {here : List String} {part : String} {refusal : Refusal}
    (isFolder : disk.standing? here = some .folder)
    (refused : disk.rules.look .reach (here ++ [part]) = some refusal) (rest : List String) :
    disk.walk here (part :: rest) = .error (.refused refusal) := by
  simp only [walk, isFolder, refused]

theorem walk_singleton {here : List String} (isFolder : disk.standing? here = some .folder)
    (part : String) : disk.walk here [part] =
      match disk.rules.look .reach (here ++ [part]) with
      | some refusal => .error (.refused refusal)
      | none => .ok (turn here part) := by
  cases reached : disk.rules.look .reach (here ++ [part]) with
  | some refusal => exact walk_cons_of_refused isFolder reached []
  | none => exact walk_cons_of_folder isFolder reached

/-- What is in a folder is reached, or is out of reach, for good. -/
theorem Linkless.target_child_eq (linkless : before.Linkless) (grows : Grows before after)
    {location : List String} (led : before.locate path false = .ok location)
    (isFolder : before.standing? location = some .folder) (name shown : String) :
    after.target (path.child name) shown false = before.target (path.child name) shown false := by
  have located : after.locate (path.child name) false = before.locate (path.child name) false := by
    have ledLater := grows.locate_eq_ok led
    rw [linkless.locate_eq] at led ⊢
    rw [(linkless.mono grows).locate_eq] at ledLater ⊢
    rw [Path.child, walk_append_of_ok led, walk_append_of_ok ledLater, walk_singleton isFolder,
      walk_singleton (grows.kept location _ isFolder), grows.rules]
  rw [Disk.target, Disk.target, located, grows.rules]

/-- No file can be opened at a path: the path leads nowhere, or to a folder, or to a place where the
system lets none be written. -/
inductive Closed (disk : Disk) (path : Path) : Prop
  | unled {fault : Fault} (refused : disk.target path path.toText false = .error fault)
  | folder {location : List String} (target : disk.target path path.toText false = .ok location)
      (isFolder : disk.standing? location = some .folder)
  | refused {location : List String} {refusal : Refusal}
      (target : disk.target path path.toText false = .ok location)
      (refused : ∀ stored, disk.rules.change stored .write location = some refusal)

/-- A file stands at a path that can be opened, and the system stops the writing of a content to it
at one point, if at any. -/
structure OpenAt (disk : Disk) (path : Path) (content : List UInt8) (location : List String)
    (number : Nat) (stopped : Option (Nat × Refusal)) : Prop where
  target : disk.target path path.toText false = .ok location
  isFile : disk.standing? location = some (.file number)
  granted : ∀ stored, disk.rules.change stored .write location = none
  stops : ∀ stored, disk.rules.stop stored location content = stopped

/-- What gets written of a content. -/
def beginning (content : List UInt8) : Option (Nat × Refusal) → List UInt8
  | none => content
  | some (count, _) => content.take count

theorem Closed.mono (linkless : before.Linkless) {above : Path} {name : String}
    (split : path = above.child name) (folderAt : before.FolderAt above)
    (closed : before.Closed path) (grows : Grows before after) : after.Closed path := by
  obtain ⟨place, targetAbove, isFolder⟩ := folderAt
  have same := linkless.target_child_eq grows (target_eq_ok_iff.mp targetAbove).2.2 isFolder name
    path.toText
  rw [← split] at same
  cases closed with
  | unled refused => exact .unled (same.trans refused)
  | folder target isFolder => exact .folder (same.trans target) (grows.kept _ _ isFolder)
  | @refused location refusal target refused =>
    have again : ∀ stored, after.rules.change stored .write location = some refusal := by
      rwa [grows.rules]
    exact .refused (same.trans target) again

theorem OpenAt.mono {content : List UInt8} {location : List String} {number : Nat}
    {stopped : Option (Nat × Refusal)}
    (isOpen : before.OpenAt path content location number stopped) (grows : Grows before after) :
    after.OpenAt path content location number stopped where
  target := grows.target_eq_ok isOpen.target
  isFile := grows.kept location _ isOpen.isFile
  granted := by
    rw [grows.rules]
    exact isOpen.granted
  stops := by
    rw [grows.rules]
    exact isOpen.stops

end Disk

end ClassSketch.Files
