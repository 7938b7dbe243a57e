import ClassSketch.Files.Disk
import ClassSketch.Proofs.Files.Standing

set_option autoImplicit false

namespace ClassSketch.Files

/-- What the system says of a path that it was given as the text `shown`. -/
def Fault.IsOf (fault : Fault) (shown : String) : Prop :=
  fault = .nullByte ∨ ∃ cause, fault = .system cause shown

theorem Fault.IsOf.ne_interrupted {fault : Fault} {shown : String} (isOf : fault.IsOf shown)
    (refusal : Refusal) : fault ≠ .interrupted refusal := by
  rintro rfl
  simp [IsOf] at isOf

theorem Fault.IsOf.ne_unsupported {fault : Fault} {shown : String} (isOf : fault.IsOf shown)
    (path : String) : fault ≠ .unsupported path := by
  rintro rfl
  simp [IsOf] at isOf

namespace Disk

/-- The bytes of the file at a location. -/
def content? (disk : Disk) (location : List String) : Option (List UInt8) :=
  match disk.standing? location with
  | some (.file number) => some (disk.contents number)
  | _ => none

/-- The top of the file system and the working folder are folders. -/
structure Rooted (disk : Disk) : Prop where
  top : disk.standing? [] = some .folder
  working : disk.standing? disk.working = some .folder

/-- Whatever stands on the first disk stands on the second, which has no other links, and no other
folders but those that the system has granted at some time. -/
structure Grows (before after : Disk) : Prop where
  working : after.working = before.working
  rules : after.rules = before.rules
  kept : ∀ location standing, before.standing? location = some standing →
    after.standing? location = some standing
  links : ∀ location, after.link? location = before.link? location
  granted : ∀ location, after.standing? location = some .folder →
    before.standing? location = some .folder ∨
      ∃ stored, before.rules.change stored .folder location = none

theorem Grows.refl (disk : Disk) : Grows disk disk :=
  ⟨rfl, rfl, fun _ _ stands => stands, fun _ => rfl, fun _ => .inl⟩

theorem Grows.trans {first second third : Disk} (one : Grows first second)
    (two : Grows second third) : Grows first third where
  working := two.working.trans one.working
  rules := two.rules.trans one.rules
  kept location standing stands := two.kept location standing (one.kept location standing stands)
  links location := (two.links location).trans (one.links location)
  granted location isFolder := by
    rcases two.granted location isFolder with before | ⟨stored, granted⟩
    · exact one.granted location before
    · rw [one.rules] at granted
      exact .inr ⟨stored, granted⟩

theorem Grows.rooted {before after : Disk} (grows : Grows before after) (rooted : before.Rooted) :
    after.Rooted where
  top := grows.kept [] .folder rooted.top
  working := by
    rw [grows.working]
    exact grows.kept before.working .folder rooted.working

theorem content?_of_file {disk : Disk} {location : List String} {number : Nat}
    (stands : disk.standing? location = some (.file number)) :
    disk.content? location = some (disk.contents number) := by
  rw [content?, stands]

theorem content?_congr {before after : Disk} {location : List String}
    (standing : after.standing? location = before.standing? location)
    (contents : ∀ number, before.standing? location = some (.file number) →
      after.contents number = before.contents number) :
    after.content? location = before.content? location := by
  rw [content?, standing, content?]
  cases stands : before.standing? location with
  | none => rfl
  | some standing =>
    cases standing with
    | file number => exact congrArg some (contents number stands)
    | folder | link => rfl

/-- The components lead from the second location to the last, through so many links at most. -/
inductive Leads (disk : Disk) (keep : Bool) :
    Nat → List String → List String → List String → Prop
  | done (links : Nat) (here : List String) : Leads disk keep links here [] here
  | up {links : Nat} {here rest location : List String}
      (isFolder : disk.standing? here = some .folder)
      (reached : disk.rules.look .reach (here ++ [".."]) = none)
      (later : Leads disk keep links here.dropLast rest location) :
      Leads disk keep links here (".." :: rest) location
  | down {links : Nat} {here rest location : List String} {part : String} (named : part ≠ "..")
      (isFolder : disk.standing? here = some .folder)
      (reached : disk.rules.look .reach (here ++ [part]) = none)
      (plain : disk.link? (here ++ [part]) = none)
      (later : Leads disk keep links (here ++ [part]) rest location) :
      Leads disk keep links here (part :: rest) location
  | kept {links : Nat} {here rest : List String} {part : String} {target : Path}
      (named : part ≠ "..") (isFolder : disk.standing? here = some .folder)
      (reached : disk.rules.look .reach (here ++ [part]) = none)
      (link : disk.link? (here ++ [part]) = some target) (last : (keep && rest.isEmpty) = true) :
      Leads disk keep links here (part :: rest) (here ++ [part])
  | jump {links : Nat} {here rest location : List String} {part : String} {target : Path}
      (named : part ≠ "..") (isFolder : disk.standing? here = some .folder)
      (reached : disk.rules.look .reach (here ++ [part]) = none)
      (link : disk.link? (here ++ [part]) = some target) (more : (keep && rest.isEmpty) = false)
      (later : Leads disk keep links (target.anchor.start here) (target.parts ++ rest) location) :
      Leads disk keep (links + 1) here (part :: rest) location

variable {disk before after : Disk} {keep : Bool} {path : Path}

theorem follow_eq_followWith (disk : Disk) (keep : Bool) (links : Nat) : ∃ jump,
    disk.follow keep links = disk.followWith keep jump ∧
      ∀ here parts location, jump here parts = .ok location ↔
        ∃ fewer, links = fewer + 1 ∧ disk.follow keep fewer here parts = .ok location := by
  cases links with
  | zero => exact ⟨_, by rw [follow], by simp⟩
  | succ links => exact ⟨_, by rw [follow], by simp⟩

theorem Leads.of_follow {links : Nat} {here parts location : List String}
    (led : disk.follow keep links here parts = .ok location) :
    disk.Leads keep links here parts location := by
  induction links using Nat.strongRecOn generalizing here parts location with
  | ind links fewerLinks =>
    obtain ⟨jump, follow, jumps⟩ := disk.follow_eq_followWith keep links
    rw [follow] at led
    induction parts generalizing here with
    | nil =>
      cases led
      exact .done links _
    | cons part rest ih =>
      rw [followWith] at led
      split at led
      case h_1 | h_2 | h_3 => cases led
      case h_4 isFolder =>
        split at led
        · cases led
        · rename_i reached
          by_cases up : part = ".."
          · subst up
            exact .up isFolder reached (ih led)
          · rw [if_neg up] at led
            split at led
            · rename_i plain
              exact .down up isFolder reached plain (ih led)
            · rename_i target link
              cases last : keep && rest.isEmpty with
              | true =>
                rw [last, if_pos rfl] at led
                cases led
                exact .kept up isFolder reached link last
              | false =>
                rw [last, if_neg Bool.false_ne_true] at led
                obtain ⟨fewer, rfl, led⟩ := (jumps _ _ _).mp led
                exact .jump up isFolder reached link last
                  (fewerLinks fewer (Nat.lt_succ_self fewer) led)

theorem Leads.follow {links : Nat} {here parts location : List String}
    (leads : disk.Leads keep links here parts location) :
    disk.follow keep links here parts = .ok location := by
  induction leads with
  | done links here =>
    obtain ⟨jump, follow, _⟩ := disk.follow_eq_followWith keep links
    rw [follow, followWith]
  | @up links here rest location isFolder reached later ih =>
    obtain ⟨jump, follow, _⟩ := disk.follow_eq_followWith keep links
    rw [follow] at ih ⊢
    simp only [followWith, isFolder, reached, ↓reduceIte, ih]
  | @down links here rest location part named isFolder reached plain later ih =>
    obtain ⟨jump, follow, _⟩ := disk.follow_eq_followWith keep links
    rw [follow] at ih ⊢
    simp only [followWith, isFolder, reached, if_neg named, plain, ih]
  | @kept links here rest part target named isFolder reached link last =>
    obtain ⟨jump, follow, _⟩ := disk.follow_eq_followWith keep links
    rw [follow]
    simp only [followWith, isFolder, reached, if_neg named, link, last, ↓reduceIte]
  | @jump links here rest location part target named isFolder reached link more later ih =>
    obtain ⟨jump, follow, jumps⟩ := disk.follow_eq_followWith keep (links + 1)
    have led := (jumps _ _ _).mpr ⟨links, rfl, ih⟩
    rw [follow]
    simp only [followWith, isFolder, reached, if_neg named, link, more, Bool.false_eq_true,
      ↓reduceIte, led]

theorem Leads.mono {links : Nat} {here parts location : List String}
    (leads : before.Leads keep links here parts location) (grows : Grows before after) :
    after.Leads keep links here parts location := by
  have kept here := grows.kept here .folder
  induction leads with
  | done links here => exact .done links here
  | up isFolder reached _ ih => exact .up (kept _ isFolder) (by rwa [grows.rules]) ih
  | down named isFolder reached plain _ ih =>
    exact .down named (kept _ isFolder) (by rwa [grows.rules]) (by rwa [grows.links]) ih
  | kept named isFolder reached link last =>
    exact .kept named (kept _ isFolder) (by rwa [grows.rules]) (by rwa [grows.links]) last
  | jump named isFolder reached link more _ ih =>
    exact .jump named (kept _ isFolder) (by rwa [grows.rules]) (by rwa [grows.links]) more ih

theorem Grows.locate_eq_ok (grows : Grows before after) {location : List String}
    (led : before.locate path keep = .ok location) : after.locate path keep = .ok location := by
  rw [locate] at led ⊢
  rw [grows.working]
  exact ((Leads.of_follow led).mono grows).follow

theorem Rooted.start (rooted : disk.Rooted) (anchor : Anchor) :
    disk.standing? (anchor.start disk.working) = some .folder := by
  cases anchor with
  | working => exact rooted.working
  | root | doubleRoot => exact rooted.top

/-- A location that is a folder or lies in one. -/
def HasPlace (disk : Disk) (location : List String) : Prop :=
  disk.standing? location = some .folder ∨
    (location ≠ [] ∧ disk.standing? location.dropLast = some .folder)

theorem hasPlace_below {here : List String} (isFolder : disk.standing? here = some .folder)
    (part : String) : disk.HasPlace (here ++ [part]) := by
  refine .inr ⟨by simp, ?_⟩
  rwa [List.dropLast_concat]

theorem hasPlace_dropLast {here : List String} (isFolder : disk.standing? here = some .folder) :
    disk.HasPlace here.dropLast := by
  by_cases top : here = []
  · subst top
    exact .inl isFolder
  · have filled : (disk.root.standing? here).isSome := by
      have stands : disk.root.standing? here = some .folder := isFolder
      rw [stands]
      rfl
    exact .inl (Entry.standing?_dropLast top filled)

theorem hasPlace_start (rooted : disk.Rooted) {here : List String}
    (isFolder : disk.standing? here = some .folder) (anchor : Anchor) :
    disk.HasPlace (anchor.start here) := by
  cases anchor with
  | working => exact .inl isFolder
  | root | doubleRoot => exact .inl rooted.top

theorem Leads.hasPlace (rooted : disk.Rooted) {links : Nat} {here parts location : List String}
    (leads : disk.Leads keep links here parts location) (place : disk.HasPlace here) :
    disk.HasPlace location := by
  induction leads with
  | done => exact place
  | up isFolder _ _ ih => exact ih (hasPlace_dropLast isFolder)
  | down _ isFolder _ _ _ ih => exact ih (hasPlace_below isFolder _)
  | kept _ isFolder => exact hasPlace_below isFolder _
  | jump _ isFolder _ _ _ _ ih => exact ih (hasPlace_start rooted isFolder _)

theorem hasPlace_locate (rooted : disk.Rooted) {location : List String}
    (led : disk.locate path keep = .ok location) : disk.HasPlace location :=
  (Leads.of_follow led).hasPlace rooted (.inl (rooted.start path.anchor))

theorem target_eq_ok_iff {shown : String} {location : List String} :
    disk.target path shown keep = .ok location ↔ hasNull path = false ∧
      shown.utf8ByteSize ≤ disk.rules.longest ∧ disk.locate path keep = .ok location := by
  unfold target
  cases hasNull path with
  | true => simp
  | false =>
    by_cases long : disk.rules.longest < shown.utf8ByteSize
    · simp [long, Nat.not_le.mpr long]
    · cases disk.locate path keep <;> simp [long, Nat.not_lt.mp long]

theorem target_eq_error {shown : String} {fault : Fault}
    (refused : disk.target path shown keep = .error fault) :
    (fault = .nullByte ∧ hasNull path = true) ∨
      (fault = .system (.refused .nameTooLong) shown ∧
        disk.rules.longest < shown.utf8ByteSize) ∨
      hasNull path = false ∧ shown.utf8ByteSize ≤ disk.rules.longest ∧
        ∃ cause, fault = .system cause shown ∧ disk.locate path keep = .error cause := by
  unfold target at refused
  split at refused
  · rename_i null
    cases refused
    exact .inl ⟨rfl, null⟩
  · rename_i readable
    split at refused
    · rename_i long
      cases refused
      exact .inr (.inl ⟨rfl, long⟩)
    · rename_i short
      split at refused
      · cases refused
      · rename_i cause stopped
        cases refused
        exact .inr (.inr ⟨by simpa using readable, Nat.not_lt.mp short, cause, rfl, stopped⟩)

theorem isOf_of_target {shown : String} {fault : Fault}
    (refused : disk.target path shown keep = .error fault) : fault.IsOf shown := by
  rcases target_eq_error refused with ⟨rfl, _⟩ | ⟨rfl, _⟩ | ⟨_, _, cause, rfl, _⟩
  · exact .inl rfl
  · exact .inr ⟨_, rfl⟩
  · exact .inr ⟨cause, rfl⟩

theorem isOf_of_read {shown : String} {fault : Fault}
    (refused : disk.read path shown = .error fault) : fault.IsOf shown := by
  unfold read at refused
  cases target : disk.target path shown false with
  | error other =>
    rw [target] at refused
    cases refused
    exact isOf_of_target target
  | ok location =>
    simp only [target, bind, Except.bind] at refused
    split at refused
    · cases refused
      exact .inr ⟨_, rfl⟩
    · split at refused
      · cases refused
        exact .inr ⟨_, rfl⟩
      · cases refused
      · cases refused
        exact .inr ⟨_, rfl⟩

theorem isOf_of_makeFolder {fault : Fault} (refused : disk.makeFolder path = .error fault) :
    fault.IsOf path.toText := by
  unfold makeFolder at refused
  cases target : disk.target path path.toText true with
  | error other =>
    rw [target] at refused
    cases refused
    exact isOf_of_target target
  | ok location =>
    simp only [target, bind, Except.bind] at refused
    split at refused
    · cases refused
      exact .inr ⟨_, rfl⟩
    · split at refused
      · cases refused
        exact .inr ⟨_, rfl⟩
      · cases refused

theorem isOf_of_isFolder {fault : Fault} (refused : disk.isFolder path = .error fault) :
    fault.IsOf path.toText := by
  unfold isFolder seen at refused
  cases target : disk.target path path.toText false with
  | ok location =>
    rw [target] at refused
    cases refused
  | error other =>
    simp only [target] at refused
    split at refused
    · cases refused
    · cases refused
      exact isOf_of_target target

theorem Grows.target_eq_ok (grows : Grows before after) {shown : String} {location : List String}
    (led : before.target path shown keep = .ok location) :
    after.target path shown keep = .ok location := by
  rw [target_eq_ok_iff] at led ⊢
  rw [grows.rules]
  exact ⟨led.1, led.2.1, grows.locate_eq_ok led.2.2⟩

theorem isFolder_iff : disk.isFolder path = .ok true ↔ ∃ location,
    disk.target path path.toText false = .ok location ∧
      disk.standing? location = some .folder := by
  unfold isFolder seen
  cases disk.target path path.toText false with
  | error fault => cases absent : fault.meansAbsent <;> simp [Except.map, absent]
  | ok location => simp [Except.map]

theorem hasNull_of_isFolder (isFolder : disk.isFolder path = .ok true) : hasNull path = false := by
  obtain ⟨_, target, _⟩ := isFolder_iff.mp isFolder
  exact (target_eq_ok_iff.mp target).1

/-- The number of the file that a path denotes. -/
def file? (disk : Disk) (path : Path) : Option Nat :=
  match disk.locate path false with
  | .error _ => none
  | .ok location =>
    match disk.standing? location with
    | some (.file number) => some number
    | _ => none

theorem file?_eq_some_iff {number : Nat} : disk.file? path = some number ↔
    ∃ location, disk.locate path false = .ok location ∧
      disk.standing? location = some (.file number) := by
  unfold file?
  cases disk.locate path false with
  | error cause => simp
  | ok location =>
    simp only [Except.ok.injEq, exists_eq_left']
    cases disk.standing? location with
    | none => simp
    | some standing => cases standing <;> simp

/-- A path that denotes a file denotes it ever after. -/
theorem Grows.file?_eq_some (grows : Grows before after) {number : Nat}
    (denotes : before.file? path = some number) : after.file? path = some number := by
  obtain ⟨location, led, stands⟩ := file?_eq_some_iff.mp denotes
  exact file?_eq_some_iff.mpr ⟨location, grows.locate_eq_ok led, grows.kept location _ stands⟩

@[simp] theorem contents_fill_self (disk : Disk) (number : Nat) (content : List UInt8) :
    (disk.fill number content).contents number = content := if_pos rfl

theorem contents_fill_of_ne (disk : Disk) {number other : Nat} (apart : other ≠ number)
    (content : List UInt8) : (disk.fill number content).contents other = disk.contents other :=
  if_neg apart

theorem standing?_put {location : List String} (place : disk.HasPlace location)
    (free : disk.standing? location = none) (make : String → Entry)
    (leaf : ∀ name, (make name).IsLeaf) (named : ∀ name, (make name).name = name)
    (other : List String) :
    (disk.put location make).standing? other =
      if other = location then some (make (lastName location)).standing
      else disk.standing? other := by
  rcases place with isFolder | ⟨below, above⟩
  · rw [free] at isFolder
    cases isFolder
  · have last : location.getLast? = some (make (lastName location)).name := by
      rw [named, lastName, List.getLast?_eq_some_getLast below]
      rfl
    exact Entry.standing?_put (leaf _) last above free other

/-- A file was opened at a location: it stood there, or it was made where nothing stood. Its bytes
may now be any. -/
structure Opens (before after : Disk) (location : List String) (number : Nat) : Prop where
  working : after.working = before.working
  rules : after.rules = before.rules
  was : before.standing? location = some (.file number) ∨
    before.standing? location = none ∧ ∀ other, before.standing? other ≠ some (.file number)
  standing : ∀ other, after.standing? other =
    if other = location then some (.file number) else before.standing? other
  contents : ∀ other, other ≠ number → after.contents other = before.contents other

variable {location : List String} {number : Nat}

theorem Opens.grows (opens : Opens before after location number) : Grows before after where
  working := opens.working
  rules := opens.rules
  kept other standing stands := by
    rw [opens.standing]
    split
    · rename_i here
      subst here
      rcases opens.was with was | ⟨free, _⟩
      · rwa [was] at stands
      · rw [free] at stands
        cases stands
    · exact stands
  links other := by
    rw [link?, link?, opens.standing]
    by_cases here : other = location
    · subst here
      rw [if_pos rfl]
      rcases opens.was with was | ⟨free, _⟩
      · rw [was]
      · rw [free]
    · rw [if_neg here]
  granted other isFolder := by
    rw [opens.standing] at isFolder
    split at isFolder
    · cases isFolder
    · exact .inl isFolder

theorem Opens.stands (opens : Opens before after location number) :
    after.standing? location = some (.file number) := by
  rw [opens.standing, if_pos rfl]

theorem Opens.fill (opens : Opens before after location number) (content : List UInt8) :
    Opens before (after.fill number content) location number where
  working := opens.working
  rules := opens.rules
  was := opens.was
  standing := opens.standing
  contents other apart :=
    (contents_fill_of_ne after apart content).trans (opens.contents other apart)

/-- What is not a name of the opened file holds what it held. -/
theorem Opens.content?_eq (opens : Opens before after location number) {other : List String}
    (apart : after.standing? other ≠ some (.file number)) :
    after.content? other = before.content? other := by
  have elsewhere : other ≠ location := by
    rintro rfl
    exact apart opens.stands
  have standing : after.standing? other = before.standing? other := by
    rw [opens.standing, if_neg elsewhere]
  refine content?_congr standing fun otherNumber stands => opens.contents otherNumber ?_
  rintro rfl
  exact apart (standing.trans stands)

theorem opens_emptied (place : disk.HasPlace location) (notFolder : disk.standing? location = none ∨
      ∃ number, disk.standing? location = some (.file number)) :
    Opens disk (disk.emptied location).1 location (disk.emptied location).2 := by
  unfold emptied
  rcases notFolder with free | ⟨number, stands⟩
  · have effect := standing?_put place free (fun name => .file name disk.root.fresh)
      (fun name => Entry.isLeaf_of_standing (by simp [Entry.standing])) (fun name => rfl)
    have fresh (other : List String) : disk.standing? other ≠ some (.file disk.root.fresh) :=
      fun stands => Nat.lt_irrefl _ (Entry.lt_fresh stands)
    rw [free]
    exact ⟨rfl, rfl, .inr ⟨free, fresh⟩, effect, fun other apart => if_neg apart⟩
  · rw [stands]
    refine ⟨rfl, rfl, .inl stands, fun other => ?_, fun other apart => if_neg apart⟩
    by_cases here : other = location
    · rw [if_pos here, here]
      exact stands
    · rw [if_neg here]
      rfl

/-- How a write ends: refused before the file is open, done, or stopped with a beginning of the
content in the file. -/
inductive WriteEnds (disk : Disk) (path : Path) (content : List UInt8) :
    Disk × Except Fault Unit → Prop
  | refused {fault : Fault} (before : ∀ refusal, fault ≠ .interrupted refusal) :
      WriteEnds disk path content (disk, .error fault)
  | done {after : Disk} {location : List String} {number : Nat}
      (led : disk.locate path false = .ok location) (opens : Opens disk after location number)
      (whole : after.contents number = content) : WriteEnds disk path content (after, .ok ())
  | stopped {after : Disk} {location : List String} {number : Nat} {refusal : Refusal}
      (led : disk.locate path false = .ok location) (opens : Opens disk after location number)
      (part : after.contents number <+: content) :
      WriteEnds disk path content (after, .error (.interrupted refusal))

theorem writeEnds_write (rooted : disk.Rooted) (path : Path) (content : List UInt8) :
    WriteEnds disk path content (disk.write path content) := by
  have opened {location : List String} (led : disk.target path path.toText false = .ok location)
      (notFolder : disk.standing? location = none ∨
        ∃ number, disk.standing? location = some (.file number)) :=
    opens_emptied (hasPlace_locate rooted (target_eq_ok_iff.mp led).2.2) notFolder
  unfold write
  dsimp only
  split
  · rename_i refused
    exact .refused (isOf_of_target refused).ne_interrupted
  · rename_i location target
    have led := (target_eq_ok_iff.mp target).2.2
    split
    case h_1 | h_2 => exact .refused (by simp)
    all_goals
      rename_i stands
      have opens := opened target (by simp [stands])
      split
      · exact .refused (by simp)
      · split
        · exact .done led (opens.fill content) (contents_fill_self ..)
        · rename_i count refusal _
          refine .stopped led (opens.fill (content.take count)) ?_
          rw [contents_fill_self]
          exact List.take_prefix count content

/-- What may change while only certain files are written: their bytes, and places where nothing
stood. -/
structure Changes (before after : Disk) (written : Nat → Prop) : Prop extends
    Grows before after where
  apart : ∀ location, (∀ number, written number → after.standing? location ≠ some (.file number)) →
    after.content? location = before.content? location
  contents : ∀ number, ¬ written number → after.contents number = before.contents number

theorem Changes.refl (disk : Disk) (written : Nat → Prop) : Changes disk disk written :=
  ⟨.refl disk, fun _ _ => rfl, fun _ _ => rfl⟩

theorem Changes.mono {written more : Nat → Prop} (changes : Changes before after written)
    (sub : ∀ number, written number → more number) : Changes before after more where
  toGrows := changes.toGrows
  apart location clear := changes.apart location fun number isWritten =>
    clear number (sub number isWritten)
  contents number clear := changes.contents number fun isWritten => clear (sub number isWritten)

theorem Changes.trans {first second third : Disk} {written : Nat → Prop}
    (one : Changes first second written) (two : Changes second third written) :
    Changes first third written where
  toGrows := one.toGrows.trans two.toGrows
  apart location clear := by
    refine (two.apart location clear).trans (one.apart location fun number isWritten stands => ?_)
    exact clear number isWritten (two.kept location _ stands)
  contents number clear := (two.contents number clear).trans (one.contents number clear)

theorem Opens.changes (opens : Opens before after location number) :
    Changes before after fun other => other = number where
  toGrows := opens.grows
  apart _ clear := opens.content?_eq (clear number rfl)
  contents other clear := opens.contents other clear

theorem makeFolder_eq_ok_iff :
    disk.makeFolder path = .ok after ↔ ∃ location,
      disk.target path path.toText true = .ok location ∧ disk.standing? location = none ∧
        disk.rules.change disk.toStored .folder location = none ∧
          after = disk.put location fun name => .folder name [] := by
  unfold makeFolder
  cases disk.target path path.toText true with
  | error fault => simp [bind, Except.bind]
  | ok location =>
    simp only [bind, Except.bind, Except.ok.injEq, exists_eq_left', @eq_comm _ after]
    cases disk.standing? location with
    | some standing => simp
    | none => cases disk.rules.change disk.toStored .folder location <;> simp

theorem makeOrKeep_ne_interrupted (refusal : Refusal) :
    (disk.makeOrKeep path).2 ≠ .error (.interrupted refusal) := by
  intro refused
  unfold makeOrKeep at refused
  split at refused
  case h_1 | h_2 | h_3 => cases refused
  case h_4 fault _ _ made =>
    split at refused
    · cases refused
    · cases refused
      exact (isOf_of_makeFolder made).ne_interrupted refusal rfl
    · rename_i told
      cases refused
      exact (isOf_of_isFolder told).ne_interrupted refusal rfl

theorem ensureFolder_ne_interrupted (disk : Disk) (anchor : Anchor) (reversed : List String)
    (refusal : Refusal) :
    (disk.ensureFolder anchor reversed).2 ≠ .error (.interrupted refusal) := by
  induction reversed generalizing disk with
  | nil =>
    rw [ensureFolder]
    split
    · simp
    · exact makeOrKeep_ne_interrupted refusal
  | cons last above ih =>
    rw [ensureFolder]
    split
    · rename_i kept _ _
      dsimp only
      split
      · exact makeOrKeep_ne_interrupted refusal
      · exact ih kept
    · exact makeOrKeep_ne_interrupted refusal

/-- Folders were added at most. -/
structure AddsFolders (before after : Disk) : Prop extends Grows before after where
  files : ∀ location number, after.standing? location = some (.file number) →
    before.standing? location = some (.file number)
  contents : after.contents = before.contents

theorem AddsFolders.refl (disk : Disk) : AddsFolders disk disk :=
  ⟨.refl disk, fun _ _ stands => stands, rfl⟩

theorem AddsFolders.trans {first second third : Disk} (one : AddsFolders first second)
    (two : AddsFolders second third) : AddsFolders first third where
  toGrows := one.toGrows.trans two.toGrows
  files location number stands := one.files location number (two.files location number stands)
  contents := two.contents.trans one.contents

theorem AddsFolders.content?_eq (adds : AddsFolders before after) (location : List String) :
    after.content? location = before.content? location := by
  rw [content?, content?, adds.contents]
  cases stands : before.standing? location with
  | some standing => rw [adds.kept location standing stands]
  | none =>
    cases standsNow : after.standing? location with
    | none => rfl
    | some standing =>
      cases standing with
      | file number =>
        rw [adds.files location number standsNow] at stands
        cases stands
      | folder | link => rfl

theorem AddsFolders.changes (adds : AddsFolders before after) (written : Nat → Prop) :
    Changes before after written where
  toGrows := adds.toGrows
  apart location _ := adds.content?_eq location
  contents number _ := congrFun adds.contents number

theorem standing?_makeFolder (rooted : disk.Rooted) (made : disk.makeFolder path = .ok after) :
    ∃ location, disk.target path path.toText true = .ok location ∧
      disk.standing? location = none ∧
        disk.rules.change disk.toStored .folder location = none ∧
          ∀ other, after.standing? other =
            if other = location then some .folder else disk.standing? other := by
  obtain ⟨location, target, free, granted, rfl⟩ := makeFolder_eq_ok_iff.mp made
  have place := hasPlace_locate rooted (target_eq_ok_iff.mp target).2.2
  exact ⟨location, target, free, granted,
    standing?_put place free (fun name => .folder name []) Entry.isLeaf_folder fun name => rfl⟩

theorem addsFolders_makeFolder (rooted : disk.Rooted) (made : disk.makeFolder path = .ok after) :
    AddsFolders disk after := by
  obtain ⟨location, _, free, granted, effect⟩ := standing?_makeFolder rooted made
  obtain ⟨_, _, _, _, rfl⟩ := makeFolder_eq_ok_iff.mp made
  constructor
  case toGrows =>
    refine ⟨rfl, rfl, fun other standing stands => ?_, fun other => ?_, fun _ isFolder => ?_⟩
    · rw [effect]
      split
      · rename_i here
        rw [here, free] at stands
        cases stands
      · exact stands
    · rw [link?, link?, effect]
      by_cases here : other = location
      · rw [if_pos here, here, free]
      · rw [if_neg here]
    · rw [effect] at isFolder
      split at isFolder
      · rename_i here
        exact .inr ⟨disk.toStored, here ▸ granted⟩
      · exact .inl isFolder
  case files =>
    intro other number stands
    rw [effect] at stands
    split at stands
    · cases stands
    · exact stands
  case contents => rfl

/-- Folders were made, one request after the other. -/
inductive MakesFolders : Disk → Disk → Prop
  | refl (disk : Disk) : MakesFolders disk disk
  | step {first second third : Disk} {path : Path} (made : MakesFolders first second)
      (success : second.makeFolder path = .ok third) : MakesFolders first third

theorem MakesFolders.trans {first second third : Disk} (one : MakesFolders first second)
    (two : MakesFolders second third) : MakesFolders first third := by
  induction two with
  | refl => exact one
  | step _ success ih => exact .step ih success

theorem MakesFolders.addsFolders (made : MakesFolders before after) (rooted : before.Rooted) :
    AddsFolders before after := by
  induction made with
  | refl => exact .refl before
  | step _ success ih => exact ih.trans (addsFolders_makeFolder (ih.rooted rooted) success)

theorem makesFolders_makeOrKeep (disk : Disk) (path : Path) :
    MakesFolders disk (disk.makeOrKeep path).1 := by
  unfold makeOrKeep
  split
  · rename_i made
    exact .step (.refl disk) made
  · exact .refl disk
  · exact .refl disk
  · split <;> exact .refl disk

/-- Making a folder and those above it makes folders only, refused or not. -/
theorem makesFolders_ensureFolder (disk : Disk) (anchor : Anchor) (reversed : List String) :
    MakesFolders disk (disk.ensureFolder anchor reversed).1 := by
  induction reversed generalizing disk with
  | nil =>
    have first := makesFolders_makeOrKeep disk ⟨anchor, [].reverse⟩
    rw [ensureFolder]
    split
    · rename_i kept shown refused
      rw [refused] at first
      exact first
    · exact first
  | cons last above ih =>
    have first := makesFolders_makeOrKeep disk ⟨anchor, (last :: above).reverse⟩
    rw [ensureFolder]
    split
    · rename_i kept shown refused
      rw [refused] at first
      have higher := first.trans (ih kept)
      dsimp only
      split
      · rename_i made done
        rw [done] at higher
        exact higher.trans (makesFolders_makeOrKeep made _)
      · exact higher
    · exact first

theorem addsFolders_ensureFolderAt (rooted : disk.Rooted) (path : Path) :
    AddsFolders disk (disk.ensureFolderAt path).1 :=
  (makesFolders_ensureFolder disk path.anchor path.parts.reverse).addsFolders rooted

end Disk

end ClassSketch.Files
