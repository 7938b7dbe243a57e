import ClassSketch.Proofs.Files.Disk
import ClassSketch.Proofs.Files.Extension
import ClassSketch.Files.Discovery
import Mathlib.Data.List.Nodup

set_option autoImplicit false

namespace ClassSketch.Files

/-- A name that an entry of a folder can have. -/
structure PlainName (name : String) : Prop where
  filled : name ≠ ""
  notHere : name ≠ "."
  notAbove : name ≠ ".."
  single : '/' ∉ name.toList

theorem plainName_iff (name : String) :
    PlainName name ↔ name ≠ "" ∧ name ≠ "." ∧ name ≠ ".." ∧ '/' ∉ name.toList := by
  constructor
  · rintro ⟨filled, notHere, notAbove, single⟩
    exact ⟨filled, notHere, notAbove, single⟩
  · rintro ⟨filled, notHere, notAbove, single⟩
    exact ⟨filled, notHere, notAbove, single⟩

instance (name : String) : Decidable (PlainName name) :=
  decidable_of_iff _ (plainName_iff name).symm

namespace Entry

/-- A tree in which the entries of every folder have plain names, each its own. -/
inductive WellFormed : Entry → Prop
  | file (name : String) (number : Nat) : WellFormed (.file name number)
  | link (name : String) (target : Path) : WellFormed (.link name target)
  | folder {name : String} {entries : List Entry} (distinct : (entries.map Entry.name).Nodup)
      (plain : ∀ entry ∈ entries, PlainName entry.name)
      (inner : ∀ entry ∈ entries, WellFormed entry) : WellFormed (.folder name entries)

theorem WellFormed.singleton {entry : Entry} (wellFormed : entry.WellFormed)
    (plain : PlainName entry.name) (name : String) : (Entry.folder name [entry]).WellFormed :=
  .folder (List.nodup_singleton entry.name) (List.forall_mem_singleton.mpr plain)
    (List.forall_mem_singleton.mpr wellFormed)

theorem WellFormed.get? {entry found : Entry} (wellFormed : entry.WellFormed)
    {location : List String} (stands : entry.get? location = some found) : found.WellFormed := by
  refine of_get? ?_ wellFormed stands
  intro name entries whole
  cases whole with
  | folder _ _ inner => exact inner

variable {view : View}

/-- The folders of a list that are looked into. -/
def walked (entries : List Entry) : List Entry :=
  entries.filter fun entry => entry.isFolder && !skipsFolder entry.name

theorem sourcesBelow_eq (view : View) (entries : List Entry) :
    sourcesBelow view entries = (walked entries).map fun entry =>
      (entry.name, entry.sources (view.below entry.name)) := by
  induction entries with
  | nil => rw [sourcesBelow]; rfl
  | cons entry rest ih =>
    by_cases looked : (entry.isFolder && !skipsFolder entry.name) = true
    · have taken : walked (entry :: rest) = entry :: walked rest :=
        List.filter_cons_of_pos (by simpa using looked)
      rw [sourcesBelow, if_pos looked, taken, ih, List.map_cons]
    · have dropped : walked (entry :: rest) = walked rest :=
        List.filter_cons_of_neg (by simpa using looked)
      rw [sourcesBelow, if_neg looked, dropped, ih]

theorem sources_of_not_listed (own : String) (entries : List Entry)
    (closed : ¬ view.lists [] = true) : (folder own entries).sources view = [] := by
  rw [sources, if_neg closed]

/-- The sources of a folder that is listed, in any order: its own, and those of the folders looked
into. -/
theorem sources_perm (own : String) (entries : List Entry) (listed : view.lists [] = true) :
    ((folder own entries).sources view).Perm ((ownSources view entries).map ([·]) ++
      (walked entries).flatMap fun entry =>
        (entry.sources (view.below entry.name)).map (entry.name :: ·)) := by
  have own_perm := (List.mergeSort_perm (ownSources view entries)
    fun first second => decide (first ≤ second)).map fun name => [name]
  have below_perm := (List.mergeSort_perm (sourcesBelow view entries)
    fun first second => decide (first.1 ≤ second.1)).flatMap_right
      fun named => named.2.map (named.1 :: ·)
  rw [sources, if_pos listed, sortNames, sortByName]
  refine own_perm.append (below_perm.trans (.of_eq ?_))
  rw [sourcesBelow_eq, List.flatMap_map]

theorem mem_sources_folder {own : String} {entries : List Entry} {parts : List String} :
    parts ∈ (folder own entries).sources view ↔ view.lists [] = true ∧
      ((∃ entry ∈ entries, view.isFolder entry = false ∧
          Language.isSupported entry.name = true ∧ parts = [entry.name]) ∨
        ∃ entry ∈ entries, entry.isFolder = true ∧ skipsFolder entry.name = false ∧
          ∃ rest ∈ entry.sources (view.below entry.name), parts = entry.name :: rest) := by
  by_cases listed : view.lists [] = true
  · rw [(sources_perm own entries listed).mem_iff, List.mem_append]
    simp only [listed, ownSources, walked, List.mem_map, List.mem_flatMap, List.mem_filter,
      Bool.and_eq_true, Bool.not_eq_true', exists_exists_and_eq_and, @eq_comm _ parts]
    simp only [and_assoc, true_and]
  · rw [sources_of_not_listed own entries listed]
    simp [listed]

theorem ne_nil_of_mem_sources {entry : Entry} {parts : List String}
    (source : parts ∈ entry.sources view) : parts ≠ [] := by
  cases entry with
  | file | link =>
    rw [sources] at source
    cases source
  | folder name entries =>
    obtain ⟨_, ⟨_, _, _, _, rfl⟩ | ⟨_, _, _, _, _, _, rfl⟩⟩ := mem_sources_folder.mp source
    · simp
    · simp

end Entry

/-- Plain components whose last one has the extension. -/
structure IsSource (parts : List String) : Prop where
  plain : ∀ part ∈ parts, PlainName part
  last : ∃ folder name, parts = folder ++ [name] ∧ Language.isSupported name = true

theorem IsSource.cons {name : String} {rest : List String} (named : PlainName name)
    (source : IsSource rest) : IsSource (name :: rest) where
  plain := List.forall_mem_cons.mpr ⟨named, source.plain⟩
  last := by
    obtain ⟨folder, last, rfl, supported⟩ := source.last
    exact ⟨name :: folder, last, rfl, supported⟩

namespace Entry

variable {view : View}

theorem WellFormed.isSource {entry : Entry} (wellFormed : entry.WellFormed) :
    ∀ parts ∈ entry.sources view, IsSource parts := by
  induction wellFormed generalizing view with
  | file | link =>
    intro parts source
    rw [sources] at source
    cases source
  | folder distinct plain inner ih =>
    intro parts source
    obtain ⟨_, ⟨entry, inside, _, supported, rfl⟩ | ⟨entry, inside, _, _, rest, below, rfl⟩⟩ :=
      mem_sources_folder.mp source
    · exact ⟨by simpa using plain entry inside, [], entry.name, rfl, supported⟩
    · exact (ih entry inside rest below).cons (plain entry inside)

theorem WellFormed.nodup_sources {entry : Entry} (wellFormed : entry.WellFormed) :
    (entry.sources view).Nodup := by
  induction wellFormed generalizing view with
  | file | link =>
    rw [sources]
    exact .nil
  | @folder name entries distinct plain inner ih =>
    have own : (ownSources view entries).Nodup :=
      distinct.sublist (List.filter_sublist.map Entry.name)
    have apart : ((walked entries).map Entry.name).Nodup :=
      distinct.sublist (List.filter_sublist.map Entry.name)
    by_cases listed : view.lists [] = true
    · rw [(sources_perm name entries listed).nodup_iff, List.nodup_append']
      refine ⟨own.map List.singleton_injective, ?_, ?_⟩
      · rw [List.nodup_flatMap]
        constructor
        · intro entry inside
          exact (ih entry (List.mem_of_mem_filter inside)).map (List.cons_injective)
        · refine (List.pairwise_map.mp apart).imp ?_
          intro first second other parts here there
          obtain ⟨_, _, rfl⟩ := List.mem_map.mp here
          obtain ⟨_, _, same⟩ := List.mem_map.mp there
          rw [List.cons.injEq] at same
          exact other same.1.symm
      · -- a source of the folder itself has one component, one from below has more
        intro parts here there
        obtain ⟨_, _, rfl⟩ := List.mem_map.mp here
        obtain ⟨entry, _, below⟩ := List.mem_flatMap.mp there
        obtain ⟨rest, source, same⟩ := List.mem_map.mp below
        rw [List.cons.injEq] at same
        exact ne_nil_of_mem_sources source same.2
    · rw [sources_of_not_listed name entries listed]
      exact .nil

end Entry

theorem below_injective (base : Path) : Function.Injective base.below := by
  intro first second same
  have parts := congrArg Path.parts same
  exact List.append_cancel_left parts

namespace Disk

/-- A disk whose tree is well formed. -/
structure WellFormed (disk : Disk) : Prop extends Rooted disk where
  tree : disk.root.WellFormed

variable {disk : Disk} {path : Path}

theorem sources_eq_ok (readable : hasNull path = false) :
    disk.sources path = .ok (disk.found path) := by
  rw [sources, readable]
  rfl

theorem found_eq (disk : Disk) (path : Path) :
    disk.found path = [] ∨ ∃ location entry, disk.locate path false = .ok location ∧
      disk.root.get? location = some entry ∧ disk.found path = entry.sources (disk.view path) := by
  unfold found
  cases led : disk.locate path false with
  | error cause => exact .inl rfl
  | ok location =>
    cases stands : disk.root.get? location with
    | none => exact .inl (by simp [stands])
    | some entry => exact .inr ⟨location, entry, rfl, stands, by simp [stands]⟩

theorem found_of_locate {location : List String} (led : disk.locate path false = .ok location)
    (entry : Entry) (stands : disk.root.get? location = some entry) :
    disk.found path = entry.sources (disk.view path) := by
  simp only [found, led, stands]

theorem ne_nil_of_mem_found {parts : List String} (source : parts ∈ disk.found path) :
    parts ≠ [] := by
  obtain none | ⟨_, entry, _, _, found⟩ := disk.found_eq path
  · rw [none] at source
    cases source
  · rw [found] at source
    exact Entry.ne_nil_of_mem_sources source

theorem WellFormed.isSource (wellFormed : disk.WellFormed) :
    ∀ parts ∈ disk.found path, IsSource parts := by
  obtain none | ⟨_, entry, _, stands, found⟩ := disk.found_eq path
  · rw [none]
    simp
  · rw [found]
    exact (wellFormed.tree.get? stands).isSource

theorem WellFormed.nodup_found (wellFormed : disk.WellFormed) (path : Path) :
    (disk.found path).Nodup := by
  obtain none | ⟨_, entry, _, stands, found⟩ := disk.found_eq path
  · rw [none]
    exact .nil
  · rw [found]
    exact (wellFormed.tree.get? stands).nodup_sources

end Disk

end ClassSketch.Files
