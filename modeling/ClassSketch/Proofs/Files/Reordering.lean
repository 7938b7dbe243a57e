import ClassSketch.Proofs.Files.Relisting

set_option autoImplicit false

namespace ClassSketch.Files

namespace Entry

/-- The same tree with the entries of its folders listed in another order. -/
inductive Reordered : Entry → Entry → Prop
  | file (name : String) (number : Nat) : Reordered (.file name number) (.file name number)
  | link (name : String) (target : Path) : Reordered (.link name target) (.link name target)
  | folder {name : String} {entries listed : List Entry} (arrange : Entry → Entry)
      (inner : ∀ entry ∈ entries, Reordered entry (arrange entry))
      (perm : listed.Perm (entries.map arrange)) :
      Reordered (.folder name entries) (.folder name listed)

theorem Reordered.refl : (entry : Entry) → Reordered entry entry
  | .file name number => .file name number
  | .link name target => .link name target
  | .folder _ entries =>
    .folder id (fun entry _ => Reordered.refl entry) (.of_eq (List.map_id entries).symm)

/-- The entries of one folder in another order. -/
theorem Reordered.of_perm {name : String} {entries listed : List Entry}
    (perm : listed.Perm entries) : Reordered (.folder name entries) (.folder name listed) :=
  .folder id (fun entry _ => .refl entry) (by rwa [List.map_id])

theorem Reordered.singleton {entry other : Entry} (reordered : Reordered entry other)
    (name : String) : Reordered (.folder name [entry]) (.folder name [other]) :=
  .folder (fun _ => other) (List.forall_mem_singleton.mpr reordered) (.refl [other])

theorem Reordered.name_eq {entry other : Entry} (reordered : Reordered entry other) :
    other.name = entry.name := by
  cases reordered <;> rfl

/-- Reordered entries bear the same names. -/
theorem map_name_perm {entries listed : List Entry} {arrange : Entry → Entry}
    (inner : ∀ entry ∈ entries, Reordered entry (arrange entry))
    (perm : listed.Perm (entries.map arrange)) :
    (listed.map Entry.name).Perm (entries.map Entry.name) := by
  have names : (entries.map arrange).map Entry.name = entries.map Entry.name := by
    rw [List.map_map]
    exact List.map_congr_left fun entry inside => (inner entry inside).name_eq
  exact names ▸ perm.map Entry.name

theorem Reordered.distinct {entry other : Entry} (reordered : Reordered entry other)
    (distinct : entry.Distinct) : other.Distinct := by
  induction reordered with
  | file | link => exact distinct
  | folder arrange inner perm ih =>
    cases distinct with
    | folder names each =>
      refine .folder ((map_name_perm inner perm).nodup_iff.mpr names) ?_
      intro other inside
      obtain ⟨entry, isEntry, rfl⟩ := List.mem_map.mp (perm.mem_iff.mp inside)
      exact ih entry isEntry (each entry isEntry)

/-- Under names of their own, reordered entries are found under the same names. -/
theorem named?_reordered {entries listed : List Entry} {arrange : Entry → Entry}
    (names : (entries.map Entry.name).Nodup)
    (inner : ∀ entry ∈ entries, Reordered entry (arrange entry))
    (perm : listed.Perm (entries.map arrange)) (name : String) :
    named? listed name = (named? entries name).map arrange := by
  have listedNames : (listed.map Entry.name).Nodup :=
    (map_name_perm inner perm).nodup_iff.mpr names
  cases found : named? entries name with
  | some entry =>
    obtain ⟨inside, same⟩ := (named?_eq_some_iff names).mp found
    refine (named?_eq_some_iff listedNames).mpr ⟨?_, (inner entry inside).name_eq.trans same⟩
    exact perm.mem_iff.mpr (List.mem_map_of_mem inside)
  | none =>
    rw [Option.map_none, Option.eq_none_iff_forall_ne_some]
    intro other foundToo
    obtain ⟨inside, same⟩ := (named?_eq_some_iff listedNames).mp foundToo
    obtain ⟨entry, isEntry, rfl⟩ := List.mem_map.mp (perm.mem_iff.mp inside)
    have known := (named?_eq_some_iff names).mpr
      ⟨isEntry, (inner entry isEntry).name_eq.symm.trans same⟩
    rw [found] at known
    cases known

/-- The same stands at every location of a reordered tree. -/
theorem Reordered.standing?_eq {entry other : Entry} (reordered : Reordered entry other)
    (distinct : entry.Distinct) (location : List String) :
    other.standing? location = entry.standing? location := by
  induction reordered generalizing location with
  | file | link => rfl
  | folder arrange inner perm ih =>
    cases distinct with
    | folder names each =>
      cases location with
      | nil => rfl
      | cons name rest =>
        rw [standing?_folder_cons, standing?_folder_cons, named?_reordered names inner perm]
        cases found : named? _ name with
        | none => rfl
        | some entry =>
          have inside := List.mem_of_find?_eq_some found
          exact ih entry inside (each entry inside) rest

end Entry

namespace Disk

variable {disk : Disk} {root : Path}

theorem Distinct.pairwise_found (distinct : disk.Distinct) (root : Path) :
    (disk.found root).Pairwise Before := by
  obtain none | ⟨_, entry, _, stands, found⟩ := disk.found_eq root
  · rw [none]
    exact .nil
  · rw [found]
    exact Entry.pairwise_sources (Entry.Distinct.get? distinct stands)

theorem grows_of_standing?_eq {other : Entry} (same : ∀ location,
    ({ disk with root := other } : Disk).standing? location = disk.standing? location) :
    Grows disk { disk with root := other } where
  working := rfl
  rules := rfl
  kept location standing stands := (same location).trans stands
  links location := by rw [link?, link?, same]
  granted location isFolder := .inl ((same location).symm.trans isFolder)

/-- A walk sees the same on disks on which the same stands everywhere. -/
theorem view_eq_of_grows {before after : Disk} (grows : Grows before after)
    (back : Grows after before) (root : Path) : after.view root = before.view root := by
  have lists : (after.view root).lists = (before.view root).lists := by
    funext names
    exact Bool.eq_iff_iff.mpr ⟨back.lists, grows.lists⟩
  have leads : (after.view root).leads = (before.view root).leads := by
    funext names
    exact Bool.eq_iff_iff.mpr ⟨back.leads, grows.leads⟩
  calc after.view root
    _ = ⟨(after.view root).lists, (after.view root).leads⟩ := rfl
    _ = ⟨(before.view root).lists, (before.view root).leads⟩ := by rw [lists, leads]
    _ = before.view root := rfl

/-- A folder lists the same sources in whatever order its entries are listed. -/
theorem found_reordered (distinct : disk.Distinct) {other : Entry}
    (reordered : disk.root.Reordered other) :
    ({ disk with root := other } : Disk).found root = disk.found root := by
  have same (location : List String) :
      ({ disk with root := other } : Disk).standing? location = disk.standing? location :=
    reordered.standing?_eq distinct location
  have distinctToo : ({ disk with root := other } : Disk).Distinct := reordered.distinct distinct
  have grows : Grows disk { disk with root := other } := grows_of_standing?_eq same
  have back : Grows { disk with root := other } disk :=
    @grows_of_standing?_eq { disk with root := other } _ fun location => (same location).symm
  cases led : disk.locate root false with
  | error cause =>
    cases ledToo : ({ disk with root := other } : Disk).locate root false with
    | error => simp only [found, led, ledToo]
    | ok location =>
      rw [back.locate_eq_ok ledToo] at led
      cases led
  | ok location =>
    have ledToo := grows.locate_eq_ok led
    cases stands : disk.standing? location with
    | none =>
      have free := Option.map_eq_none_iff.mp stands
      have freeToo := Option.map_eq_none_iff.mp ((same location).trans stands)
      simp only [found, led, ledToo, free, freeToo]
    | some standing =>
      obtain ⟨entry, here⟩ := exists_entry stands
      obtain ⟨listed, there⟩ := exists_entry ((same location).trans stands)
      have names := Entry.Distinct.get? distinct here
      have namesToo := Entry.Distinct.get? distinctToo there
      rw [found_of_locate led _ here, found_of_locate ledToo _ there, view_eq_of_grows grows back]
      have inner (parts : List String) : listed.standing? parts = entry.standing? parts := by
        rw [← standing?_append here, ← standing?_append there]
        exact same _
      refine Entry.sources_eq_of_mem_iff namesToo names fun parts => ?_
      rw [Entry.mem_sources_iff namesToo, Entry.mem_sources_iff names]
      refine exists_congr fun folders => exists_congr fun name => and_congr_right fun _ => ?_
      constructor
      · rintro ⟨stands, supported, walked, listed⟩
        exact ⟨by simpa only [inner] using stands, supported, walked, listed⟩
      · rintro ⟨stands, supported, walked, listed⟩
        exact ⟨by simpa only [inner] using stands, supported, walked, listed⟩

/-- The paths that are collected below a root. -/
def sourcePaths (disk : Disk) (root : Path) : Except Fault (List Path) := do
  return (← disk.sources root).map root.below

/-- Something that is no folder stands below a root. A link counts by what it leads to. -/
structure HoldsFile (disk : Disk) (root : Path) (parts : List String) (standing : Standing) :
    Prop where
  stands : ∃ location, disk.locate root false = .ok location ∧
    disk.standing? (location ++ parts) = some standing
  notFolder : standing ≠ .folder
  leads : ∀ target, standing = .link target →
    disk.leads (root.below parts) (Path.walkText root.toText parts) = false

theorem mem_found_iff (distinct : disk.Distinct) {parts : List String} :
    parts ∈ disk.found root ↔ ∃ folders name, parts = folders ++ [name] ∧
      (∃ standing, disk.HoldsFile root (folders ++ [name]) standing) ∧
      Language.isSupported name = true ∧ (∀ folder ∈ folders, skipsFolder folder = false) ∧
      ∀ above, above <+: folders →
        disk.lists (root.below above) (Path.walkText root.toText above) = true := by
  constructor
  · intro inside
    obtain none | ⟨location, entry, led, stands, found⟩ := disk.found_eq root
    · rw [none] at inside
      cases inside
    · rw [found, Entry.mem_sources_iff (Entry.Distinct.get? distinct stands)] at inside
      obtain ⟨folders, name, rfl, ⟨standing, here, shown⟩, supported, walked, listed⟩ := inside
      rw [← standing?_append stands] at here
      refine ⟨folders, name, rfl, ⟨standing, ⟨location, led, here⟩, ?_, ?_⟩, supported, walked,
        listed⟩
      · rintro rfl
        cases shown
      · rintro target rfl
        simpa [View.shows, view] using shown
  · rintro ⟨folders, name, rfl, ⟨standing, ⟨location, led, here⟩, notFolder, leads⟩, supported,
      walked, listed⟩
    have above := here
    rw [standing?, Entry.standing?, Entry.get?_append, Option.map_eq_some_iff] at above
    obtain ⟨_, within, _⟩ := above
    obtain ⟨entry, stands, _⟩ := Option.bind_eq_some_iff.mp within
    rw [found_of_locate led _ stands, Entry.mem_sources_iff (Entry.Distinct.get? distinct stands)]
    refine ⟨folders, name, rfl, ⟨standing, ?_, ?_⟩, supported, walked, listed⟩
    · rwa [← standing?_append stands]
    · cases standing with
      | file => rfl
      | folder => exact absurd rfl notFolder
      | link target =>
        have followed := leads target rfl
        simp [View.shows, view, followed]

/-- In a well-formed tree the paths collected below a root are those of the supported files below
it that no skipped folder between root and file holds, so far as the system lists the folders on the
way, each once. In every folder its own files come first, by name, and then what the folders in it
hold, by their names. The order in which the entries of a folder are listed does not matter. -/
theorem sourcePaths_exact (wellFormed : disk.WellFormed) (readable : hasNull root = false) :
    ∃ paths, disk.sourcePaths root = .ok paths ∧
      (∀ path, path ∈ paths ↔ ∃ folders name, path = root.below (folders ++ [name]) ∧
        (∃ standing, disk.HoldsFile root (folders ++ [name]) standing) ∧
        Language.isSupported name = true ∧ (∀ folder ∈ folders, skipsFolder folder = false) ∧
        ∀ above, above <+: folders →
          disk.lists (root.below above) (Path.walkText root.toText above) = true) ∧
      paths.Nodup ∧
      (∃ listed : List (List String), paths = listed.map root.below ∧ listed.Pairwise Before) ∧
      ∀ other, disk.root.Reordered other →
        ({ disk with root := other } : Disk).sourcePaths root = .ok paths := by
  have distinct : disk.Distinct := wellFormed.tree.distinct
  have collected (disk : Disk) :
      disk.sourcePaths root = .ok ((disk.found root).map root.below) := by
    rw [sourcePaths, sources_eq_ok readable]
    rfl
  refine ⟨_, collected disk, fun path => ?_, ?_, ⟨disk.found root, rfl, ?_⟩, ?_⟩
  · rw [List.mem_map]
    constructor
    · rintro ⟨parts, inside, rfl⟩
      obtain ⟨folders, name, rfl, rest⟩ := (mem_found_iff distinct).mp inside
      exact ⟨folders, name, rfl, rest⟩
    · rintro ⟨folders, name, rfl, rest⟩
      exact ⟨folders ++ [name], (mem_found_iff distinct).mpr ⟨folders, name, rfl, rest⟩, rfl⟩
  · exact (wellFormed.nodup_found root).map (below_injective root)
  · exact distinct.pairwise_found root
  · intro other reordered
    rw [collected, found_reordered distinct reordered]

/-- A folder that bears the name of a skipped one, and holds a folder named like a source, one that
is not listed, and links to the first and to a source. -/
def yardEntries : List Entry :=
  [.file "z.CS" 0, .folder "obj" [.file "c.cs" 1], .folder "X.cs" [.file "b.cs" 2],
    .file "a.cs" 3, .file ".cs" 4, .folder "closed" [.file "d.cs" 5],
    .link "x.cs" ⟨.working, ["X.cs"]⟩, .link "l.cs" ⟨.root, ["bin", "a.cs"]⟩]

def closing : Rules :=
  { Rules.ordinary with
    look := fun access location =>
      if access = .list ∧ lastName location = "closed" then some .denied else none }

def yard : Disk where
  root := .folder "" [.folder "bin" yardEntries]
  contents _ := []
  working := ["bin"]
  rules := closing

theorem wellFormed_yard : yard.WellFormed where
  top := rfl
  working := by
    simp [standing?, yard, Entry.standing?_folder_cons, Entry.named?, Entry.name, Entry.standing]
  tree := by
    refine Entry.WellFormed.singleton ?_ (by decide) ""
    refine .folder (by decide) (by decide) ?_
    simp only [yardEntries, List.forall_mem_cons]
    exact ⟨.file _ _, .singleton (.file _ _) (by decide) _, .singleton (.file _ _) (by decide) _,
      .file _ _, .file _ _, .singleton (.file _ _) (by decide) _, .link _ _, .link _ _,
      List.forall_mem_nil _⟩

theorem found_yard : yard.found (Path.ofText "/bin") =
    [["a.cs"], ["l.cs"], ["z.CS"], ["X.cs", "b.cs"]] := by
  let view := yard.view (Path.ofText "/bin")
  have led : yard.locate (Path.ofText "/bin") false = .ok ["bin"] := by decide +kernel
  have own : ownSources view yardEntries = ["z.CS", "a.cs", "l.cs"] := by decide +kernel
  have ownToo : ownSources (view.below "X.cs") [.file "b.cs" 2] = ["b.cs"] := by decide +kernel
  have inner : (Entry.folder "X.cs" [.file "b.cs" 2]).sources (view.below "X.cs") = [["b.cs"]] :=
    Entry.sources_folder_eq ["b.cs"] (by decide +kernel) (.of_eq ownToo.symm) (by simp) rfl .nil
  have closed : ¬ (view.below "closed").lists [] = true := by decide +kernel
  have walked : Entry.walked yardEntries =
      [.folder "X.cs" [.file "b.cs" 2], .folder "closed" [.file "d.cs" 5]] := rfl
  have below : sourcesBelow view yardEntries = [("X.cs", [["b.cs"]]), ("closed", [])] := by
    rw [Entry.sourcesBelow_eq, walked]
    simp only [List.map_cons, List.map_nil, Entry.name, inner,
      Entry.sources_of_not_listed _ _ closed]
  rw [found_of_locate led (.folder "bin" yardEntries) rfl]
  exact Entry.sources_folder_eq ["a.cs", "l.cs", "z.CS"] (by decide +kernel)
    (by rw [own]; decide) (by decide +kernel) below (by decide +kernel)

/-- Listed forwards or backwards, the folder gives its four sources in order. -/
theorem yard_listed_backwards :
    yard.WellFormed ∧ hasNull (Path.ofText "/bin") = false ∧
      yard.root.Reordered (.folder "" [.folder "bin" yardEntries.reverse]) ∧
      ∃ paths, yard.sourcePaths (Path.ofText "/bin") = .ok paths ∧
        Path.ofText "/bin/X.cs/b.cs" ∈ paths ∧ Path.ofText "/bin/closed/d.cs" ∉ paths ∧
        paths = [Path.ofText "/bin/a.cs", Path.ofText "/bin/l.cs", Path.ofText "/bin/z.CS",
          Path.ofText "/bin/X.cs/b.cs"] ∧
        ({ yard with root := .folder "" [.folder "bin" yardEntries.reverse] } : Disk).sourcePaths
          (Path.ofText "/bin") = .ok paths := by
  have reordered : yard.root.Reordered (.folder "" [.folder "bin" yardEntries.reverse]) :=
    (Entry.Reordered.of_perm (List.reverse_perm yardEntries)).singleton ""
  have readable : hasNull (Path.ofText "/bin") = false := by decide
  obtain ⟨paths, found, _, _, _, relisted⟩ := sourcePaths_exact wellFormed_yard readable
  have listed : paths = [Path.ofText "/bin/a.cs", Path.ofText "/bin/l.cs", Path.ofText "/bin/z.CS",
      Path.ofText "/bin/X.cs/b.cs"] := by
    refine Except.ok.inj (found.symm.trans ?_)
    rw [sourcePaths, sources_eq_ok readable, found_yard]
    rfl
  refine ⟨wellFormed_yard, readable, reordered, paths, found, ?_, ?_, listed, relisted _ reordered⟩
  · rw [listed]
    decide
  · rw [listed]
    decide

/-- A root with a null byte has no sources, not even none, and those in a folder that is not listed
are missing. -/
theorem yard_hides_sources :
    yard.sourcePaths (Path.ofText "a\x00b") = .error .nullByte ∧
      yard.standing? ["bin", "closed", "d.cs"] = some (.file 5) ∧
      yard.sourcePaths (Path.ofText "/bin/closed") = .ok [] := by
  have led : yard.locate (Path.ofText "/bin/closed") false = .ok ["bin", "closed"] := by
    decide +kernel
  have closed : ¬ (yard.view (Path.ofText "/bin/closed")).lists [] = true := by decide +kernel
  refine ⟨by rw [sourcePaths, sources, if_pos (by decide)]; rfl, by decide +kernel, ?_⟩
  rw [sourcePaths, sources_eq_ok (by decide),
    found_of_locate led (.folder "closed" [.file "d.cs" 5]) rfl,
    Entry.sources_of_not_listed _ _ closed]
  rfl

end Disk

end ClassSketch.Files
