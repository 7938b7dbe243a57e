import ClassSketch.Proofs.Files.Sources
import Mathlib.Data.String.Basic

set_option autoImplicit false

namespace ClassSketch.Files

/-- The order of sources: in each folder its own files by name, then the folders in it by name. -/
inductive Before : List String → List String → Prop
  | file {first second : String} (less : first < second) : Before [first] [second]
  | own {file folder : String} {rest : List String} (filled : rest ≠ []) :
      Before [file] (folder :: rest)
  | folder {first second : String} {one other : List String} (less : first < second)
      (filled : one ≠ []) (filledToo : other ≠ []) : Before (first :: one) (second :: other)
  | inside {folder : String} {one other : List String} (inner : Before one other) :
      Before (folder :: one) (folder :: other)

theorem Before.ne_nil {first second : List String} (before : Before first second) :
    first ≠ [] ∧ second ≠ [] := by
  cases before <;> simp

theorem Before.asymm {first second : List String} (before : Before first second) :
    ¬ Before second first := by
  induction before with
  | file less =>
    intro after
    cases after with
    | file more => exact lt_asymm less more
    | own filled => exact filled rfl
    | folder _ filled => exact filled rfl
    | inside inner => exact inner.ne_nil.1 rfl
  | own filled =>
    intro after
    cases after with
    | file => exact filled rfl
    | own => exact filled rfl
    | folder _ _ filledToo => exact filledToo rfl
    | inside inner => exact inner.ne_nil.2 rfl
  | folder less filled filledToo =>
    intro after
    cases after with
    | file => exact filled rfl
    | own => exact filledToo rfl
    | folder more => exact lt_asymm less more
    | inside => exact lt_irrefl _ less
  | inside inner ih =>
    intro after
    cases after with
    | file => exact inner.ne_nil.1 rfl
    | own => exact inner.ne_nil.2 rfl
    | folder less => exact lt_irrefl _ less
    | inside back => exact ih back

/-- What a folder shows of the things in it that is no folder: files, and links that lead to
none. -/
def View.shows (view : View) (names : List String) : Standing → Bool
  | .file _ => true
  | .folder => false
  | .link _ => !view.leads names

namespace Entry

/-- A tree in which the entries of every folder have names of their own. -/
inductive Distinct : Entry → Prop
  | file (name : String) (number : Nat) : Distinct (.file name number)
  | link (name : String) (target : Path) : Distinct (.link name target)
  | folder {name : String} {entries : List Entry} (names : (entries.map Entry.name).Nodup)
      (inner : ∀ entry ∈ entries, Distinct entry) : Distinct (.folder name entries)

theorem WellFormed.distinct {entry : Entry} (wellFormed : entry.WellFormed) : entry.Distinct := by
  induction wellFormed with
  | file name number => exact .file name number
  | link name target => exact .link name target
  | folder names _ _ ih => exact .folder names ih

theorem Distinct.get? {entry found : Entry} (distinct : entry.Distinct) {location : List String}
    (stands : entry.get? location = some found) : found.Distinct := by
  refine of_get? ?_ distinct stands
  intro name entries whole
  cases whole with
  | folder _ inner => exact inner

/-- Under names of their own the entries of a folder are found. -/
theorem named?_eq_some_iff {entries : List Entry} (names : (entries.map Entry.name).Nodup)
    {name : String} {entry : Entry} :
    named? entries name = some entry ↔ entry ∈ entries ∧ entry.name = name := by
  constructor
  · intro found
    exact ⟨List.mem_of_find?_eq_some found, name_of_named? found⟩
  · rintro ⟨inside, rfl⟩
    cases found : named? entries entry.name with
    | none =>
      have absent := List.find?_eq_none.mp found entry inside
      simp at absent
    | some other =>
      have isOther := List.mem_of_find?_eq_some found
      rw [List.inj_on_of_nodup_map names isOther inside (name_of_named? found)]

variable {view : View}

theorem shows_name (view : View) (entry : Entry) :
    view.shows [entry.name] entry.standing = !view.isFolder entry := by
  cases entry <;> rfl

/-- The supported names that a walk comes by below an entry. -/
structure Collected (view : View) (entry : Entry) (folders : List String) (name : String) :
    Prop where
  stands : ∃ standing, entry.standing? (folders ++ [name]) = some standing ∧
    view.shows (folders ++ [name]) standing = true
  supported : Language.isSupported name = true
  walked : ∀ folder ∈ folders, skipsFolder folder = false
  listed : ∀ above, above <+: folders → view.lists above = true

theorem collected_nil {own name : String} {entries : List Entry}
    (names : (entries.map Entry.name).Nodup) :
    Collected view (.folder own entries) [] name ↔ view.lists [] = true ∧
      ∃ entry ∈ entries, view.isFolder entry = false ∧
        Language.isSupported entry.name = true ∧ name = entry.name := by
  constructor
  · rintro ⟨⟨standing, stands, shown⟩, supported, _, listed⟩
    rw [List.nil_append, standing?_folder_cons, Option.bind_eq_some_iff] at stands
    obtain ⟨entry, found, stands⟩ := stands
    obtain ⟨inside, rfl⟩ := (named?_eq_some_iff names).mp found
    rw [standing?_nil, Option.some.injEq] at stands
    subst stands
    rw [List.nil_append, shows_name, Bool.not_eq_true'] at shown
    exact ⟨listed [] (List.prefix_refl []), entry, inside, shown, supported, rfl⟩
  · rintro ⟨listed, entry, inside, shown, supported, rfl⟩
    refine ⟨⟨entry.standing, ?_, ?_⟩, supported, by simp, ?_⟩
    · rw [List.nil_append, standing?_folder_cons,
        (named?_eq_some_iff names).mpr ⟨inside, rfl⟩]
      rfl
    · rw [List.nil_append, shows_name, shown]
      rfl
    · intro above front
      rwa [List.prefix_nil.mp front]

theorem collected_cons {own folder name : String} {entries : List Entry} {folders : List String}
    (names : (entries.map Entry.name).Nodup) :
    Collected view (.folder own entries) (folder :: folders) name ↔ view.lists [] = true ∧
      ∃ entry ∈ entries, entry.isFolder = true ∧ skipsFolder entry.name = false ∧
        folder = entry.name ∧ Collected (view.below entry.name) entry folders name := by
  constructor
  · rintro ⟨⟨standing, stands, shown⟩, supported, walked, listed⟩
    rw [List.cons_append, standing?_folder_cons, Option.bind_eq_some_iff] at stands
    obtain ⟨entry, found, stands⟩ := stands
    obtain ⟨inside, rfl⟩ := (named?_eq_some_iff names).mp found
    rw [List.forall_mem_cons] at walked
    refine ⟨listed [] (List.nil_prefix ..), entry, inside, ?_, walked.1, rfl,
      ⟨standing, stands, ?_⟩,
      supported, walked.2, fun above front => ?_⟩
    · cases entry with
      | file | link => cases folders <;> simp [standing?, get?] at stands
      | folder => rfl
    · cases standing <;> exact shown
    · exact listed (entry.name :: above) ((List.prefix_cons_inj _).mpr front)
  · rintro ⟨listed, entry, inside, isFolder, walked, rfl, ⟨standing, stands, shown⟩, supported,
      walkedAll, listedAll⟩
    refine ⟨⟨standing, ?_, ?_⟩, supported, List.forall_mem_cons.mpr ⟨walked, walkedAll⟩, ?_⟩
    · rw [List.cons_append, standing?_folder_cons,
        (named?_eq_some_iff names).mpr ⟨inside, rfl⟩]
      exact stands
    · cases standing <;> exact shown
    · intro above front
      rcases List.prefix_cons_iff.mp front with rfl | ⟨rest, rfl, inner⟩
      · exact listed
      · exact listedAll rest inner

/-- A folder lists the supported names that a walk comes by. -/
theorem mem_sources_iff {entry : Entry} (distinct : entry.Distinct) {parts : List String} :
    parts ∈ entry.sources view ↔
      ∃ folders name, parts = folders ++ [name] ∧ Collected view entry folders name := by
  induction distinct generalizing view parts with
  | file | link =>
    rw [sources]
    simp only [List.not_mem_nil, false_iff]
    rintro ⟨folders, name, _, ⟨_, stands, _⟩, _⟩
    cases folders <;> simp [standing?, get?] at stands
  | @folder own entries names _ ih =>
    rw [mem_sources_folder]
    constructor
    · rintro ⟨listed, ⟨entry, inside, plain⟩ | ⟨entry, inside, isFolder, walked, rest, below, rfl⟩⟩
      · obtain ⟨shown, supported, rfl⟩ := plain
        exact ⟨[], entry.name, rfl,
          (collected_nil names).mpr ⟨listed, entry, inside, shown, supported, rfl⟩⟩
      · obtain ⟨folders, name, rfl, collected⟩ := (ih entry inside).mp below
        exact ⟨entry.name :: folders, name, rfl, (collected_cons names).mpr
          ⟨listed, entry, inside, isFolder, walked, rfl, collected⟩⟩
    · rintro ⟨folders, name, rfl, collected⟩
      cases folders with
      | nil =>
        obtain ⟨listed, entry, inside, shown, supported, rfl⟩ := (collected_nil names).mp collected
        exact ⟨listed, .inl ⟨entry, inside, shown, supported, rfl⟩⟩
      | cons folder folders =>
        obtain ⟨listed, entry, inside, isFolder, walked, rfl, inner⟩ :=
          (collected_cons names).mp collected
        have below := (ih entry inside).mpr ⟨folders, name, rfl, inner⟩
        exact ⟨listed, .inr ⟨entry, inside, isFolder, walked, folders ++ [name], below, rfl⟩⟩

/-- Items with names of their own are sorted in strictly increasing order. -/
theorem pairwise_mergeSort_lt {α : Type} (name : α → String) {items : List α}
    (distinct : (items.map name).Nodup) :
    (items.mergeSort fun first second => decide (name first ≤ name second)).Pairwise
      fun first second => name first < name second := by
  have sorted : (items.mergeSort fun first second => decide (name first ≤ name second)).Pairwise
      fun first second => decide (name first ≤ name second) = true :=
    List.pairwise_mergeSort (by simpa using fun _ _ _ => le_trans)
      (by simpa using fun _ _ => le_total _ _) items
  have perm := List.mergeSort_perm items fun first second => decide (name first ≤ name second)
  have apart := (perm.map name).nodup_iff.mpr distinct
  refine (sorted.and (List.pairwise_map.mp apart)).imp ?_
  rintro first second ⟨le, ne⟩
  exact lt_of_le_of_ne (of_decide_eq_true le) ne

/-- Names in increasing order are what sorting makes of them in any order. -/
theorem sortNames_eq {names sorted : List String} (perm : sorted.Perm names)
    (increasing : sorted.Pairwise (· < ·)) : sortNames names = sorted := by
  have distinct : (names.map id).Nodup := by
    rw [List.map_id, ← perm.nodup_iff]
    exact increasing.imp ne_of_lt
  have arranged : (sortNames names).Perm sorted := (List.mergeSort_perm names _).trans perm.symm
  refine arranged.eq_of_pairwise ?_ (pairwise_mergeSort_lt id distinct) increasing
  intro first second _ _ less more
  exact absurd more (lt_asymm less)

/-- What a folder lists, from its own sources in order and those of the folders looked into. -/
theorem sources_folder_eq {own : String} {entries : List Entry} (names : List String)
    {below : List (String × List (List String))} (listed : view.lists [] = true)
    (perm : names.Perm (ownSources view entries)) (increasing : names.Pairwise (· < ·))
    (inner : sourcesBelow view entries = below)
    (sorted : below.Pairwise fun first second => decide (first.1 ≤ second.1) = true) :
    (folder own entries).sources view =
      names.map ([·]) ++ below.flatMap fun (name, inner) => inner.map (name :: ·) := by
  rw [sources, if_pos listed, sortNames_eq perm increasing, inner, sortByName,
    List.mergeSort_of_pairwise sorted]

theorem mem_sortByName_sourcesBelow {entries : List Entry} {item : String × List (List String)}
    (inside : item ∈ sortByName (sourcesBelow view entries)) :
    ∃ entry ∈ entries, item = (entry.name, entry.sources (view.below entry.name)) := by
  have below := (List.mergeSort_perm (sourcesBelow view entries)
    fun first second => decide (first.1 ≤ second.1)).mem_iff.mp inside
  rw [sourcesBelow_eq] at below
  obtain ⟨entry, looked, rfl⟩ := List.mem_map.mp below
  exact ⟨entry, List.mem_of_mem_filter looked, rfl⟩

/-- The sources of a folder are listed in order. -/
theorem pairwise_sources {entry : Entry} (distinct : entry.Distinct) :
    (entry.sources view).Pairwise Before := by
  induction distinct generalizing view with
  | file | link =>
    rw [sources]
    exact .nil
  | @folder own entries names inner ih =>
    have ownNames : ((ownSources view entries).map id).Nodup := by
      rw [List.map_id]
      exact names.sublist (List.filter_sublist.map Entry.name)
    have belowNames : ((sourcesBelow view entries).map Prod.fst).Nodup := by
      rw [sourcesBelow_eq, List.map_map]
      exact names.sublist (List.filter_sublist.map Entry.name)
    rw [sources]
    split
    · rw [List.pairwise_append, List.pairwise_map, List.pairwise_flatMap]
      refine ⟨(pairwise_mergeSort_lt id ownNames).imp .file, ⟨?_, ?_⟩, ?_⟩
      · intro item inside
        obtain ⟨entry, isEntry, rfl⟩ := mem_sortByName_sourcesBelow inside
        exact List.pairwise_map.mpr ((ih entry isEntry).imp .inside)
      · refine (pairwise_mergeSort_lt Prod.fst belowNames).imp_of_mem ?_
        intro first second isFirst isSecond less one here other there
        obtain ⟨entry, _, rfl⟩ := mem_sortByName_sourcesBelow isFirst
        obtain ⟨next, _, rfl⟩ := mem_sortByName_sourcesBelow isSecond
        obtain ⟨rest, source, rfl⟩ := List.mem_map.mp here
        obtain ⟨more, sourceToo, rfl⟩ := List.mem_map.mp there
        exact .folder less (ne_nil_of_mem_sources source) (ne_nil_of_mem_sources sourceToo)
      · intro file isFile parts isBelow
        obtain ⟨name, _, rfl⟩ := List.mem_map.mp isFile
        obtain ⟨item, isItem, inside⟩ := List.mem_flatMap.mp isBelow
        obtain ⟨entry, _, rfl⟩ := mem_sortByName_sourcesBelow isItem
        obtain ⟨rest, source, rfl⟩ := List.mem_map.mp inside
        exact .own (ne_nil_of_mem_sources source)
    · exact .nil

/-- Trees with the same sources in them list them alike. -/
theorem sources_eq_of_mem_iff {entry other : Entry} {otherView : View} (distinct : entry.Distinct)
    (distinctToo : other.Distinct)
    (same : ∀ parts, parts ∈ entry.sources view ↔ parts ∈ other.sources otherView) :
    entry.sources view = other.sources otherView := by
  have nodup {tree : Entry} {view : View} (names : tree.Distinct) : (tree.sources view).Nodup := by
    refine (pairwise_sources names).imp ?_
    rintro first second before rfl
    exact before.asymm before
  have perm : (entry.sources view).Perm (other.sources otherView) :=
    (List.perm_ext_iff_of_nodup (nodup distinct) (nodup distinctToo)).mpr same
  refine perm.eq_of_pairwise ?_ (pairwise_sources distinct) (pairwise_sources distinctToo)
  intro first second _ _ before after
  exact absurd after before.asymm

end Entry

end ClassSketch.Files
