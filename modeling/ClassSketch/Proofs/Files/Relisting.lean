import ClassSketch.Proofs.Files.Listing
import ClassSketch.Proofs.Files.Linkless

set_option autoImplicit false

namespace ClassSketch.Files

namespace Entry

theorem mem_place {entries : List Entry} {entry other : Entry}
    (inside : other ∈ place entries entry) : other ∈ entries ∨ other = entry := by
  induction entries with
  | nil => exact .inr (List.mem_singleton.mp inside)
  | cons first rest ih =>
    rw [place] at inside
    split at inside
    · rcases List.mem_cons.mp inside with rfl | behind
      · exact .inr rfl
      · exact .inl (List.mem_cons_of_mem _ behind)
    · rcases List.mem_cons.mp inside with rfl | behind
      · exact .inl List.mem_cons_self
      · exact (ih behind).imp_left (List.mem_cons_of_mem _)

theorem nodup_place {entries : List Entry} (names : (entries.map Entry.name).Nodup)
    (entry : Entry) : ((place entries entry).map Entry.name).Nodup := by
  induction entries with
  | nil => exact List.nodup_singleton _
  | cons first rest ih =>
    rw [List.map_cons, List.nodup_cons] at names
    rw [place]
    split
    · rename_i same
      rw [beq_iff_eq] at same
      rw [List.map_cons, List.nodup_cons, ← same]
      exact names
    · rename_i other
      rw [beq_iff_eq] at other
      rw [List.map_cons, List.nodup_cons]
      refine ⟨?_, ih names.2⟩
      intro inside
      obtain ⟨next, isNext, same⟩ := List.mem_map.mp inside
      rcases mem_place isNext with behind | rfl
      · exact names.1 (same ▸ List.mem_map_of_mem behind)
      · exact other same.symm

theorem Distinct.place {own : String} {entries : List Entry} {entry : Entry}
    (distinct : (Entry.folder own entries).Distinct) (distinctToo : entry.Distinct) :
    (Entry.folder own (Entry.place entries entry)).Distinct := by
  cases distinct with
  | folder names inner =>
    refine .folder (nodup_place names entry) ?_
    intro other inside
    rcases mem_place inside with old | rfl
    · exact inner other old
    · exact distinctToo

theorem Distinct.put {entry target : Entry} (distinct : entry.Distinct)
    (distinctToo : target.Distinct) (location : List String) :
    (entry.put target location).Distinct := by
  induction location generalizing entry with
  | nil =>
    rw [Entry.put]
    exact distinctToo
  | cons name rest ih =>
    cases entry with
    | file | link =>
      rw [Entry.put]
      exact distinct
    | folder own entries =>
      rw [Entry.put]
      split
      · rename_i next found
        cases distinct with
        | folder names inner =>
          have whole : (Entry.folder own entries).Distinct := .folder names inner
          exact whole.place (ih (inner next (List.mem_of_find?_eq_some found)))
      · split
        · exact distinct.place distinctToo
        · exact distinct

end Entry

namespace Disk

/-- In every folder of the disk names are not used twice. -/
def Distinct (disk : Disk) : Prop := disk.root.Distinct

variable {before after disk : Disk} {path : Path}

theorem MakesFolders.distinct (made : MakesFolders before after) (distinct : before.Distinct) :
    after.Distinct := by
  induction made with
  | refl => exact distinct
  | step _ success ih =>
    obtain ⟨location, _, _, _, rfl⟩ := makeFolder_eq_ok_iff.mp success
    exact ih.put (.folder (by simp) (by simp)) location

theorem Distinct.emptied (distinct : disk.Distinct) (location : List String) :
    (disk.emptied location).1.Distinct := by
  unfold Disk.emptied
  split
  · exact distinct
  · exact Entry.Distinct.put distinct (.file _ disk.root.fresh) location

theorem Distinct.write (distinct : disk.Distinct) (path : Path) (content : List UInt8) :
    (disk.write path content).1.Distinct := by
  unfold Disk.write
  dsimp only
  split
  · exact distinct
  · rename_i location _
    split
    case h_1 | h_2 => exact distinct
    all_goals
      split
      · exact distinct
      · split <;> exact distinct.emptied location

/-- Every file with the extension is as it was, and none is new. -/
def KeepsSources (before after : Disk) : Prop :=
  ∀ folders name, Language.isSupported name = true →
    after.content? (folders ++ [name]) = before.content? (folders ++ [name])

theorem KeepsSources.refl (disk : Disk) : KeepsSources disk disk := fun _ _ _ => rfl

theorem KeepsSources.trans {first second third : Disk} (one : KeepsSources first second)
    (two : KeepsSources second third) : KeepsSources first third :=
  fun folders name supported => (two folders name supported).trans (one folders name supported)

theorem AddsFolders.keepsSources (adds : AddsFolders before after) : KeepsSources before after :=
  fun folders name _ => adds.content?_eq (folders ++ [name])

theorem lists_iff {shown : String} : disk.lists path shown = true ↔
    ∃ location, disk.target path shown false = .ok location ∧
      disk.rules.look .list location = none := by
  unfold lists
  cases disk.target path shown false <;> simp

theorem leads_iff {shown : String} : disk.leads path shown = true ↔
    ∃ location, disk.target path shown false = .ok location ∧
      disk.standing? location = some .folder := by
  unfold leads seen
  cases disk.target path shown false with
  | ok location => simp
  | error fault => cases absent : fault.meansAbsent <;> simp [absent]

theorem Grows.lists (grows : Grows before after) {shown : String}
    (listed : before.lists path shown = true) : after.lists path shown = true := by
  obtain ⟨location, target, granted⟩ := lists_iff.mp listed
  refine lists_iff.mpr ⟨location, grows.target_eq_ok target, ?_⟩
  rwa [grows.rules]

theorem Grows.leads (grows : Grows before after) {shown : String}
    (leads : before.leads path shown = true) : after.leads path shown = true := by
  obtain ⟨location, target, isFolder⟩ := leads_iff.mp leads
  exact leads_iff.mpr ⟨location, grows.target_eq_ok target, grows.kept location _ isFolder⟩

theorem standing?_append {location : List String} {entry : Entry}
    (stands : disk.root.get? location = some entry) (parts : List String) :
    disk.standing? (location ++ parts) = entry.standing? parts := by
  rw [standing?, Entry.standing?, Entry.get?_append, stands]
  rfl

theorem exists_entry {location : List String} {standing : Standing}
    (stands : disk.standing? location = some standing) :
    ∃ entry, disk.root.get? location = some entry := by
  obtain ⟨entry, found, _⟩ := Option.map_eq_some_iff.mp stands
  exact ⟨entry, found⟩

end Disk

end ClassSketch.Files
