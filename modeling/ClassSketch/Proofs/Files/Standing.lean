import ClassSketch.Files.Entry

set_option autoImplicit false

namespace ClassSketch.Files

namespace Entry

@[simp] theorem get?_nil (entry : Entry) : entry.get? [] = some entry := by
  rw [get?]

theorem get?_folder_cons (name own : String) (entries : List Entry) (rest : List String) :
    (folder own entries).get? (name :: rest) =
      (named? entries name).bind fun next => next.get? rest := by
  rw [get?]
  cases named? entries name <;> rfl

/-- Nothing is found below what is no folder. -/
theorem get?_cons_of_standing {entry : Entry} (notFolder : entry.standing ≠ .folder)
    (name : String) (rest : List String) : entry.get? (name :: rest) = none := by
  cases entry with
  | file own number => rw [get?]
  | link own target => rw [get?]
  | folder own entries => exact absurd rfl notFolder

@[simp] theorem standing?_nil (entry : Entry) : entry.standing? [] = some entry.standing := by
  simp [standing?]

theorem standing?_folder_cons (name own : String) (entries : List Entry) (rest : List String) :
    (folder own entries).standing? (name :: rest) =
      (named? entries name).bind fun next => next.standing? rest := by
  rw [standing?, get?_folder_cons, Option.map_bind]
  rfl

theorem get?_append (entry : Entry) (front back : List String) :
    entry.get? (front ++ back) = (entry.get? front).bind fun inner => inner.get? back := by
  induction front generalizing entry with
  | nil => simp
  | cons name rest ih =>
    rw [List.cons_append]
    by_cases isFolder : entry.standing = .folder
    · cases entry with
      | file | link => cases isFolder
      | folder own entries =>
        rw [get?_folder_cons, get?_folder_cons, Option.bind_assoc]
        simp only [ih]
    · rw [get?_cons_of_standing isFolder, get?_cons_of_standing isFolder, Option.bind_none]

/-- What passes from a folder to its entries passes to all that stands below it. -/
theorem of_get? {holds : Entry → Prop}
    (pass : ∀ name entries, holds (.folder name entries) → ∀ entry ∈ entries, holds entry)
    {entry found : Entry} (whole : holds entry) {location : List String}
    (stands : entry.get? location = some found) : holds found := by
  induction location generalizing entry with
  | nil =>
    rw [get?_nil, Option.some.injEq] at stands
    exact stands ▸ whole
  | cons name rest ih =>
    cases entry with
    | file | link =>
      rw [get?] at stands
      cases stands
    | folder own entries =>
      rw [get?_folder_cons, Option.bind_eq_some_iff] at stands
      obtain ⟨next, named, below⟩ := stands
      exact ih (pass own entries whole next (List.mem_of_find?_eq_some named)) below

theorem standing_of_get?_cons {entry : Entry} {name : String} {rest : List String}
    (filled : (entry.get? (name :: rest)).isSome) : entry.standing = .folder := by
  cases entry with
  | folder own entries => rfl
  | file | link => rw [get?] at filled; cases filled

/-- Whatever stands below the top stands in a folder. -/
theorem standing?_dropLast {entry : Entry} {location : List String} (below : location ≠ [])
    (filled : (entry.standing? location).isSome) :
    entry.standing? location.dropLast = some .folder := by
  have split := List.dropLast_concat_getLast below
  have found : (entry.get? location).isSome := by simpa [standing?] using filled
  rw [← split, get?_append] at found
  cases above : entry.get? location.dropLast with
  | none => simp [above] at found
  | some inner =>
    rw [above, Option.bind_some] at found
    have isFolder : inner.standing = .folder := standing_of_get?_cons found
    simp [standing?, above, isFolder]

theorem name_of_named? {entries : List Entry} {name : String} {entry : Entry}
    (found : named? entries name = some entry) : entry.name = name := by
  have same := List.find?_some found
  simpa using same

theorem named?_place (entries : List Entry) (entry : Entry) (name : String) :
    named? (place entries entry) name =
      if name = entry.name then some entry else named? entries name := by
  induction entries with
  | nil =>
    by_cases same : name = entry.name
    · simp [place, named?, same]
    · have other : entry.name ≠ name := Ne.symm same
      simp [place, named?, same, other]
  | cons first rest ih =>
    unfold named? at ih ⊢
    by_cases replaced : first.name = entry.name
    · by_cases same : name = entry.name
      · simp [place, replaced, same]
      · have other : entry.name ≠ name := Ne.symm same
        simp [place, replaced, same, other]
    · by_cases first? : first.name = name
      · have same : name ≠ entry.name := fun equal => replaced (first?.trans equal)
        simp [place, first?, same]
      · simp [place, replaced, first?, ih]

/-- Putting something below an entry leaves its name and what it is. -/
theorem put_below (entry target : Entry) (name : String) (rest : List String) :
    (entry.put target (name :: rest)).name = entry.name ∧
      ((entry.put target (name :: rest)).standing = entry.standing) := by
  cases entry with
  | file | link => rw [put]; exact ⟨rfl, rfl⟩
  | folder own entries =>
    rw [put]
    split
    · exact ⟨rfl, rfl⟩
    · split <;> exact ⟨rfl, rfl⟩

theorem put_last (target : Entry) (own : String) (entries : List Entry) :
    (folder own entries).put target [target.name] = folder own (place entries target) := by
  rw [put]
  cases named? entries target.name <;> simp [put]

theorem put_inner (target : Entry) (own : String) {entries : List Entry} {name : String}
    {next : Entry} (found : named? entries name = some next) (rest : List String) :
    (folder own entries).put target (name :: rest) =
      folder own (place entries (next.put target rest)) := by
  rw [put, found]

/-- Nothing stands below it: a file, a link or an empty folder. -/
def IsLeaf (entry : Entry) : Prop :=
  ∀ name rest, entry.standing? (name :: rest) = none

theorem isLeaf_folder (name : String) : (folder name []).IsLeaf := by
  intro other rest
  rw [standing?_folder_cons]
  rfl

/-- Nothing stands below what is no folder. -/
theorem isLeaf_of_standing {entry : Entry} (notFolder : entry.standing ≠ .folder) :
    entry.IsLeaf := by
  intro name rest
  rw [standing?, get?_cons_of_standing notFolder]
  rfl

/-- A leaf under a free name changes what stands under its name alone. -/
theorem standing?_place {target : Entry} (leaf : target.IsLeaf) {own : String}
    {entries : List Entry} (free : (folder own entries).standing? [target.name] = none)
    (here : String) (below : List String) :
    (folder own (place entries target)).standing? (here :: below) =
      if here :: below = [target.name] then some target.standing
      else (folder own entries).standing? (here :: below) := by
  rw [standing?_folder_cons, standing?_folder_cons, named?_place]
  by_cases same : here = target.name
  · subst same
    have none : named? entries target.name = none := by
      rw [standing?_folder_cons, Option.bind_eq_none_iff] at free
      refine Option.eq_none_iff_forall_ne_some.mpr fun found named => ?_
      have filled := free found named
      rw [standing?_nil] at filled
      cases filled
    cases below with
    | nil => simp
    | cons deeper others => simp [none, leaf deeper others]
  · simp [same]

/-- What is put into a folder, at a free place, stands at its location, and everything else stands
where it stood. -/
theorem standing?_put {target : Entry} (leaf : target.IsLeaf) {location : List String}
    (named : location.getLast? = some target.name) {entry : Entry}
    (above : entry.standing? location.dropLast = some .folder)
    (free : entry.standing? location = none) (other : List String) :
    (entry.put target location).standing? other =
      if other = location then some target.standing else entry.standing? other := by
  induction location generalizing entry other with
  | nil => cases named
  | cons name rest ih =>
    cases entry with
    | file | link => cases rest <;> simp [standing?, get?, standing] at above
    | folder own entries =>
      cases other with
      | nil =>
        have kept := (put_below (folder own entries) target name rest).2
        simp [kept]
      | cons here below =>
        cases rest with
        | nil =>
          have same : name = target.name := by simpa using named
          subst same
          rw [put_last]
          exact standing?_place leaf free here below
        | cons second others =>
          rw [List.dropLast_cons_cons, standing?_folder_cons] at above
          cases found : named? entries name with
          | none => simp [found] at above
          | some next =>
            rw [found, Option.bind_some] at above
            have inner : next.standing? (second :: others) = none := by
              simpa [standing?_folder_cons, found] using free
            have last : (second :: others).getLast? = some target.name := by
              rwa [List.getLast?_cons_cons] at named
            have named : (next.put target (second :: others)).name = name :=
              (put_below next target second others).1.trans (name_of_named? found)
            rw [put_inner target own found, standing?_folder_cons, standing?_folder_cons,
              named?_place, named]
            by_cases same : here = name
            · subst same
              have step := ih last above inner below
              simp [found, step]
            · simp [same]

theorem fresh_le_freshOf {entries : List Entry} {entry : Entry} (inside : entry ∈ entries) :
    entry.fresh ≤ freshOf entries := by
  induction entries with
  | nil => cases inside
  | cons first rest ih =>
    rw [freshOf]
    rcases List.mem_cons.mp inside with rfl | behind
    · exact Nat.le_max_left ..
    · exact Nat.le_trans (ih behind) (Nat.le_max_right ..)

/-- Every file below an entry has a number below the fresh one. -/
theorem lt_fresh {entry : Entry} {location : List String} {number : Nat}
    (stands : entry.standing? location = some (.file number)) : number < entry.fresh := by
  induction location generalizing entry with
  | nil =>
    cases entry with
    | file own other =>
      cases stands
      exact Nat.lt_succ_self _
    | folder | link => cases stands
  | cons name rest ih =>
    cases entry with
    | file | link => simp [standing?, get?] at stands
    | folder own entries =>
      rw [standing?_folder_cons, Option.bind_eq_some_iff] at stands
      obtain ⟨next, found, below⟩ := stands
      rw [fresh]
      exact Nat.lt_of_lt_of_le (ih below) (fresh_le_freshOf (List.mem_of_find?_eq_some found))

end Entry

end ClassSketch.Files
