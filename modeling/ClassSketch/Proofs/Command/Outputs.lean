import ClassSketch.Proofs.Command.Run
import ClassSketch.Proofs.Convert.Outputs
import ClassSketch.Proofs.Files.Linkless

set_option autoImplicit false

namespace ClassSketch.Command

open ClassSketch.Convert ClassSketch.Files

variable {parse : Reader} {disk : Disk} {options : Options} {environment : Environment}
  {indent : String} {jobs : List Job}

/-- A run that ends with zero found its input and could count its indent. -/
theorem exists_indent_of_zero {texts : List String}
    (accepted : arguments environment.level.1 texts = .options options)
    (zero : (runWith parse disk texts environment).status = .ok 0) :
    inputExists disk options = .ok true ∧
      ∃ indent, (indentText options environment).1 = .ok indent := by
  have ended : (execute parse disk options environment).status = .ok 0 := by
    cases level : environment.level with
    | mk threshold complaint =>
      rw [level] at accepted
      simpa only [runWith, level, accepted] using zero
  unfold execute at ended
  cases fits : (indentText options environment).1 with
  | error fault =>
    simp only [fits] at ended
    cases ended
  | ok indent =>
    simp only [fits] at ended
    cases exist : inputExists disk options with
    | error fault =>
      simp only [exist] at ended
      cases ended
    | ok found =>
      cases found with
      | true => exact ⟨rfl, indent, rfl⟩
      | false =>
        simp only [exist] at ended
        cases ended

/-- In the end a file stands at the output of every job. -/
theorem exists_file_of_zero (rooted : disk.Rooted) {texts : List String}
    (accepted : arguments environment.level.1 texts = .options options)
    (answered : Answered disk options) (planned : Planned disk options jobs)
    (fits : (indentText options environment).1 = .ok indent)
    (zero : (runWith parse disk texts environment).status = .ok 0) {job : Job}
    (isJob : job ∈ jobs) : ∃ location,
      (runWith parse disk texts environment).disk.locate job.output false = .ok location ∧
      ((runWith parse disk texts environment).disk.content? location).isSome := by
  have all := ((status_eq_zero_iff accepted answered planned fits).mp zero).2
  have tried : job ∈ (attempts parse indent disk jobs).map Attempt.job := by
    rwa [map_job_attempts]
  obtain ⟨attempt, isAttempt, rfl⟩ := List.mem_map.mp tried
  obtain ⟨number, denotes⟩ := exists_file rooted isAttempt
    (Outcome.reached_of_succeeded (all attempt isAttempt))
  obtain ⟨location, led, stands⟩ := Disk.file?_eq_some_iff.mp denotes
  rw [runWith_eq accepted answered planned fits]
  exact ⟨location, led, by rw [Disk.content?_of_file stands]; rfl⟩

/-- Paths of their own below a folder lead to places of their own. -/
theorem nodup_map_locate (linkless : disk.Linkless) {base : Path} {diagrams : List (List String)}
    (down : ∀ parts ∈ diagrams, ∀ part ∈ parts, part ≠ "..")
    (leads : ∀ parts ∈ diagrams, ∃ location,
      disk.locate (base.below parts) false = .ok location) :
    (diagrams.map fun parts => disk.locate (base.below parts) false).Nodup ↔ diagrams.Nodup := by
  constructor
  · exact List.Nodup.of_map _
  · intro distinct
    refine distinct.map_on ?_
    intro first isFirst second isSecond same
    obtain ⟨location, one⟩ := leads first isFirst
    have two : disk.locate (base.below second) false = .ok location := same ▸ one
    obtain ⟨middle, there, rfl⟩ := linkless.locate_below (down first isFirst) one
    obtain ⟨middle', there', equal⟩ := linkless.locate_below (down second isSecond) two
    rw [there, Except.ok.injEq] at there'
    subst there'
    exact List.append_cancel_left equal

theorem map_locate_sourceJob (disk : Disk) (input : Path) (output : Option Path)
    {sources : List (List String)} (isSource : ∀ parts ∈ sources, IsSource parts) :
    (sources.map (sourceJob input output)).map (fun job => disk.locate job.output false) =
      (sources.map diagramParts).map
        fun parts => disk.locate ((output.getD input).below parts) false := by
  have outputs := map_output_sourceJob input output isSource
  calc (sources.map (sourceJob input output)).map (fun job => disk.locate job.output false)
    _ = ((sources.map (sourceJob input output)).map Job.output).map (disk.locate · false) :=
      (List.map_map (f := Job.output) (g := (disk.locate · false))).symm
    _ = ((sources.map diagramParts).map (output.getD input).below).map (disk.locate · false) := by
      rw [outputs]
    _ = (sources.map diagramParts).map
        fun parts => disk.locate ((output.getD input).below parts) false := List.map_map

/-- On a disk that has a place for each diagram, these are as many places as sources unless two of
the sources are told apart by the letter case of their extensions only. -/
theorem nodup_map_locate_sourceJob (linkless : disk.Linkless) {input : Path}
    {output : Option Path} {sources : List (List String)} (each : sources.Nodup)
    (isSource : ∀ parts ∈ sources, IsSource parts)
    (leads : ∀ job ∈ sources.map (sourceJob input output),
      ∃ location, disk.locate job.output false = .ok location) :
    ((sources.map (sourceJob input output)).map fun job => disk.locate job.output false).Nodup ↔
      Untwinned sources := by
  rw [map_locate_sourceJob disk input output isSource, nodup_map_locate linkless,
    nodup_map_diagramParts each isSource]
  · intro parts isDiagram
    obtain ⟨source, below, rfl⟩ := List.mem_map.mp isDiagram
    exact ne_above_of_mem_diagramParts (isSource source below)
  · intro parts isDiagram
    have isOutput : (output.getD input).below parts ∈
        (sources.map (sourceJob input output)).map Job.output := by
      rw [map_output_sourceJob input output isSource]
      exact List.mem_map_of_mem isDiagram
    obtain ⟨job, isJob, same⟩ := List.mem_map.mp isOutput
    obtain ⟨location, there⟩ := leads job isJob
    exact ⟨location, same ▸ there⟩

/-- The diagrams of a folder have paths of their own exactly when no folder in it holds two sources
whose names differ in the letter case of the extension only. A run over the folder that ends with
zero leaves a file at the path of every diagram, and where there are no symbolic links these stand
at as many places as there are sources exactly then. An input with a null byte has no list of
jobs. -/
theorem folder_diagrams_distinct_iff (wellFormed : disk.WellFormed) (input : Path)
    (output : Option Path) :
    (Disk.hasNull input = true ∧ plan disk input output true = .error .nullByte) ∨
    ∃ jobs, plan disk input output true = .ok jobs ∧
      jobs = (disk.found input).map (sourceJob input output) ∧
      ((jobs.map Job.output).Nodup ↔ Untwinned (disk.found input)) ∧
      ∀ (parse : Reader) (texts : List String) (environment : Environment) (options : Options),
        arguments environment.level.1 texts =
          .options { options with input, output, directory := true } →
        (runWith parse disk texts environment).status = .ok 0 →
        (∀ job ∈ jobs, ∃ location,
          (runWith parse disk texts environment).disk.locate job.output false = .ok location ∧
          ((runWith parse disk texts environment).disk.content? location).isSome) ∧
        (disk.Linkless → ((jobs.map fun job =>
            (runWith parse disk texts environment).disk.locate job.output false).Nodup ↔
          Untwinned (disk.found input))) := by
  have isSource : ∀ parts ∈ disk.found input, IsSource parts := wellFormed.isSource
  have each := wellFormed.nodup_found input
  cases null : Disk.hasNull input with
  | true =>
    refine .inl ⟨rfl, ?_⟩
    rw [plan, if_pos rfl, folderJobs_eq, if_pos null]
  | false =>
    refine .inr ⟨_, folderJobs_eq_ok disk null output, rfl, ?_, ?_⟩
    · rw [map_output_sourceJob input output isSource, List.nodup_map_iff (below_injective _),
        nodup_map_diagramParts each isSource]
    · intro parse texts environment options accepted zero
      obtain ⟨exist, indent, fits⟩ := exists_indent_of_zero accepted zero
      rw [inputExists, if_pos rfl] at exist
      have answered : Answered disk { options with input, output, directory := true } :=
        answered_folder rfl exist
      have planned : Planned disk { options with input, output, directory := true } _ :=
        planned_folder rfl exist rfl
      have files : ∀ job ∈ (disk.found input).map (sourceJob input output), ∃ location,
          (runWith parse disk texts environment).disk.locate job.output false = .ok location ∧
          ((runWith parse disk texts environment).disk.content? location).isSome := by
        intro job isJob
        exact exists_file_of_zero wellFormed.toRooted accepted answered planned fits zero isJob
      refine ⟨files, fun linkless => nodup_map_locate_sourceJob ?_ each isSource ?_⟩
      · rw [runWith_eq accepted answered planned fits]
        exact linkless.mono (changes_diskAfter parse indent wellFormed.toRooted _).toGrows
      · intro job isJob
        obtain ⟨location, there, _⟩ := files job isJob
        exact ⟨location, there⟩

theorem wellFormed_withSources {entries : List Entry} {texts : List String}
    (wellFormed : (Entry.folder "src" entries).WellFormed) :
    (withSources entries texts).WellFormed where
  top := rfl
  working := by
    simp [Disk.standing?, withSources, Entry.standing?_folder_cons, Entry.named?, Entry.name,
      Entry.standing]
  tree := by
    have src : PlainName "src" := by decide
    have work : PlainName "work" := by decide
    exact (wellFormed.singleton src "work").singleton work ""

theorem linkless_withSources {entries : List Entry} {texts : List String}
    (unlinked : (Entry.folder "src" entries).Unlinked) : (withSources entries texts).Linkless :=
  Disk.linkless_of_unlinked ((unlinked.singleton "work").singleton "")

/-- Sources of one name in two folders. -/
def shelves : Disk :=
  withSources [.file "A.cs" 0, .folder "inner" [.file "A.CS" 1]] ["class A { }", "class B { }"]

theorem wellFormed_shelves : shelves.WellFormed := by
  apply wellFormed_withSources
  refine .folder (by decide) (by decide) ?_
  rw [List.forall_mem_cons, List.forall_mem_singleton]
  exact ⟨.file _ _, .singleton (.file _ _) (by decide) _⟩

theorem linkless_shelves : shelves.Linkless := by
  apply linkless_withSources
  refine .folder "src" ?_
  rw [List.forall_mem_cons, List.forall_mem_singleton]
  exact ⟨.file _ _, .singleton (.file _ _) _⟩

theorem found_shelves : shelves.found (Path.ofText "src") = [["A.cs"], ["inner", "A.CS"]] := by
  let view := shelves.view (Path.ofText "src")
  let entries : List Entry := [.file "A.cs" 0, .folder "inner" [.file "A.CS" 1]]
  have led : shelves.locate (Path.ofText "src") false = .ok ["work", "src"] := by decide +kernel
  have inner : (Entry.folder "inner" [.file "A.CS" 1]).sources (view.below "inner") =
      [["A.CS"]] :=
    Entry.sources_folder_eq ["A.CS"] (by decide +kernel) (by decide +kernel)
      (by decide) rfl .nil
  have walked : Entry.walked entries = [.folder "inner" [.file "A.CS" 1]] := rfl
  have below : sourcesBelow view entries = [("inner", [["A.CS"]])] := by
    rw [Entry.sourcesBelow_eq, walked, List.map_singleton, Entry.name, inner]
  rw [Disk.found_of_locate led (.folder "src" entries) rfl]
  exact Entry.sources_folder_eq ["A.cs"] (by decide +kernel) (by decide +kernel)
    (by decide) below (by decide)

theorem shelves_keep_diagrams :
    shelves.WellFormed ∧ Disk.hasNull (Path.ofText "src") = false ∧
      arguments (Environment.level ⟨none, none⟩).1 ["src", "--dir"] = .options sourceOptions ∧
      (runWith Grammar.parse shelves ["src", "--dir"] ⟨none, none⟩).status = .ok 0 ∧
      ∃ jobs, plan shelves (Path.ofText "src") none true = .ok jobs ∧ jobs.length = 2 ∧
        (jobs.map Job.output).Nodup ∧ Untwinned (shelves.found (Path.ofText "src")) ∧
        (jobs.map fun job => (runWith Grammar.parse shelves ["src", "--dir"]
          ⟨none, none⟩).disk.locate job.output false).Nodup := by
  have readable : Disk.hasNull (Path.ofText "src") = false := by decide
  obtain ⟨null, _⟩ | ⟨jobs, made, listed, distinct, keeps⟩ :=
    folder_diagrams_distinct_iff wellFormed_shelves (Path.ofText "src") none
  · rw [readable] at null
    cases null
  have there : shelves.isFolder sourceOptions.input = .ok true := by decide +kernel
  have planned : Planned shelves sourceOptions _ := planned_folder rfl there found_shelves
  have zero : (runWith Grammar.parse shelves ["src", "--dir"] ⟨none, none⟩).status = .ok 0 := by
    rw [runWith_eq arguments_sourceOptions (answered_folder rfl there) planned fits_sourceOptions]
    decide +kernel
  rw [found_shelves] at listed
  have nodup : (jobs.map Job.output).Nodup := by
    rw [listed]
    decide
  obtain ⟨_, apart⟩ := keeps Grammar.parse ["src", "--dir"] ⟨none, none⟩ sourceOptions
    arguments_sourceOptions zero
  have untwinned := distinct.mp nodup
  exact ⟨wellFormed_shelves, readable, arguments_sourceOptions, zero, jobs, made,
    by rw [listed]; rfl,
    nodup, untwinned, (apart linkless_shelves).mpr untwinned⟩

/-- Sources of one folder that differ in the letter case of the extension only. -/
def twins : Disk :=
  withSources [.file "A.cs" 0, .file "A.CS" 1] ["class A { }", "class B { }"]

theorem wellFormed_twins : twins.WellFormed := by
  apply wellFormed_withSources
  refine .folder (by decide) (by decide) ?_
  rw [List.forall_mem_cons, List.forall_mem_singleton]
  exact ⟨.file _ _, .file _ _⟩

theorem found_twins : twins.found (Path.ofText "src") = [["A.CS"], ["A.cs"]] := by
  have led : twins.locate (Path.ofText "src") false = .ok ["work", "src"] := by decide +kernel
  rw [Disk.found_of_locate led (.folder "src" [.file "A.cs" 0, .file "A.CS" 1]) rfl]
  exact Entry.sources_folder_eq ["A.CS", "A.cs"] (by decide +kernel)
    (by decide +kernel) (by decide +kernel) rfl .nil

/-- One diagram is left of the two, that of the second source, and the run ends with zero. -/
theorem twins_share_diagram :
    twins.WellFormed ∧
      plan twins (Path.ofText "src") none true =
        .ok [⟨Path.ofText "src/A.CS", Path.ofText "src/A.puml"⟩,
          ⟨Path.ofText "src/A.cs", Path.ofText "src/A.puml"⟩] ∧
      (run twins ["src", "--dir"] ⟨none, none⟩).status = .ok 0 ∧
      (run twins ["src", "--dir"] ⟨none, none⟩).disk.content? ["work", "src", "A.puml"] =
        some (bytesOf "@startuml\nclass A \x7b\n\x7d\n@enduml\n") ∧
      (run twins ["src", "--dir"] ⟨none, none⟩).disk.root.standing? ["work", "src", "A.CS.puml"] =
        none := by
  have there : twins.isFolder sourceOptions.input = .ok true := by decide +kernel
  have planned : Planned twins sourceOptions _ := planned_folder rfl there found_twins
  have found : twins.found sourceOptions.input = _ := found_twins
  have made := folderJobs_eq_ok twins (Disk.hasNull_of_isFolder there) none
  rw [found] at made
  rw [run, runWith_eq arguments_sourceOptions (answered_folder rfl there) planned
    fits_sourceOptions]
  refine ⟨wellFormed_twins, ?_, by decide +kernel, by decide +kernel, by decide +kernel⟩
  exact made.trans (by decide)

end ClassSketch.Command
