import ClassSketch.Proofs.Convert.Outputs
import ClassSketch.Proofs.Files.Listing
import ClassSketch.Proofs.Files.Walk
import ClassSketch.Convert.Reading

set_option autoImplicit false

namespace ClassSketch.Files

open ClassSketch.Text

/-- A path has the language of its last component. -/
theorem Path.ofPath?_toText (base : Path) (folders : List String) (name : String) :
    Language.ofPath? (base.below (folders ++ [name])).toText = Language.ofPath? name := by
  have shown : (base.below (folders ++ [name])).toText =
      base.anchor.text ++ joinWith "/" (base.parts ++ folders ++ [name]) := by
    simp [toText, below]
  rw [shown]
  cases parts : base.parts ++ folders with
  | nil =>
    rw [List.nil_append, joinWith]
    cases base.anchor with
    | working => rw [Anchor.text, String.empty_append]
    | root => exact Language.ofPath?_append "" name
    | doubleRoot => exact Language.ofPath?_append "/" name
  | cons first rest =>
    rw [joinWith_concat "/" (List.cons_ne_nil first rest), ← String.append_assoc,
      ← String.append_assoc]
    exact Language.ofPath?_append _ name

end ClassSketch.Files

namespace ClassSketch.Convert

open ClassSketch.Files

variable {disk : Disk} {input : Path} {output : Option Path}

/-- A path with the extension is reported, or refused for another reason than its extension. -/
theorem reportOfFileWith_ne_unsupported (parse : Reader) (disk : Disk) {filePath : String}
    (supported : Language.isSupported filePath = true) (projectRoot message : String) :
    reportOfFileWith parse disk filePath projectRoot ≠ .error (.unsupported message) := by
  intro refused
  rw [reportOfFileWith, if_pos supported] at refused
  dsimp only at refused
  split at refused
  · cases refused
  · cases refused
  · rename_i fault other read
    cases refused
    exact (Disk.isOf_of_read read).ne_unsupported message rfl

/-- A name with an extension in it that is a source has a stem before the extension. -/
theorem stem_ne_empty {stem ending : String} (single : '/' ∉ (stem ++ ending).toList)
    (source : Language.isSupported (stem ++ ending) = true) (isEnding : Path.IsExtension ending) :
    stem ≠ "" := by
  rintro rfl
  rw [String.empty_append] at single source
  obtain ⟨filled, other, split, isOther⟩ := Path.exists_extension single source
  have letters : (Language.extension .csharp).toList = ['.', 'c', 's'] := by decide
  have three : ∀ ending, Path.IsExtension ending → ending.toList.length = 3 := by
    intro ending isExtension
    have lengths := congrArg List.length isExtension
    rwa [List.length_map, letters] at lengths
  have lengths := congrArg (fun text : String => text.toList.length) split
  simp only [String.toList_append, List.length_append, three ending isEnding,
    three other isOther] at lengths
  have empty : (Path.stemOf ending).toList = [] := List.eq_nil_of_length_eq_zero (by omega)
  exact filled (String.toList_inj.mp empty)

/-- What discovery and naming make of a source whose name is a stem with an extension behind it: a
walk from the text of the input names its folder, its path without the input is what lies between,
and its diagram lies there below the output. -/
structure NamedFor (input : Path) (output : Option Path) (job : Job) (folders : List String)
    (stem ending : String) : Prop where
  walked : ∀ text, input = Path.ofText text →
    job.input = (Path.ofText (Path.walkText input.toText folders)).child (stem ++ ending)
  relative : job.input.relativeTo? input = some (folders ++ [stem ++ ending])
  diagram : job.output = (output.getD input).below (folders ++ [stem ++ ".puml"])

theorem namedFor_sourceJob {folders : List String} {stem ending : String}
    (source : IsSource (folders ++ [stem ++ ending])) (isEnding : Path.IsExtension ending) :
    NamedFor input output (sourceJob input output (folders ++ [stem ++ ending])) folders stem
      ending where
  walked := by
    rintro text rfl
    have parts : ∀ folder ∈ folders, IsPart folder :=
      fun folder inside => (source.plain folder (List.mem_append_left _ inside)).isPart
    rw [Path.ofText_walkText _ parts, Path.ofText_toText (Path.isPart_ofText text)]
    simp [sourceJob, Path.below, Path.child]
  relative := Path.relativeTo?_below input _
  diagram := by
    obtain ⟨_, name, split, supported⟩ := source.last
    obtain ⟨rfl, same⟩ := List.append_inj' split rfl
    obtain ⟨rfl⟩ := List.cons.inj same
    have single := (source.plain (stem ++ ending) (by simp)).single
    have filled : stem ≠ "" := stem_ne_empty single supported isEnding
    rw [sourceJob, diagramBeside_below _ (by simp), diagramParts_concat,
      Path.stemOf_append filled isEnding]
    rfl

/-- The extension of a path is that of its last component: a stem with more than dots in it, a dot,
and the letters in either case. By this rule a folder is searched, a file accepted and a diagram
named: over any well-formed tree a plan is made for every input without a null byte, no source in it
is refused for its extension, and its diagram has the suffix in place of the extension, at the same
place below the output. -/
theorem extensions_agree :
    (∀ path : String, Language.ofPath? path = some .csharp ↔ ∃ stem ending,
      Language.lastComponent path.toList = stem ++ '.' :: ending ∧
        ending.map Char.toLower = ['c', 's'] ∧ ∃ c ∈ stem, c ≠ '.') ∧
    (∀ folders name : String,
      Language.ofPath? (folders ++ "/" ++ name) = Language.ofPath? name) ∧
    ∀ disk : Disk, disk.WellFormed → ∀ input : Path, Disk.hasNull input = false →
      ∀ output : Option Path, ∃ jobs, plan disk input output true = .ok jobs ∧ ∀ job ∈ jobs,
        (∀ (parse : Reader) (later : Disk) (projectRoot message : String),
          reportOfFileWith parse later job.input.toText projectRoot ≠
            .error (.unsupported message)) ∧
        (∃ folders stem ending, job.input = input.below (folders ++ [stem ++ ending]) ∧
          Path.IsExtension ending) ∧
        ∀ folders stem ending, job.input = input.below (folders ++ [stem ++ ending]) →
          Path.IsExtension ending → NamedFor input output job folders stem ending := by
  refine ⟨Language.ofPath?_eq_some_iff, Language.ofPath?_append, ?_⟩
  intro disk wellFormed input readable output
  refine ⟨_, folderJobs_eq_ok disk readable output, ?_⟩
  intro job isJob
  obtain ⟨parts, inside, rfl⟩ := List.mem_map.mp isJob
  have source : IsSource parts := wellFormed.isSource parts inside
  obtain ⟨folders, name, rfl, supported⟩ := source.last
  refine ⟨?_, ?_, ?_⟩
  · intro parse later projectRoot message
    refine reportOfFileWith_ne_unsupported parse later ?_ projectRoot message
    change (Language.ofPath? (input.below (folders ++ [name])).toText).isSome = true
    rw [Path.ofPath?_toText]
    exact supported
  · have single := (source.plain name (by simp)).single
    obtain ⟨_, ending, split, isEnding⟩ := Path.exists_extension single supported
    exact ⟨folders, Path.stemOf name, ending, by rw [← split]; rfl, isEnding⟩
  · intro others stem ending same isEnding
    have parts : folders ++ [name] = others ++ [stem ++ ending] := below_injective input same
    rw [parts] at source ⊢
    exact namedFor_sourceJob source isEnding

/-- Dots in the working folder, in a folder and in the stems. -/
def dotted : Disk where
  root := .folder "" [.folder "v1.0" [.folder "lib.cs" [.file "..n.CS" 0], .file "a.b.Cs" 1,
    .file "..cs" 2]]
  contents _ := []
  working := ["v1.0"]
  rules := .ordinary

theorem wellFormed_dotted : dotted.WellFormed where
  top := rfl
  working := by
    simp [Disk.standing?, dotted, Entry.standing?_folder_cons, Entry.named?, Entry.name,
      Entry.standing]
  tree := by
    refine Entry.WellFormed.singleton ?_ (by decide) ""
    refine .folder (by decide) (by decide) ?_
    simp only [List.forall_mem_cons]
    exact ⟨.singleton (.file _ _) (by decide) _, .file _ _, .file _ _, List.forall_mem_nil _⟩

theorem found_dotted : dotted.found (Path.ofText ".") = [["a.b.Cs"], ["lib.cs", "..n.CS"]] := by
  let view := dotted.view (Path.ofText ".")
  let entries : List Entry :=
    [.folder "lib.cs" [.file "..n.CS" 0], .file "a.b.Cs" 1, .file "..cs" 2]
  have led : dotted.locate (Path.ofText ".") false = .ok ["v1.0"] := by decide +kernel
  have inner : (Entry.folder "lib.cs" [.file "..n.CS" 0]).sources (view.below "lib.cs") =
      [["..n.CS"]] :=
    Entry.sources_folder_eq ["..n.CS"] (by decide +kernel) (by decide +kernel)
      (by decide) rfl .nil
  have walked : Entry.walked entries = [.folder "lib.cs" [.file "..n.CS" 0]] := rfl
  have below : sourcesBelow view entries = [("lib.cs", [["..n.CS"]])] := by
    rw [Entry.sourcesBelow_eq, walked, List.map_singleton, Entry.name, inner]
  rw [Disk.found_of_locate led (.folder "v1.0" entries) rfl]
  exact Entry.sources_folder_eq ["a.b.Cs"] (by decide +kernel) (by decide +kernel)
    (by decide) below (by decide)

theorem dotted_sources_named :
    dotted.WellFormed ∧ Disk.hasNull (Path.ofText ".") = false ∧
      ∃ jobs, plan dotted (Path.ofText ".") (some (Path.ofText "out")) true = .ok jobs ∧
        jobs = [⟨Path.ofText "a.b.Cs", Path.ofText "out/a.b.puml"⟩,
          ⟨Path.ofText "lib.cs/..n.CS", Path.ofText "out/lib.cs/..n.puml"⟩] ∧
        Path.IsExtension ".CS" ∧
        ∀ job ∈ jobs, job.input = Path.ofText "lib.cs/..n.CS" →
          NamedFor (Path.ofText ".") (some (Path.ofText "out")) job ["lib.cs"] "..n" ".CS" := by
  have readable : Disk.hasNull (Path.ofText ".") = false := by decide
  obtain ⟨_, _, agree⟩ := extensions_agree
  obtain ⟨jobs, made, each⟩ :=
    agree dotted wellFormed_dotted (Path.ofText ".") readable (some (Path.ofText "out"))
  have isExtension : Path.IsExtension ".CS" := by
    rw [Path.IsExtension]
    decide
  refine ⟨wellFormed_dotted, readable, jobs, made, ?_, isExtension, ?_⟩
  · rw [plan, if_pos rfl, folderJobs_eq_ok dotted readable, found_dotted] at made
    rw [← Except.ok.inj made]
    decide
  · intro job isJob same
    obtain ⟨_, _, named⟩ := each job isJob
    exact named ["lib.cs"] "..n" ".CS" (same.trans (by decide)) isExtension

/-- Without a null byte the input has a plan, with one it has none. -/
theorem dotted_not_planned :
    dotted.WellFormed ∧ plan dotted (Path.ofText "a\x00b") none true = .error .nullByte :=
  ⟨wellFormed_dotted, by rw [plan, if_pos rfl, folderJobs_eq, if_pos (by decide)]⟩

end ClassSketch.Convert
