import ClassSketch.Proofs.Convert.Outcome
import ClassSketch.Proofs.Convert.Outputs
import ClassSketch.Proofs.Files.PathText
import ClassSketch.Proofs.Files.Persistence
import ClassSketch.Proofs.Files.Relisting

set_option autoImplicit false

namespace ClassSketch.Files

theorem lastName_append (folders : List String) (name : String) :
    lastName (folders ++ [name]) = name := by
  simp [lastName]

theorem Path.child_parent {path : Path} (named : path.parts ≠ []) :
    path = path.parent.child path.name := by
  have split := List.dropLast_concat_getLast named
  rw [Path.parent, Path.child, Path.name, List.getLast?_eq_some_getLast named, Option.getD_some]
  exact congrArg (Path.mk path.anchor) split.symm

end ClassSketch.Files

namespace ClassSketch.Convert

open ClassSketch.Files

variable {parse : Reader} {disk later : Disk} {input output : Path} {indent : String}
  {content : List UInt8} {filling other : Option (Nat × List UInt8)} {success done : Bool}

/-- The text of a path leads to a file with the extension. -/
def IsSourceAt (disk : Disk) (input : Path) : Prop :=
  ∃ above name location number, Path.ofText input.toText = above.child name ∧ name ≠ ".." ∧
    disk.locate above false = .ok location ∧
    disk.standing? (location ++ [name]) = some (.file number) ∧ Language.isSupported name = true

theorem IsSourceAt.mono (source : IsSourceAt disk input) (grows : disk.Grows later) :
    IsSourceAt later input := by
  obtain ⟨above, name, location, number, split, down, led, isFile, supported⟩ := source
  exact ⟨above, name, location, number, split, down, grows.locate_eq_ok led,
    grows.kept _ _ isFile, supported⟩

/-- What a conversion put into a file: the number of the file, and its bytes. -/
def Outcome.filled (outcome : Outcome) (output : Path) : Option (Nat × List UInt8) :=
  if outcome.reached then
    (outcome.disk.file? output).map fun number => (number, outcome.disk.contents number)
  else none

/-- How writing a diagram ends, by what stands on the disk afterwards and for good: what file it
fills, and whether it succeeds. -/
inductive Ends (disk : Disk) (output : Path) (content : List UInt8) :
    Option (Nat × List UInt8) → Bool → Prop
  | barred (barred : disk.Barred output.parent) : Ends disk output content none false
  | closed (above : disk.FolderAt output.parent) (closed : disk.Closed output) :
      Ends disk output content none false
  | opened {location : List String} {number : Nat} {stopped : Option (Nat × Refusal)}
      (above : disk.FolderAt output.parent)
      (isOpen : disk.OpenAt output content location number stopped) :
      Ends disk output content (some (number, Disk.beginning content stopped)) stopped.isNone

theorem Ends.mono (linkless : disk.Linkless) (named : output.parts ≠ [])
    (ends : Ends disk output content filling success) (grows : disk.Grows later) :
    Ends later output content filling success := by
  cases ends with
  | barred barred => exact .barred (barred.mono grows)
  | closed above closed =>
    exact .closed (above.mono grows) (closed.mono linkless (Path.child_parent named) above grows)
  | opened above isOpen => exact .opened (above.mono grows) (isOpen.mono grows)

/-- A file that has the name of a source has no name of a diagram. -/
def Unshared (disk : Disk) : Prop :=
  ∀ source diagram number, Language.isSupported (lastName source) = true →
    Text.endsWith (lastName diagram) suffix = true →
    disk.standing? source = some (.file number) → disk.standing? diagram ≠ some (.file number)

/-- A path of a diagram, which is no path of a source. -/
def NamesDiagram (output : Path) : Prop :=
  ∃ (base : Path) (name : String), output = base.child name ∧ name ≠ ".." ∧
    Text.endsWith name suffix = true ∧ Language.isSupported name = false

theorem NamesDiagram.named (names : NamesDiagram output) : output.parts ≠ [] := by
  obtain ⟨base, name, rfl, _⟩ := names
  simp [Path.child]

theorem NamesDiagram.lastName_eq (names : NamesDiagram output) (linkless : disk.Linkless)
    {location : List String} (led : disk.locate output false = .ok location) :
    Text.endsWith (lastName location) suffix = true ∧
      Language.isSupported (lastName location) = false := by
  obtain ⟨base, name, rfl, down, isDiagram, notSource⟩ := names
  obtain ⟨middle, _, rfl⟩ := linkless.locate_below (List.forall_mem_singleton.mpr down) led
  rw [lastName_append]
  exact ⟨isDiagram, notSource⟩

/-- What draws a diagram does not touch a source, as long as none is the diagram by another name. -/
theorem keepsSources_of_drawsAt (linkless : later.Linkless) (unshared : Unshared disk)
    (names : NamesDiagram output) {location : List String} {number : Nat}
    (drawn : DrawsAt disk later output location number) : disk.KeepsSources later := by
  obtain ⟨isDiagram, notSource⟩ := names.lastName_eq linkless drawn.led
  intro folders name supported
  refine drawn.apart _ fun other same stands => ?_
  subst same
  have elsewhere : folders ++ [name] ≠ location := by
    rintro rfl
    rw [lastName_append, supported] at notSource
    cases notSource
  have stood := drawn.files _ _ elsewhere stands
  rcases drawn.was with there | fresh
  · exact unshared _ location _ (by rwa [lastName_append]) isDiagram stood there
  · exact fresh _ stood

theorem unshared_of_drawsAt (linkless : later.Linkless) (unshared : Unshared disk)
    (names : NamesDiagram output) {location : List String} {number : Nat}
    (drawn : DrawsAt disk later output location number) : Unshared later := by
  obtain ⟨_, notSource⟩ := names.lastName_eq linkless drawn.led
  intro source diagram other supported isDiagram standsSource standsDiagram
  have elsewhere : source ≠ location := by
    rintro rfl
    rw [supported] at notSource
    cases notSource
  have stoodSource := drawn.files _ _ elsewhere standsSource
  by_cases here : diagram = location
  · subst here
    rw [drawn.stands, Option.some.injEq, Standing.file.injEq] at standsDiagram
    subst standsDiagram
    rcases drawn.was with there | fresh
    · exact unshared source diagram _ supported isDiagram stoodSource there
    · exact fresh _ stoodSource
  · exact unshared source diagram other supported isDiagram stoodSource
      (drawn.files _ _ here standsDiagram)

theorem unshared_of_addsFolders (unshared : Unshared disk) (adds : disk.AddsFolders later) :
    Unshared later := by
  intro source diagram number supported isDiagram standsSource standsDiagram
  exact unshared source diagram number supported isDiagram (adds.files _ _ standsSource)
    (adds.files _ _ standsDiagram)

theorem distinct_convertWith (distinct : disk.Distinct) :
    (convertWith parse disk input output indent).disk.Distinct := by
  have made := (Disk.makesFolders_ensureFolder disk output.parent.anchor
    output.parent.parts.reverse).distinct distinct
  rw [← Disk.ensureFolderAt] at made
  unfold convertWith
  split
  · exact distinct
  · rename_i report _ _
    dsimp only
    split
    · exact distinct
    · unfold writeDiagram
      split
      · rename_i ensured
        rwa [ensured] at made
      · rename_i left ensured
        rw [ensured] at made
        have written := made.write output (bytesOf (Diagram.document report.tree indent))
        dsimp only
        split
        case h_1 | h_2 =>
          rename_i wrote
          rwa [wrote] at written
        case h_3 =>
          rename_i _ wrote
          rwa [wrote] at written

/-- A disk on which sources and diagrams are kept apart: there are no links, no file is both, and no
folder uses a name twice. -/
structure Clear (disk : Disk) : Prop extends disk.Rooted where
  linkless : disk.Linkless
  unshared : Unshared disk
  distinct : disk.Distinct

/-- What is left by a conversion that draws a diagram: the disk has grown, and has the same
sources. -/
theorem spares_convertWith (clear : Clear disk) (names : NamesDiagram output) :
    disk.KeepsSources (convertWith parse disk input output indent).disk ∧
      Unshared (convertWith parse disk input output indent).disk := by
  have linkless := clear.linkless.mono
    (grows_convertWith parse input output indent clear.toRooted)
  cases opened : (convertWith parse disk input output indent).reached with
  | false =>
    have adds := convertWith_unreached clear.toRooted opened
    exact ⟨adds.keepsSources, unshared_of_addsFolders clear.unshared adds⟩
  | true =>
    obtain ⟨_, _, number, _, ⟨location, drawn⟩, _⟩ := convertWith_reached clear.toRooted opened
    exact ⟨keepsSources_of_drawsAt linkless clear.unshared names drawn,
      unshared_of_drawsAt linkless clear.unshared names drawn⟩

theorem Clear.convertWith (clear : Clear disk) (names : NamesDiagram output) :
    Clear (convertWith parse disk input output indent).disk := by
  have grows := grows_convertWith parse input output indent clear.toRooted
  exact ⟨grows.rooted clear.toRooted, clear.linkless.mono grows, (spares_convertWith clear names).2,
    distinct_convertWith clear.distinct⟩

/-- A job that reads a source and draws a diagram. -/
structure IsDrawing (disk : Disk) (job : Job) : Prop where
  source : IsSourceAt disk job.input
  names : NamesDiagram job.output

theorem IsDrawing.mono {job : Job} (drawing : IsDrawing disk job) (grows : disk.Grows later) :
    IsDrawing later job where
  source := drawing.source.mono grows
  names := drawing.names

end ClassSketch.Convert
