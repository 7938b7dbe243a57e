import ClassSketch.Files.Discovery

set_option autoImplicit false

namespace ClassSketch.Convert

open ClassSketch.Files

/-- A source and the diagram it is drawn into. -/
structure Job where
  input : Path
  output : Path
  deriving DecidableEq, Repr

def suffix : String := ".puml"

def diagramPath (path : Path) : Except Fault Path :=
  match path.withSuffix? suffix with
  | some renamed => .ok renamed
  | none => .error (.emptyName path)

/-- One job for each source below a folder, with outputs at the same places below the output
folder. -/
def folderJobs (disk : Disk) (input : Path) (output : Option Path) : Except Fault (List Job) := do
  let sources ← disk.sources input
  sources.mapM fun parts => do
    let renamed ← diagramPath ((output.getD input).below parts)
    return ⟨input.below parts, renamed⟩

/-- The job of one file. An output folder takes the diagram under the name of the source. -/
def fileJob (disk : Disk) (input : Path) : Option Path → Except Fault Job
  | none => do return ⟨input, ← diagramPath input⟩
  | some output => do
    if ← disk.isFolder output then
      let renamed ← diagramPath input
      return ⟨input, output.child renamed.name⟩
    else return ⟨input, output⟩

def plan (disk : Disk) (input : Path) (output : Option Path) (directory : Bool) :
    Except Fault (List Job) :=
  if directory then folderJobs disk input output
  else do return [← fileJob disk input output]

end ClassSketch.Convert
