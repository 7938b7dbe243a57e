import ClassSketch.Command.Help
import ClassSketch.Command.Settings
import ClassSketch.Convert.Job
import ClassSketch.Convert.Plan

set_option autoImplicit false

namespace ClassSketch.Command

open ClassSketch.Convert ClassSketch.Files

/-- Conversions done one after the other: the disk after them, what was said, and how many
succeeded. -/
structure Progress where
  disk : Disk
  entries : List Log.Entry
  converted : Nat

def failureEntries (job : Job) : Except Fault Bool → List Log.Entry
  | .ok _ => []
  | .error fault =>
    [⟨.error, .command, "Failed to convert " ++ job.input.toText ++ ": " ++ fault.message⟩]

/-- Converts a job on the disk that the jobs before it left. -/
def Progress.step (parse : Reader) (indent : String) (progress : Progress) (job : Job) :
    Progress :=
  let outcome := convertWith parse progress.disk job.input job.output indent
  { disk := outcome.disk
    entries := progress.entries ++ outcome.entries ++ failureEntries job outcome.result
    converted := progress.converted + (if outcome.succeeded then 1 else 0) }

def convertAll (parse : Reader) (disk : Disk) (jobs : List Job) (indent : String) : Progress :=
  jobs.foldl (Progress.step parse indent) ⟨disk, [], 0⟩

def closingEntry (converted total : Nat) : Log.Entry :=
  ⟨.info, .command, "Converted " ++ toString converted ++ "/" ++ toString total ++ " file(s)"⟩

def missingEntry (options : Options) : Log.Entry :=
  ⟨.error, .command,
    (if options.directory then "Input directory not found: " else "Input file not found: ") ++
      options.input.toText⟩

def emptyEntries (options : Options) (jobs : List Job) : List Log.Entry :=
  if jobs.isEmpty then
    [⟨.warning, .command, "No C# sources found under " ++ options.input.toText⟩]
  else []

/-- Whether the input stands there in the kind asked for. -/
def inputExists (disk : Disk) (options : Options) : Except Fault Bool :=
  if options.directory then disk.isFolder options.input else disk.isFile options.input

/-- What a run leaves: the disk, what was said, and the exit status. A fault that stops the whole
run takes the place of the status. -/
structure Finish where
  disk : Disk
  entries : List Log.Entry
  status : Except Fault Nat

/-- Converts the jobs of an input that exists. -/
def executeJobs (parse : Reader) (disk : Disk) (options : Options) (indent : String) : Finish :=
  match plan disk options.input options.output options.directory with
  | .error fault => ⟨disk, [], .error fault⟩
  | .ok jobs =>
    let progress := convertAll parse disk jobs indent
    ⟨progress.disk,
      emptyEntries options jobs ++ progress.entries ++
        [closingEntry progress.converted jobs.length],
      .ok (if progress.converted = jobs.length then 0 else 1)⟩

/-- Runs with arguments that have been read. -/
def execute (parse : Reader) (disk : Disk) (options : Options) (environment : Environment) :
    Finish :=
  let (width, complaints) := indentText options environment
  match width with
  | .error fault => ⟨disk, complaints, .error fault⟩
  | .ok indent =>
    match inputExists disk options with
    | .error fault => ⟨disk, complaints, .error fault⟩
    | .ok false => ⟨disk, complaints ++ [missingEntry options], .ok 1⟩
    | .ok true =>
      let finish := executeJobs parse disk options indent
      { finish with entries := complaints ++ finish.entries }

/-- What the outside sees of a run. -/
structure Answer where
  disk : Disk
  output : String
  complaints : String
  status : Except Fault Nat

def linesText (lines : List String) : String := String.join (lines.map fun line => line ++ "\n")

/-- The exit status of refused arguments. -/
def refusedStatus : Nat := 2

def refusedText (refusal : Refusal) : String :=
  "classloom: error: " ++ refusal.message ++ "\n"

def runWith (parse : Reader) (disk : Disk) (texts : List String) (environment : Environment) :
    Answer :=
  let (level, complaint) := environment.level
  let complaints := linesText complaint.toList
  match arguments level texts with
  | .help => ⟨disk, help, complaints, .ok 0⟩
  | .refused refusal =>
    ⟨disk, "", complaints ++ refusedText refusal, .ok refusedStatus⟩
  | .options options =>
    let finish := execute parse disk options environment
    ⟨finish.disk,
      String.join ((Log.atLeast options.logLevel finish.entries).map Log.Entry.line),
      complaints, finish.status⟩

def run : Disk → List String → Environment → Answer := runWith Grammar.parse

end ClassSketch.Command
