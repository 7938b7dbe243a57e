import ClassSketch.Proofs.Command.Attempt
import ClassSketch.Proofs.Convert.Plan
import ClassSketch.Proofs.Files.Listing

set_option autoImplicit false

namespace ClassSketch.Command

open ClassSketch.Convert ClassSketch.Files

/-- The jobs of a run. An input that is not there has none. -/
def Planned (disk : Disk) (options : Options) (jobs : List Job) : Prop :=
  if inputExists disk options = .ok true then
    plan disk options.input options.output options.directory = .ok jobs
  else jobs = []

/-- The system refuses none of the looks at paths that a run takes before its first job. -/
structure Answered (disk : Disk) (options : Options) : Prop where
  input : ∃ found, inputExists disk options = .ok found
  output : inputExists disk options = .ok true → options.directory = false →
    ∀ path ∈ options.output, ∃ found, disk.isFolder path = .ok found

section Result

variable (parse : Reader) (disk : Disk) (options : Options) (environment : Environment)
  (indent : String) (jobs : List Job)

def successes : Nat :=
  (attempts parse indent disk jobs).countP fun attempt => attempt.outcome.succeeded

/-- What is said of a run with these jobs, whatever the level of the log. -/
def runEntries : List Log.Entry :=
  (indentText options environment).2 ++
    if inputExists disk options = .ok true then
      (if jobs = [] then
        [⟨.warning, .command, "No C# sources found under " ++ options.input.toText⟩]
      else []) ++
        (attempts parse indent disk jobs).flatMap Attempt.entries ++
        [⟨.info, .command,
          "Converted " ++ toString (successes parse disk indent jobs) ++ "/" ++
            toString jobs.length ++ " file(s)"⟩]
    else
      [⟨.error, .command,
        (if options.directory then "Input directory not found: " else "Input file not found: ") ++
          options.input.toText⟩]

end Result

variable {parse : Reader} {disk : Disk} {options : Options} {environment : Environment}
  {indent : String} {jobs : List Job}

theorem inputExists_folder (directory : options.directory = true) :
    inputExists disk options = disk.isFolder options.input := by
  rw [inputExists, directory, if_pos rfl]

theorem successes_eq_length : successes parse disk indent jobs = jobs.length ↔
    ∀ attempt ∈ attempts parse indent disk jobs, attempt.outcome.succeeded = true := by
  have length : (attempts parse indent disk jobs).length = jobs.length := by
    rw [← List.length_map (f := Attempt.job), map_job_attempts]
  rw [successes, ← length, List.countP_eq_length]

theorem emptyEntries_eq (options : Options) (jobs : List Job) : emptyEntries options jobs =
    if jobs = [] then
      [⟨.warning, .command, "No C# sources found under " ++ options.input.toText⟩]
    else [] := by
  cases jobs <;> rfl

/-- A run with arguments that have been read tries its jobs and ends with a status. -/
theorem execute_eq (answered : Answered disk options) (planned : Planned disk options jobs)
    (fits : (indentText options environment).1 = .ok indent) :
    execute parse disk options environment =
      { disk := diskAfter parse indent disk jobs
        entries := runEntries parse disk options environment indent jobs
        status := .ok (if inputExists disk options = .ok true ∧
          successes parse disk indent jobs = jobs.length then 0 else 1) } := by
  obtain ⟨found, exist⟩ := answered.input
  unfold Planned at planned
  cases found with
  | true =>
    rw [if_pos exist] at planned
    simp [execute, fits, exist, executeJobs, planned, convertAll_eq, runEntries, successes,
      emptyEntries_eq, closingEntry]
  | false =>
    have absent : ¬ inputExists disk options = .ok true := by
      rw [exist]
      simp
    rw [if_neg absent] at planned
    subst planned
    simp [execute, fits, exist, runEntries, missingEntry, diskAfter]

theorem runWith_eq {texts : List String}
    (accepted : arguments environment.level.1 texts = .options options)
    (answered : Answered disk options) (planned : Planned disk options jobs)
    (fits : (indentText options environment).1 = .ok indent) :
    runWith parse disk texts environment =
      { disk := diskAfter parse indent disk jobs
        output := String.join ((Log.atLeast options.logLevel
          (runEntries parse disk options environment indent jobs)).map Log.Entry.line)
        complaints := linesText environment.level.2.toList
        status := .ok (if inputExists disk options = .ok true ∧
          successes parse disk indent jobs = jobs.length then 0 else 1) } := by
  cases level : environment.level with
  | mk threshold complaint =>
    rw [level] at accepted
    simp only [runWith, level, accepted, execute_eq answered planned fits]

theorem status_eq_zero_iff {texts : List String}
    (accepted : arguments environment.level.1 texts = .options options)
    (answered : Answered disk options) (planned : Planned disk options jobs)
    (fits : (indentText options environment).1 = .ok indent) :
    (runWith parse disk texts environment).status = .ok 0 ↔
      inputExists disk options = .ok true ∧
        ∀ attempt ∈ attempts parse indent disk jobs, attempt.outcome.succeeded = true := by
  rw [runWith_eq accepted answered planned fits, ← successes_eq_length]
  by_cases done : inputExists disk options = .ok true ∧
      successes parse disk indent jobs = jobs.length
  · simp [done]
  · simp [done]

/-- A working folder in which a folder of sources stands. -/
def withSources (entries : List Entry) (texts : List String) : Disk where
  root := .folder "" [.folder "work" [.folder "src" entries]]
  contents number := bytesOf (texts[number]?.getD "")
  working := ["work"]
  rules := .ordinary

def sourceOptions : Options := ⟨Path.ofText "src", none, true, none, false, .info⟩

theorem arguments_sourceOptions :
    arguments (Environment.level ⟨none, none⟩).1 ["src", "--dir"] = .options sourceOptions := by
  decide +kernel

theorem fits_sourceOptions : (indentText sourceOptions ⟨none, none⟩).1 = .ok "    " := by
  decide +kernel

theorem answered_folder (directory : options.directory = true)
    (there : disk.isFolder options.input = .ok true) : Answered disk options where
  input := ⟨true, by rw [inputExists_folder directory, there]⟩
  output _ single := by
    rw [directory] at single
    cases single

/-- The sources below the input are the jobs of a run over a folder that is there. -/
theorem planned_folder (directory : options.directory = true)
    (there : disk.isFolder options.input = .ok true) {sources : List (List String)}
    (found : disk.found options.input = sources) :
    Planned disk options (sources.map (sourceJob options.input options.output)) := by
  have exist : inputExists disk options = .ok true := by
    rw [inputExists_folder directory, there]
  rw [Planned, if_pos exist, directory, ← found]
  exact folderJobs_eq_ok disk (Disk.hasNull_of_isFolder there) options.output

end ClassSketch.Command
