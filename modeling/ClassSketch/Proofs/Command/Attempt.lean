import ClassSketch.Command.Run
import ClassSketch.Proofs.Convert.Outcome

set_option autoImplicit false

namespace ClassSketch.Command

open ClassSketch.Convert ClassSketch.Files

/-- A job, the disk that it met, and what came of it. -/
structure Attempt where
  disk : Disk
  job : Job
  outcome : Outcome

/-- What is said of an attempt: what the conversion says, and why it was given up. -/
def Attempt.entries (attempt : Attempt) : List Log.Entry :=
  attempt.outcome.entries ++
    match attempt.outcome.result with
    | .ok _ => []
    | .error fault =>
      [⟨.error, .command,
        "Failed to convert " ++ attempt.job.input.toText ++ ": " ++ fault.message⟩]

/-- The attempt opened the file with this number, its output as a later disk has it. -/
def Attempt.Writes (attempt : Attempt) (disk : Disk) (number : Nat) : Prop :=
  attempt.outcome.reached = true ∧ disk.file? attempt.job.output = some number

section History

variable (parse : Reader) (indent : String)

/-- Kept folded, or else comparing two histories would run the conversions. -/
@[irreducible] def attempt (disk : Disk) (job : Job) : Attempt :=
  ⟨disk, job, convertWith parse disk job.input job.output indent⟩

/-- One attempt for each job, in order, each on the disk that the one before it left. -/
def attempts (disk : Disk) : List Job → List Attempt
  | [] => []
  | job :: rest =>
    attempt parse indent disk job :: attempts (attempt parse indent disk job).outcome.disk rest

def diskAfter (disk : Disk) : List Job → Disk
  | [] => disk
  | job :: rest => diskAfter (attempt parse indent disk job).outcome.disk rest

end History

variable {parse : Reader} {indent : String}

theorem attempt_disk (disk : Disk) (job : Job) : (attempt parse indent disk job).disk = disk := by
  rw [attempt]

theorem attempt_job (disk : Disk) (job : Job) : (attempt parse indent disk job).job = job := by
  rw [attempt]

theorem attempt_outcome (disk : Disk) (job : Job) :
    (attempt parse indent disk job).outcome =
      convertWith parse disk job.input job.output indent := by
  rw [attempt]

theorem Attempt.Writes.mono {attempt : Attempt} {before after : Disk} {number : Nat}
    (writes : attempt.Writes before number) (grows : before.Grows after) :
    attempt.Writes after number :=
  ⟨writes.1, grows.file?_eq_some writes.2⟩

theorem addsFolders_attempt {disk : Disk} (rooted : disk.Rooted) {job : Job}
    (failed : (attempt parse indent disk job).outcome.reached = false) :
    disk.AddsFolders (attempt parse indent disk job).outcome.disk := by
  rw [attempt_outcome] at failed ⊢
  exact convertWith_unreached rooted failed

theorem attempt_reached {disk : Disk} (rooted : disk.Rooted) {job : Job}
    (opened : (attempt parse indent disk job).outcome.reached = true) :
    ∃ report entries number,
      reportOfFileWith parse disk job.input.toText "" = .ok (report, entries) ∧
      Draws disk (attempt parse indent disk job).outcome.disk job.output number ∧
      (attempt parse indent disk job).outcome.disk.contents number <+:
        bytesOf (Diagram.document report.tree indent) ∧
      ((attempt parse indent disk job).outcome.succeeded = true →
        (attempt parse indent disk job).outcome.disk.contents number =
          bytesOf (Diagram.document report.tree indent)) := by
  rw [attempt_outcome] at opened ⊢
  exact convertWith_reached rooted opened

/-- An attempt changes no file but the one that it opens. -/
theorem changes_attempt (parse : Reader) (indent : String) {disk : Disk} (rooted : disk.Rooted)
    (job : Job) : disk.Changes (attempt parse indent disk job).outcome.disk
      ((attempt parse indent disk job).Writes (attempt parse indent disk job).outcome.disk) := by
  cases opened : (attempt parse indent disk job).outcome.reached with
  | false => exact (addsFolders_attempt rooted opened).changes _
  | true =>
    obtain ⟨_, _, number, _, draws, _⟩ := attempt_reached rooted opened
    refine draws.changes.mono fun other same => ⟨opened, ?_⟩
    rw [attempt_job, same]
    exact draws.denotes

theorem grows_attempt (parse : Reader) (indent : String) {disk : Disk} (rooted : disk.Rooted)
    (job : Job) : disk.Grows (attempt parse indent disk job).outcome.disk :=
  (changes_attempt parse indent rooted job).toGrows

theorem map_job_attempts (disk : Disk) (jobs : List Job) :
    (attempts parse indent disk jobs).map Attempt.job = jobs := by
  induction jobs generalizing disk with
  | nil => rfl
  | cons job rest ih => rw [attempts, List.map_cons, ih, attempt_job]

theorem entries_eq (attempt : Attempt) : attempt.entries =
    attempt.outcome.entries ++ failureEntries attempt.job attempt.outcome.result := by
  rw [Attempt.entries]
  cases attempt.outcome.result <;> rfl

theorem foldl_step (parse : Reader) (indent : String) (progress : Progress) (jobs : List Job) :
    jobs.foldl (Progress.step parse indent) progress =
      { disk := diskAfter parse indent progress.disk jobs
        entries := progress.entries ++
          (attempts parse indent progress.disk jobs).flatMap Attempt.entries
        converted := progress.converted +
          (attempts parse indent progress.disk jobs).countP
            fun attempt => attempt.outcome.succeeded } := by
  induction jobs generalizing progress with
  | nil => simp [attempts, diskAfter]
  | cons job rest ih =>
    have later := ih (progress.step parse indent job)
    rw [List.foldl_cons, later, attempts, diskAfter, List.flatMap_cons, List.countP_cons]
    have counted (count step others : Nat) : count + step + others = count + (others + step) := by
      omega
    have stepped : progress.step parse indent job =
        { disk := (attempt parse indent progress.disk job).outcome.disk
          entries := progress.entries ++ (attempt parse indent progress.disk job).entries
          converted := progress.converted +
            if (attempt parse indent progress.disk job).outcome.succeeded then 1 else 0 } := by
      rw [Progress.step, entries_eq, attempt_outcome, attempt_job, ← List.append_assoc]
    rw [stepped]
    simp only [List.append_assoc, counted]

theorem convertAll_eq (disk : Disk) (jobs : List Job) :
    convertAll parse disk jobs indent =
      { disk := diskAfter parse indent disk jobs
        entries := (attempts parse indent disk jobs).flatMap Attempt.entries
        converted := (attempts parse indent disk jobs).countP
          fun attempt => attempt.outcome.succeeded } := by
  have folded := foldl_step parse indent ⟨disk, [], 0⟩ jobs
  simpa [convertAll] using folded

theorem grows_diskAfter (parse : Reader) (indent : String) {disk : Disk} (rooted : disk.Rooted)
    (jobs : List Job) : disk.Grows (diskAfter parse indent disk jobs) := by
  induction jobs generalizing disk with
  | nil => exact .refl disk
  | cons job rest ih =>
    have first := grows_attempt parse indent rooted job
    exact first.trans (ih (first.rooted rooted))

/-- A run changes no file but those that its attempts open. -/
theorem changes_diskAfter (parse : Reader) (indent : String) {disk : Disk} (rooted : disk.Rooted)
    (jobs : List Job) : disk.Changes (diskAfter parse indent disk jobs) fun number =>
      ∃ attempt ∈ attempts parse indent disk jobs,
        attempt.Writes (diskAfter parse indent disk jobs) number := by
  induction jobs generalizing disk with
  | nil => exact .refl disk _
  | cons job rest ih =>
    have first := changes_attempt parse indent rooted job
    have rootedLeft := first.rooted rooted
    rw [attempts, diskAfter]
    refine (first.mono ?_).trans ((ih rootedLeft).mono ?_)
    · intro number writes
      exact ⟨_, List.mem_cons_self, writes.mono (grows_diskAfter parse indent rootedLeft rest)⟩
    · rintro number ⟨other, isAttempt, writes⟩
      exact ⟨other, List.mem_cons_of_mem _ isAttempt, writes⟩

/-- What follows an attempt is a run of its own. -/
theorem attempts_split {disk : Disk} (rooted : disk.Rooted) {jobs : List Job}
    {earlier later : List Attempt} {here : Attempt}
    (split : attempts parse indent disk jobs = earlier ++ here :: later) :
    ∃ met job rest, met.Rooted ∧ here = attempt parse indent met job ∧
      later = attempts parse indent here.outcome.disk rest ∧
      diskAfter parse indent disk jobs = diskAfter parse indent here.outcome.disk rest := by
  induction earlier generalizing disk jobs with
  | nil =>
    cases jobs with
    | nil => cases split
    | cons job rest =>
      rw [attempts, List.nil_append, List.cons.injEq] at split
      obtain ⟨rfl, rfl⟩ := split
      exact ⟨disk, job, rest, rooted, rfl, rfl, rfl⟩
  | cons first others ih =>
    cases jobs with
    | nil => cases split
    | cons job rest =>
      rw [attempts, List.cons_append, List.cons.injEq] at split
      have grows := grows_attempt parse indent rooted job
      exact ih (grows.rooted rooted) split.2

/-- The file that an attempt opened holds the diagram of the source as the attempt found it, or a
beginning of it, unless a later attempt opened the same file. -/
theorem exists_output {disk : Disk} (rooted : disk.Rooted) {jobs : List Job}
    {earlier later : List Attempt} {here : Attempt}
    (split : attempts parse indent disk jobs = earlier ++ here :: later)
    (opened : here.outcome.reached = true) :
    ∃ report entries number,
      reportOfFileWith parse here.disk here.job.input.toText "" = .ok (report, entries) ∧
      (diskAfter parse indent disk jobs).file? here.job.output = some number ∧
      ((∀ attempt ∈ later, ¬ attempt.Writes (diskAfter parse indent disk jobs) number) →
        (diskAfter parse indent disk jobs).contents number <+:
          bytesOf (Diagram.document report.tree indent) ∧
        (here.outcome.succeeded = true → (diskAfter parse indent disk jobs).contents number =
          bytesOf (Diagram.document report.tree indent))) := by
  obtain ⟨met, job, rest, rooted_met, rfl, behind, final⟩ := attempts_split rooted split
  obtain ⟨report, entries, number, read, draws, part, whole⟩ := attempt_reached rooted_met opened
  have onward := changes_diskAfter parse indent (draws.changes.rooted rooted_met) rest
  rw [attempt_disk, attempt_job, final]
  refine ⟨report, entries, number, read, onward.file?_eq_some draws.denotes, fun clear => ?_⟩
  have kept := onward.contents number fun ⟨attempt, isAttempt, writes⟩ =>
    clear attempt (behind ▸ isAttempt) writes
  rw [kept]
  exact ⟨part, whole⟩

/-- In the end a file stands at the output of every attempt that opened it. -/
theorem exists_file {disk : Disk} (rooted : disk.Rooted) {jobs : List Job} {here : Attempt}
    (tried : here ∈ attempts parse indent disk jobs) (opened : here.outcome.reached = true) :
    ∃ number, (diskAfter parse indent disk jobs).file? here.job.output = some number := by
  obtain ⟨earlier, later, split⟩ := List.append_of_mem tried
  obtain ⟨_, _, number, _, denotes, _⟩ := exists_output rooted split opened
  exact ⟨number, denotes⟩

end ClassSketch.Command
