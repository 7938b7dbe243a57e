import ClassSketch.Proofs.Command.Arguments
import ClassSketch.Proofs.Command.Outputs
import ClassSketch.Proofs.Convert.Repetition

set_option autoImplicit false

namespace ClassSketch.Command

open ClassSketch.Convert ClassSketch.Files

variable {parse : Reader} {indent : String} {disk later : Disk} {job : Job} {jobs : List Job}

/-- What an attempt put into a file. -/
def Attempt.filled (attempt : Attempt) : Option (Nat × List UInt8) :=
  attempt.outcome.filled attempt.job.output

theorem clear_attempt (clear : Clear disk) (drawing : IsDrawing disk job) :
    Clear (attempt parse indent disk job).outcome.disk := by
  rw [attempt_outcome]
  exact clear.convertWith drawing.names

theorem keepsSources_attempt (clear : Clear disk) (drawing : IsDrawing disk job) :
    disk.KeepsSources (attempt parse indent disk job).outcome.disk := by
  rw [attempt_outcome]
  exact (spares_convertWith clear drawing.names).1

/-- Jobs are tried on a disk, and again on a later one that has kept what the first run left. -/
structure Retried (parse : Reader) (indent : String) (disk later : Disk) (jobs : List Job) :
    Prop where
  clear : Clear disk
  clearLater : Clear later
  steady : disk.rules.Steady
  drawings : ∀ job ∈ jobs, IsDrawing disk job
  grows : (diskAfter parse indent disk jobs).Grows later
  keeps : disk.KeepsSources later

namespace Retried

theorem first (retried : Retried parse indent disk later (job :: jobs)) : IsDrawing disk job :=
  retried.drawings job List.mem_cons_self

/-- What the first job left is still there when it is tried again. -/
theorem grows_later (retried : Retried parse indent disk later (job :: jobs)) :
    (attempt parse indent disk job).outcome.disk.Grows later := by
  have rooted := (grows_attempt parse indent retried.clear.toRooted job).rooted
    retried.clear.toRooted
  exact (grows_diskAfter parse indent rooted jobs).trans retried.grows

theorem rest (retried : Retried parse indent disk later (job :: jobs)) :
    Retried parse indent (attempt parse indent disk job).outcome.disk
      (attempt parse indent later job).outcome.disk jobs where
  clear := clear_attempt retried.clear retried.first
  steady := (grows_attempt parse indent retried.clear.toRooted job).rules ▸ retried.steady
  clearLater := clear_attempt retried.clearLater <| retried.first.mono <|
    (grows_attempt parse indent retried.clear.toRooted job).trans retried.grows_later
  drawings other isJob := (retried.drawings other (List.mem_cons_of_mem _ isJob)).mono
    (grows_attempt parse indent retried.clear.toRooted job)
  grows := retried.grows.trans (grows_attempt parse indent retried.clearLater.toRooted job)
  keeps folders name supported := by
    have drawingLater := retried.first.mono <|
      (grows_attempt parse indent retried.clear.toRooted job).trans retried.grows_later
    rw [keepsSources_attempt retried.clearLater drawingLater folders name supported,
      keepsSources_attempt retried.clear retried.first folders name supported]
    exact retried.keeps folders name supported

end Retried

/-- What an attempt put into a file, and whether it succeeded. -/
def Attempt.mark (attempt : Attempt) : Option (Nat × List UInt8) × Bool :=
  (attempt.filled, attempt.outcome.succeeded)

section Second

variable (parse : Reader) (disk : Disk) (options : Options) (environment : Environment)
  (jobs : List Job)

end Second

variable {options : Options} {environment : Environment}

end ClassSketch.Command
