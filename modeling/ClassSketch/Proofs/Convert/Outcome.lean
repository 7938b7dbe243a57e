import ClassSketch.Convert.Job
import ClassSketch.Proofs.Files.Disk

set_option autoImplicit false

namespace ClassSketch.Convert

open ClassSketch.Files

/-- Whether the output was opened, to be written in whole or in part. -/
def Outcome.reached (outcome : Outcome) : Bool :=
  match outcome.result with
  | .ok done => done
  | .error (.interrupted _) => true
  | .error _ => false

theorem Outcome.reached_of_succeeded {outcome : Outcome} (success : outcome.succeeded = true) :
    outcome.reached = true := by
  unfold Outcome.succeeded at success
  unfold Outcome.reached
  cases result : outcome.result with
  | ok done => simpa only [result] using success
  | error fault => simp only [result, Bool.false_eq_true] at success

theorem Outcome.unreached_of_error {outcome : Outcome} {fault : Fault}
    (result : outcome.result = .error fault) (told : ∀ refusal, fault ≠ .interrupted refusal) :
    outcome.reached = false := by
  unfold Outcome.reached
  cases fault with
  | interrupted refusal => exact absurd rfl (told refusal)
  | _ => rw [result]

/-- The file at the location of the output was opened, one that stood there or a new one, and
nothing else was changed but for folders that were added. -/
structure DrawsAt (before after : Disk) (output : Path) (location : List String) (number : Nat) :
    Prop extends before.Changes after (fun other => other = number) where
  led : after.locate output false = .ok location
  stands : after.standing? location = some (.file number)
  files : ∀ other otherNumber, other ≠ location →
    after.standing? other = some (.file otherNumber) →
      before.standing? other = some (.file otherNumber)
  was : before.standing? location = some (.file number) ∨
    ∀ other, before.standing? other ≠ some (.file number)

def Draws (before after : Disk) (output : Path) (number : Nat) : Prop :=
  ∃ location, DrawsAt before after output location number

variable {parse : Reader} {disk : Disk} {input output : Path} {indent : String} {report : Report}

theorem Draws.denotes {before after : Disk} {number : Nat}
    (draws : Draws before after output number) :
    after.file? output = some number := by
  obtain ⟨location, drawn⟩ := draws
  exact Disk.file?_eq_some_iff.mpr ⟨location, drawn.led, drawn.stands⟩

theorem Draws.changes {before after : Disk} {number : Nat}
    (draws : Draws before after output number) :
    before.Changes after fun other => other = number := by
  obtain ⟨location, drawn⟩ := draws
  exact drawn.toChanges

theorem draws_of_opens {made after : Disk} {location : List String} {number : Nat}
    (adds : disk.AddsFolders made) (led : made.locate output false = .ok location)
    (opens : made.Opens after location number) : Draws disk after output number := by
  refine ⟨location, (adds.changes _).trans opens.changes, opens.grows.locate_eq_ok led,
    opens.stands, fun other otherNumber elsewhere stands => ?_, ?_⟩
  · rw [opens.standing, if_neg elsewhere] at stands
    exact adds.files other otherNumber stands
  · rcases opens.was with stands | ⟨_, fresh⟩
    · exact .inl (adds.files location number stands)
    · exact .inr fun other stands => fresh other (adds.kept other _ stands)

/-- What drawing a report leaves: folders at most, or the diagram at the output, of which a
beginning is there when the writing was interrupted. -/
inductive DrawEnds (disk : Disk) (output : Path) (content : List UInt8) : Outcome → Prop
  | unreached {outcome : Outcome} (failed : outcome.reached = false)
      (adds : disk.AddsFolders outcome.disk) : DrawEnds disk output content outcome
  | drawn {outcome : Outcome} {number : Nat} (success : outcome.succeeded = true)
      (draws : Draws disk outcome.disk output number)
      (whole : outcome.disk.contents number = content) : DrawEnds disk output content outcome
  | interrupted {outcome : Outcome} {number : Nat} (opened : outcome.reached = true)
      (failed : outcome.succeeded = false) (draws : Draws disk outcome.disk output number)
      (part : outcome.disk.contents number <+: content) : DrawEnds disk output content outcome

theorem drawEnds_writeDiagram (rooted : disk.Rooted) (report : Report) (output : Path)
    (indent : String) : DrawEnds disk output (bytesOf (Diagram.document report.tree indent))
      (writeDiagram disk report output indent) := by
  have adds := Disk.addsFolders_ensureFolderAt rooted output.parent
  have told := disk.ensureFolder_ne_interrupted output.parent.anchor output.parent.parts.reverse
  rw [← Disk.ensureFolderAt] at told
  unfold writeDiagram
  generalize disk.ensureFolderAt output.parent = ensured at adds told
  obtain ⟨made, _ | ⟨⟨⟩⟩⟩ := ensured
  · refine .unreached (Outcome.unreached_of_error rfl fun refusal same => ?_) adds
    exact told refusal (congrArg Except.error same)
  · have ends := Disk.writeEnds_write (adds.rooted rooted) output
      (bytesOf (Diagram.document report.tree indent))
    dsimp only
    generalize made.write output (bytesOf (Diagram.document report.tree indent)) = written at ends
    cases ends with
    | refused told =>
      dsimp only
      split
      · rename_i result
        cases result
      · rename_i refusal result
        cases result
        exact absurd rfl (told refusal)
      · rename_i result
        cases result
        exact .unreached (Outcome.unreached_of_error rfl told) adds
    | done led opens whole => exact .drawn rfl (draws_of_opens adds led opens) whole
    | stopped led opens part => exact .interrupted rfl rfl (draws_of_opens adds led opens) part

theorem reportOfFileWith_ne_interrupted {shown root : String} (refusal : Refusal) :
    reportOfFileWith parse disk shown root ≠ .error (.interrupted refusal) := by
  intro refused
  unfold reportOfFileWith at refused
  split at refused
  · dsimp only at refused
    split at refused
    · cases refused
    · cases refused
    · rename_i read
      cases refused
      exact (Disk.isOf_of_read read).ne_interrupted refusal rfl
  · cases refused

/-- How a conversion ends: before its output is open, when folders were added at most, or else with
the diagram of its source in the output, in whole or in part. -/
theorem convertWith_ends (parse : Reader) (rooted : disk.Rooted) (input output : Path)
    (indent : String) :
    ((convertWith parse disk input output indent).reached = false ∧
      disk.AddsFolders (convertWith parse disk input output indent).disk) ∨
    ∃ report entries, reportOfFileWith parse disk input.toText "" = .ok (report, entries) ∧
      DrawEnds disk output (bytesOf (Diagram.document report.tree indent))
        (convertWith parse disk input output indent) := by
  unfold convertWith
  split
  · rename_i fault refused
    refine .inl ⟨Outcome.unreached_of_error rfl fun refusal same => ?_, .refl disk⟩
    exact reportOfFileWith_ne_interrupted refusal (refused.trans (congrArg Except.error same))
  · rename_i report entries read
    dsimp only
    split
    · exact .inl ⟨rfl, .refl disk⟩
    · refine .inr ⟨report, entries, read, ?_⟩
      cases drawEnds_writeDiagram rooted report output indent with
      | unreached failed adds => exact .unreached failed adds
      | drawn success draws whole => exact .drawn success draws whole
      | interrupted opened failed draws part => exact .interrupted opened failed draws part

theorem convertWith_unreached (rooted : disk.Rooted)
    (failed : (convertWith parse disk input output indent).reached = false) :
    disk.AddsFolders (convertWith parse disk input output indent).disk := by
  rcases convertWith_ends parse rooted input output indent with ⟨_, adds⟩ | ⟨_, _, _, ends⟩
  · exact adds
  · cases ends with
    | unreached _ adds => exact adds
    | drawn success =>
      rw [Outcome.reached_of_succeeded success] at failed
      cases failed
    | interrupted opened =>
      rw [opened] at failed
      cases failed

/-- A conversion that opens its output leaves the diagram of its source there, or a beginning of it
if it does not succeed. -/
theorem convertWith_reached (rooted : disk.Rooted)
    (opened : (convertWith parse disk input output indent).reached = true) :
    ∃ report entries number,
      reportOfFileWith parse disk input.toText "" = .ok (report, entries) ∧
      Draws disk (convertWith parse disk input output indent).disk output number ∧
      (convertWith parse disk input output indent).disk.contents number <+:
        bytesOf (Diagram.document report.tree indent) ∧
      ((convertWith parse disk input output indent).succeeded = true →
        (convertWith parse disk input output indent).disk.contents number =
          bytesOf (Diagram.document report.tree indent)) := by
  rcases convertWith_ends parse rooted input output indent with
    ⟨failed, _⟩ | ⟨report, entries, read, ends⟩
  · rw [failed] at opened
    cases opened
  · cases ends with
    | unreached failed =>
      rw [failed] at opened
      cases opened
    | drawn _ draws whole =>
      exact ⟨report, entries, _, read, draws, whole ▸ List.prefix_refl _, fun _ => whole⟩
    | interrupted _ failed draws part =>
      refine ⟨report, entries, _, read, draws, part, fun success => ?_⟩
      rw [failed] at success
      cases success

theorem grows_convertWith (parse : Reader) (input output : Path) (indent : String)
    (rooted : disk.Rooted) :
    disk.Grows (convertWith parse disk input output indent).disk := by
  cases outcome : (convertWith parse disk input output indent).reached with
  | true =>
    obtain ⟨_, _, _, _, draws, _⟩ := convertWith_reached rooted outcome
    exact draws.changes.toGrows
  | false => exact (convertWith_unreached rooted outcome).toGrows

end ClassSketch.Convert
