import ClassSketch.Convert.Plan
import ClassSketch.Proofs.Files.Sources

set_option autoImplicit false

namespace ClassSketch.Files.Disk

variable {disk : Disk} {path : Path}

end ClassSketch.Files.Disk

namespace ClassSketch.Convert

open ClassSketch.Files

/-- The path of a diagram beside a path. -/
def diagramBeside (path : Path) : Path := path.parent.child (Path.stemOf path.name ++ suffix)

theorem diagramPath_eq_ok {path : Path} (named : path.parts ≠ []) :
    diagramPath path = .ok (diagramBeside path) := by
  rw [diagramPath, Path.withSuffix?, if_neg named]
  rfl

/-- The job of a source that lies some components below the input. -/
def sourceJob (input : Path) (output : Option Path) (parts : List String) : Job :=
  ⟨input.below parts, diagramBeside ((output.getD input).below parts)⟩

/-- Only a null byte keeps a folder from having a list of jobs. -/
theorem folderJobs_eq (disk : Disk) (input : Path) (output : Option Path) :
    folderJobs disk input output =
      if Disk.hasNull input then .error .nullByte
      else .ok ((disk.found input).map (sourceJob input output)) := by
  have all (sources : List (List String)) (named : ∀ parts ∈ sources, parts ≠ []) :
      (sources.mapM fun parts => do
        let renamed ← diagramPath ((output.getD input).below parts)
        return (⟨input.below parts, renamed⟩ : Job)) =
          .ok (sources.map (sourceJob input output)) := by
    induction sources with
    | nil => rfl
    | cons first rest ih =>
      rw [List.forall_mem_cons] at named
      have parts : ((output.getD input).below first).parts ≠ [] := by
        simp [Path.below, named.1]
      rw [List.mapM_cons, ih named.2, diagramPath_eq_ok parts]
      rfl
  rw [folderJobs, Disk.sources]
  split
  · rfl
  · exact all _ fun parts source => Disk.ne_nil_of_mem_found source

theorem folderJobs_eq_ok (disk : Disk) {input : Path} (readable : Disk.hasNull input = false)
    (output : Option Path) : folderJobs disk input output =
      .ok ((disk.found input).map (sourceJob input output)) := by
  rw [folderJobs_eq, readable]
  rfl

end ClassSketch.Convert
