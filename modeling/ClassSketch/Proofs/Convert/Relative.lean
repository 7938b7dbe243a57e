import ClassSketch.Convert.Reading
import ClassSketch.Proofs.Outline.Containment
import ClassSketch.Proofs.Outline.Making
import ClassSketch.Proofs.Text.Ending
import Mathlib.Data.List.Chain
import Mathlib.Data.List.DropRight

set_option autoImplicit false

namespace ClassSketch.Text

def isSlash (c : Char) : Bool := c == '/'

/-- Each run of slashes becomes one slash. -/
def mergeSlashes : List Char → List Char
  | [] => []
  | c :: rest =>
    if c = '/' ∧ rest.head? = some '/' then mergeSlashes rest else c :: mergeSlashes rest

theorem dropWhile_isSlash_of_head {text : List Char} (solid : text.head? ≠ some '/') :
    text.dropWhile isSlash = text := by
  cases text with
  | nil => rfl
  | cons c rest =>
    refine List.dropWhile_cons_of_neg fun slash => solid ?_
    exact congrArg some (beq_iff_eq.mp slash)

/-- No two slashes stand side by side. -/
def Single (text : List Char) : Prop :=
  text.IsChain fun here next => ¬ (here = '/' ∧ next = '/')

instance (text : List Char) : Decidable (Single text) :=
  inferInstanceAs (Decidable (List.IsChain ..))

/-- A text with single slashes starts with one slash at most. -/
theorem Single.cases {text : List Char} (single : Single text) :
    text = text.dropWhile isSlash ∨ text = '/' :: text.dropWhile isSlash := by
  cases text with
  | nil => exact .inl rfl
  | cons c rest =>
    by_cases slash : c = '/'
    · subst slash
      have solid : rest.head? ≠ some '/' := by
        intro again
        exact (List.isChain_cons.mp single).1 '/' again ⟨rfl, rfl⟩
      have isRun : isSlash '/' = true := rfl
      rw [List.dropWhile_cons_of_pos isRun, dropWhile_isSlash_of_head solid]
      exact .inr rfl
    · have solid : (c :: rest).head? ≠ some '/' := fun same => slash (Option.some.inj same)
      exact .inl (dropWhile_isSlash_of_head solid).symm

end ClassSketch.Text

namespace ClassSketch.Report

end ClassSketch.Report

namespace ClassSketch.Convert

open ClassSketch.Files ClassSketch.Text

variable {filePath other projectRoot : String}

section Reports

variable (parse : Reader) (disk : Disk)

variable {parse disk} {report : Report} {entries : List Log.Entry}

end Reports

/-- The project folder without the slashes at its end, a slash and the relative path give the path
of the file, up to repeated slashes. -/
def LiesUnder (projectRoot filePath relative : String) : Prop :=
  mergeSlashes (projectRoot.toList.rdropWhile isSlash ++ '/' :: relative.toList) =
    mergeSlashes filePath.toList

instance (projectRoot filePath relative : String) :
    Decidable (LiesUnder projectRoot filePath relative) :=
  inferInstanceAs (Decidable (_ = _))

/-- What every normalised absolute path is: a slash comes first and no two stand together. -/
structure SingleSlashed (path : String) : Prop where
  absolute : path.toList.head? = some '/'
  single : Single path.toList

/-- A project folder and a folder whose name goes on where that of the project ends. -/
def siblings : Disk where
  root := .folder "" [.folder "proj" [.folder "ect" [.file "A.cs" 0]],
    .folder "project" [.file "A.cs" 1]]
  contents _ := []
  working := []
  rules := .ordinary

theorem sibling_shown_as_inner :
    ∃ report entries other otherEntries,
      reportOfFile siblings "/project/A.cs" "/proj" = .ok (report, entries) ∧
      reportOfFile siblings "/proj/ect/A.cs" "/proj" = .ok (other, otherEntries) ∧
      report.filePath ≠ "/project/A.cs" ∧
      ¬ LiesUnder "/proj" "/project/A.cs" report.filePath ∧
      SingleSlashed "/project/A.cs" ∧ SingleSlashed "/proj/ect/A.cs" ∧
      other.filePath = report.filePath :=
  ⟨_, _, _, _, rfl, rfl, by decide, by decide, ⟨rfl, by decide⟩, ⟨rfl, by decide⟩, rfl⟩

end ClassSketch.Convert
