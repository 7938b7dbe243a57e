import ClassSketch.Convert.Reading
import ClassSketch.Diagram.Document

set_option autoImplicit false

namespace ClassSketch.Convert

open ClassSketch.Files

/-- What is left of a conversion: the disk after it, what it said, and whether the diagram was
written. -/
structure Outcome where
  disk : Disk
  entries : List Log.Entry
  result : Except Fault Bool

def Outcome.succeeded (outcome : Outcome) : Bool :=
  match outcome.result with
  | .ok done => done
  | .error _ => false

def problemEntry (problem : Problem) : Log.Entry :=
  ⟨if problem.isError then .error else .warning, .command,
    problem.filePath ++ ":" ++ toString problem.line ++ ": " ++ problem.message⟩

def bytesOf (text : String) : List UInt8 := Text.Utf8.encode text.toList

/-- Writes the diagram of a report. The folders above the output are made first, and the tree is
drawn once the output is open. -/
def writeDiagram (disk : Disk) (report : Report) (output : Path) (indent : String) : Outcome :=
  match disk.ensureFolderAt output.parent with
  | (made, .error fault) => ⟨made, [], .error fault⟩
  | (made, .ok ()) =>
    let drawn := Diagram.entries report.tree
    match made.write output (bytesOf (Diagram.document report.tree indent)) with
    | (left, .ok ()) =>
      ⟨left, drawn ++ [⟨.info, .command, "Wrote " ++ output.toText⟩], .ok true⟩
    | (left, .error (.interrupted refusal)) => ⟨left, drawn, .error (.interrupted refusal)⟩
    | (left, .error fault) => ⟨left, [], .error fault⟩

/-- Converts one source. A report with errors writes nothing. -/
def convertWith (parse : Reader) (disk : Disk) (input output : Path) (indent : String) :
    Outcome :=
  match reportOfFileWith parse disk input.toText "" with
  | .error fault => ⟨disk, [], .error fault⟩
  | .ok (report, entries) =>
    let told := entries ++ report.problems.map problemEntry
    if report.hasErrors then ⟨disk, told, .ok false⟩
    else
      let outcome := writeDiagram disk report output indent
      { outcome with entries := told ++ outcome.entries }

def convert : Disk → Path → Path → String → Outcome := convertWith Grammar.parse

end ClassSketch.Convert
