import ClassSketch.Concrete.Defect
import ClassSketch.Diagram.Stroke
import ClassSketch.Language
import ClassSketch.Log
import ClassSketch.Outline.Unit
import ClassSketch.Text.Lines

set_option autoImplicit false

namespace ClassSketch

open ClassSketch.Concrete ClassSketch.Model

inductive Severity where
  | warning
  | error
  | other (label : String)
  deriving DecidableEq, Repr

def Severity.label : Severity → String
  | .warning => "warning"
  | .error => "error"
  | .other label => label

def Severity.ofLabel (label : String) : Severity :=
  if label = "warning" then .warning else if label = "error" then .error else .other label

/-- What went wrong with a source. Line zero stands for the whole source. -/
structure Problem where
  filePath : String
  line : Nat
  message : String
  severity : Severity
  deriving DecidableEq, Repr

def Problem.isError (problem : Problem) : Bool := problem.severity == .error

structure Report where
  filePath : String
  language : Language
  tree : Declaration
  usings : List String
  lineCount : Nat
  problems : List Problem

def hasErrors (problems : List Problem) : Bool := problems.any Problem.isError

namespace Report

def hasErrors (report : Report) : Bool := ClassSketch.hasErrors report.problems

def emptyUnit (filePath : String) : Declaration := .unit filePath []

/-- The warning of a concrete tree with an error in it. -/
def defectProblems (filePath : String) (root : Node) : List Problem :=
  if root.mark.hasError then
    [⟨filePath, root.defectLine, "Tree-sitter reported parse errors in file", .warning⟩]
  else []

def usingFailure (filePath : String) (failure : Failure) : Problem :=
  ⟨filePath, 0, "Using extraction failed: " ++ failure.message, .warning⟩

def treeFailure (filePath : String) (failure : Failure) : Problem :=
  ⟨filePath, 0, "Tree building failed: " ++ failure.message, .error⟩

def usingEntry (filePath : String) (failure : Failure) : Log.Entry :=
  ⟨.warning, .reading, "Failed to extract usings from " ++ filePath ++ ": " ++ failure.message⟩

def treeEntry (filePath : String) (failure : Failure) : Log.Entry :=
  ⟨.error, .reading,
    "Failed to build declaration tree for " ++ filePath ++ ": " ++ failure.message⟩

/-- What a concrete tree of a text says. A failure to read the usings or the declarations leaves
them empty and is told among the problems and in the log. -/
def ofTree (text filePath : String) (root : Node) : Report × List Log.Entry :=
  let source := Text.Utf8.encode text.toList
  let (usings, usingProblems, usingEntries) :=
    match Outline.usings source root with
    | .ok usings => (usings, [], [])
    | .error failure => ([], [usingFailure filePath failure], [usingEntry filePath failure])
  let (tree, treeProblems, treeEntries) :=
    match Outline.unit source filePath root with
    | .ok tree => (tree, [], [])
    | .error failure =>
      (emptyUnit filePath, [treeFailure filePath failure], [treeEntry filePath failure])
  ({ filePath := filePath
     language := .csharp
     tree := tree
     usings := usings
     lineCount := Text.lineCount text
     problems := defectProblems filePath root ++ usingProblems ++ treeProblems },
    usingEntries ++ treeEntries)

/-- The report of a file that cannot be read. -/
def unread (filePath message : String) : Report :=
  { filePath := filePath
    language := .csharp
    tree := emptyUnit filePath
    usings := []
    lineCount := 0
    problems := [⟨filePath, 0, message, .error⟩] }

end Report

namespace Diagram

def Skip.message : Skip → String
  | .unsupported kind name => "Skipping unsupported declaration " ++ kind ++ " " ++ name
  | .unknown part =>
    "Skipping unknown node " ++ match part with
      | .parameter _ => "Parameter"
      | .declarator _ => "VariableDeclarator"
      | .accessor _ => "Accessor"
      | .expression _ => "Expression"

/-- What drawing a declaration writes into the log. -/
def entries (tree : Declaration) : List Log.Entry :=
  (skips tree).map fun skip => ⟨.debug, .drawing, skip.message⟩

end Diagram

end ClassSketch
