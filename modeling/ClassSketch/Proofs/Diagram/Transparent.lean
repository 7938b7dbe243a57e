import ClassSketch.Proofs.Diagram.Hidden

set_option autoImplicit false

namespace ClassSketch.Diagram

open ClassSketch.Model

/-- A declaration that can hold others, without those that it holds. -/
inductive Shell where
  | unit (filePath : String)
  | namespaceBlock (name : String)
  | typeBlock (header : TypeHeader)
  | enumBlock (header : EnumHeader)
  | unsupported (kind name : String)

def Shell.around (members : List Declaration) : Shell → Declaration
  | .unit filePath => .unit filePath members
  | .namespaceBlock name => .namespaceBlock name members
  | .typeBlock header => .typeBlock header members
  | .enumBlock header => .enumBlock header members
  | .unsupported kind name => .unsupported kind name members

/-- All but unsupported declarations draw whatever they hold. -/
def Shell.drawsAll : Shell → Bool
  | .unsupported .. => false
  | _ => true

/-- One namespace in a tree, at any depth, gives way to its members. -/
inductive Flattens : Declaration → Declaration → Prop
  | here {shell : Shell} (drawsAll : shell.drawsAll = true) (name : String)
      (before inner after : List Declaration) :
      Flattens (shell.around (before ++ .namespaceBlock name inner :: after))
        (shell.around (before ++ inner ++ after))
  | inside (shell : Shell) (before after : List Declaration) {whole flat : Declaration}
      (step : Flattens whole flat) :
      Flattens (shell.around (before ++ whole :: after)) (shell.around (before ++ flat :: after))

variable {whole flat : Declaration} {members others : List Declaration}

theorem strokes_around {shell : Shell} (drawsAll : shell.drawsAll = true)
    (same : strokesOfAll members = strokesOfAll others) :
    strokes (shell.around members) = strokes (shell.around others) := by
  cases shell with
  | unit | namespaceBlock | typeBlock | enumBlock =>
    rw [Shell.around, Shell.around, strokes, strokes, same]
  | unsupported => cases drawsAll

theorem Flattens.isContainer_eq (step : Flattens whole flat) :
    flat.isContainer = whole.isContainer := by
  cases step with
  | @here shell => cases shell <;> rfl
  | inside shell => cases shell <;> rfl

/-- The drawing is the same as before, at the namespace and in everything around it. -/
theorem Flattens.strokes_eq (step : Flattens whole flat) : strokes flat = strokes whole := by
  induction step with
  | here drawsAll name before inner after =>
    refine strokes_around drawsAll ?_
    simp only [strokesOfAll_eq, List.flatMap_append, List.flatMap_cons, strokes,
      List.append_assoc]
  | @inside shell before after whole flat step ih =>
    cases drawn : shell.drawsAll with
    | true =>
      refine strokes_around drawn ?_
      simp only [strokesOfAll_eq, List.flatMap_append, List.flatMap_cons, ih]
    | false =>
      cases shell with
      | unit | namespaceBlock | typeBlock | enumBlock => cases drawn
      | unsupported kind name =>
        rw [Shell.around, Shell.around, strokes, strokes]
        simp only [strokesOfContainers_eq, List.filter_append, List.filter_cons,
          step.isContainer_eq]
        cases whole.isContainer <;> simp [ih]

end ClassSketch.Diagram
