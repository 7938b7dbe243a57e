import ClassSketch.Proofs.Outline.Site

set_option autoImplicit false

namespace ClassSketch.Outline

open ClassSketch.Concrete ClassSketch.Model

/-- The preorder of positions: a node comes before what is in it, and what is in a child before
what is in a later child. -/
def Before (first second : List Nat) : Prop := List.Lex (· < ·) first second

end ClassSketch.Outline
