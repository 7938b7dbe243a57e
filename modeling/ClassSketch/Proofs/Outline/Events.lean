import ClassSketch.Proofs.Outline.PieceEvents

set_option autoImplicit false

namespace ClassSketch.Outline

open ClassSketch.Concrete ClassSketch.Model ClassSketch.Concrete.Located

variable (source : List UInt8)

section Held

variable {image : Located → Node} (keeps : Keeps image) (here : Located)

include keeps

end Held

end ClassSketch.Outline
