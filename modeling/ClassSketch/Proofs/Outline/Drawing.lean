import ClassSketch.Proofs.Outline.Preorder
import ClassSketch.Proofs.Outline.Tracing

set_option autoImplicit false

namespace ClassSketch.Outline

open ClassSketch.Concrete ClassSketch.Model ClassSketch.Diagram

variable {source : List UInt8}

end ClassSketch.Outline
