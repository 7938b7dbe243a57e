import ClassSketch.Outline.Unit
import ClassSketch.Proofs.Concrete.Event

set_option autoImplicit false

namespace ClassSketch.Outline

open ClassSketch.Concrete ClassSketch.Model ClassSketch.Concrete.Located

variable (source : List UInt8)

def takes (nodes : List Located) : List Event := nodes.map fun node => .take node.position

end ClassSketch.Outline
