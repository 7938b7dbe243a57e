import ClassSketch.Grammar.Declaration

set_option autoImplicit false

namespace ClassSketch.Grammar

open ClassSketch.Concrete

/-- The concrete tree of a source text. -/
def parse (text : String) : Node :=
  let found := trees text
  branch "compilation_unit" none found (nodesOf .file (itemsOf found))

end ClassSketch.Grammar
