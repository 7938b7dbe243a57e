import ClassSketch.Diagram.Stroke
import ClassSketch.Text.Lines

set_option autoImplicit false

namespace ClassSketch.Diagram

open ClassSketch.Model

/-- Draws a declaration behind what the emitter holds. -/
def Emitter.visit (emitter : Emitter) (tree : Declaration) : Emitter :=
  emitter.drawAll (strokes tree)

/-- The text of a diagram without its frame. -/
def body (tree : Declaration) (indent : String) : String :=
  ((Emitter.start indent).visit tree).text

/-- The lines of a diagram. -/
def bodyLines (tree : Declaration) (indent : String) : List String :=
  Text.splitLines (body tree indent)

def startLine : String := "@startuml\n"

def endLine : String := "@enduml\n"

/-- A diagram as a document of its own. The drawing goes behind the first line of the frame. -/
def document (tree : Declaration) (indent : String) : String :=
  ({ Emitter.start indent with text := startLine }.visit tree).text ++ endLine

/-- The text that each tree adds when one emitter draws them in turn. -/
def visitInTurn (emitter : Emitter) : List Declaration → List String
  | [] => []
  | tree :: rest =>
    let next := emitter.visit tree
    String.ofList (next.text.toList.drop emitter.text.length) :: visitInTurn next rest

end ClassSketch.Diagram
