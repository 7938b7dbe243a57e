set_option autoImplicit false

namespace ClassSketch.Diagram

/-- A text that grows by whole lines, with the number of blocks open at its end. -/
structure Emitter where
  indent : String
  depth : Nat
  text : String
  deriving DecidableEq, Repr

namespace Emitter

def start (indent : String) : Emitter := ⟨indent, 0, ""⟩

def repeatText (text : String) : Nat → String
  | 0 => ""
  | count + 1 => repeatText text count ++ text

/-- Adds a line at the current depth. -/
def write (emitter : Emitter) (line : String) : Emitter :=
  { emitter with text := emitter.text ++ repeatText emitter.indent emitter.depth ++ line ++ "\n" }

/-- Adds a line at column zero. -/
def writeFlush (emitter : Emitter) (line : String) : Emitter :=
  { emitter with text := emitter.text ++ line ++ "\n" }

def enter (emitter : Emitter) : Emitter := { emitter with depth := emitter.depth + 1 }

def exit (emitter : Emitter) : Emitter := { emitter with depth := emitter.depth - 1 }

end Emitter

/-- What can be asked of an emitter. A block is left in order by `exit`, or by an exception with a
message by `throw`. -/
inductive Request where
  | write (line : String)
  | writeFlush (line : String)
  | enter
  | exit
  | throw (message : String)
  deriving DecidableEq, Repr

/-- The emitter after a request, and the exception that leaves its block. -/
def Emitter.serve (emitter : Emitter) : Request → Emitter × Option String
  | .write line => (emitter.write line, none)
  | .writeFlush line => (emitter.writeFlush line, none)
  | .enter => (emitter.enter, none)
  | .exit => (emitter.exit, none)
  | .throw message => (emitter.exit, some message)

end ClassSketch.Diagram
