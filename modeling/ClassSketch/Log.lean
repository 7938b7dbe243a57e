set_option autoImplicit false

namespace ClassSketch

namespace Log

inductive Level where
  | debug
  | info
  | warning
  | error
  deriving DecidableEq, Repr

def Level.all : List Level := [.debug, .info, .warning, .error]

def Level.label : Level → String
  | .debug => "DEBUG"
  | .info => "INFO"
  | .warning => "WARNING"
  | .error => "ERROR"

def Level.rank : Level → Nat
  | .debug => 0
  | .info => 1
  | .warning => 2
  | .error => 3

def Level.ofLabel? (label : String) : Option Level :=
  Level.all.find? fun level => level.label == label

/-- The part of the program that speaks. -/
inductive Origin where
  | command
  | reading
  | drawing
  deriving DecidableEq, Repr

def Origin.label : Origin → String
  | .command => "classloom.__main__"
  | .reading => "classloom.core.ast_parser.base"
  | .drawing => "classloom.core.diagrams.class_diagram"

structure Entry where
  level : Level
  origin : Origin
  message : String
  deriving DecidableEq, Repr

/-- Entries at or above a level. -/
def atLeast (threshold : Level) (entries : List Entry) : List Entry :=
  entries.filter fun entry => threshold.rank ≤ entry.level.rank

def Entry.line (entry : Entry) : String :=
  entry.origin.label ++ " - " ++ entry.level.label ++ " - " ++ entry.message ++ "\n"

end Log

end ClassSketch
