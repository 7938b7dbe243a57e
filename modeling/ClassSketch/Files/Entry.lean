import ClassSketch.Files.Path

set_option autoImplicit false

namespace ClassSketch.Files

/-- A name in a folder: of a file, which may have other names too, of a folder with what it holds,
or of a link to another path. -/
inductive Entry where
  | file (name : String) (number : Nat)
  | folder (name : String) (entries : List Entry)
  | link (name : String) (target : Path)
  deriving Inhabited

/-- What one finds at a location: a file by its number, a folder, or a link. -/
inductive Standing where
  | file (number : Nat)
  | folder
  | link (target : Path)
  deriving DecidableEq, Repr

namespace Entry

def name : Entry → String
  | .file name _ => name
  | .folder name _ => name
  | .link name _ => name

def standing : Entry → Standing
  | .file _ number => .file number
  | .folder .. => .folder
  | .link _ target => .link target

def isFolder : Entry → Bool
  | .folder .. => true
  | .file .. | .link .. => false

def named? (entries : List Entry) (name : String) : Option Entry :=
  entries.find? fun entry => entry.name == name

/-- The entries with one of them replaced or added. -/
def place (entries : List Entry) (entry : Entry) : List Entry :=
  match entries with
  | [] => [entry]
  | first :: rest => if first.name == entry.name then entry :: rest else first :: place rest entry

/-- What stands below an entry at a location. -/
def get? (entry : Entry) : List String → Option Entry
  | [] => some entry
  | name :: rest =>
    match entry with
    | .file .. | .link .. => none
    | .folder _ entries =>
      match named? entries name with
      | some next => next.get? rest
      | none => none

def standing? (entry : Entry) (location : List String) : Option Standing :=
  (entry.get? location).map standing

/-- Puts `target` below an entry, at a location whose folders exist. -/
def put (entry target : Entry) : List String → Entry
  | [] => target
  | name :: rest =>
    match entry with
    | .file .. | .link .. => entry
    | .folder own entries =>
      match named? entries name with
      | some next => .folder own (place entries (next.put target rest))
      | none => if rest.isEmpty then .folder own (place entries target) else entry

mutual

/-- A number that no file below an entry has. -/
def fresh : Entry → Nat
  | .file _ number => number + 1
  | .folder _ entries => freshOf entries
  | .link .. => 0

def freshOf : List Entry → Nat
  | [] => 0
  | entry :: rest => max entry.fresh (freshOf rest)

end

mutual

/-- The files below an entry, by their locations and numbers. -/
def files : Entry → List (List String × Nat)
  | .file _ number => [([], number)]
  | .folder _ entries => filesOf entries
  | .link .. => []

def filesOf : List Entry → List (List String × Nat)
  | [] => []
  | entry :: rest =>
    (entry.files.map fun (location, number) => (entry.name :: location, number)) ++ filesOf rest

end

end Entry

end ClassSketch.Files
