import ClassSketch.Files.Disk

set_option autoImplicit false

namespace ClassSketch.Files

/-- Folders of build output and restored packages, and hidden folders. -/
def skipsFolder (name : String) : Bool :=
  ["bin", "obj", "packages", "TestResults", "node_modules", "dist", "build"].contains name ||
    Text.startsWith name "."

def sortNames (names : List String) : List String :=
  names.mergeSort fun first second => decide (first ≤ second)

def sortByName {α : Type} (items : List (String × α)) : List (String × α) :=
  items.mergeSort fun first second => decide (first.1 ≤ second.1)

/-- What a walk sees, by the names from its top: the folders that it may list, and the links that
lead to folders. -/
structure View where
  lists : List String → Bool
  leads : List String → Bool

/-- The view of a walk that starts one folder below. -/
def View.below (view : View) (name : String) : View :=
  ⟨fun names => view.lists (name :: names), fun names => view.leads (name :: names)⟩

/-- A folder, or a link that leads to one. -/
def View.isFolder (view : View) : Entry → Bool
  | .folder .. => true
  | .file .. => false
  | .link name _ => view.leads [name]

/-- The names of the supported files of a folder. -/
def ownSources (view : View) (entries : List Entry) : List String :=
  (entries.filter fun entry => !view.isFolder entry && Language.isSupported entry.name).map
    Entry.name

mutual

/-- The supported files below an entry, as components from it: in each folder its own files by
name, then the folders in it by name. Links are not walked into, nor folders that are not listed. -/
def Entry.sources (view : View) : Entry → List (List String)
  | .file .. | .link .. => []
  | .folder _ entries =>
    if view.lists [] then
      (sortNames (ownSources view entries)).map ([·]) ++
        (sortByName (sourcesBelow view entries)).flatMap
          fun (name, inner) => inner.map (name :: ·)
    else []

def sourcesBelow (view : View) : List Entry → List (String × List (List String))
  | [] => []
  | entry :: rest =>
    if entry.isFolder && !skipsFolder entry.name then
      (entry.name, entry.sources (view.below entry.name)) :: sourcesBelow view rest
    else sourcesBelow view rest

end

namespace Disk

/-- Whether the system lists the folder at a path that is given as the text `shown`. -/
def lists (disk : Disk) (path : Path) (shown : String) : Bool :=
  match disk.target path shown false with
  | .ok location => (disk.rules.look .list location).isNone
  | .error _ => false

/-- Whether a folder stands at a path, so far as the system tells. -/
def leads (disk : Disk) (path : Path) (shown : String) : Bool :=
  match disk.seen path shown with
  | .ok standing => standing == some .folder
  | .error _ => false

/-- What a walk from a path sees. It gives the folders as texts that grow from that of the path. -/
def view (disk : Disk) (top : Path) : View where
  lists names := disk.lists (top.below names) (Path.walkText top.toText names)
  leads names := disk.leads (top.below names) (Path.walkText top.toText names)

/-- The sources below a path, none when no folder stands there. -/
def found (disk : Disk) (top : Path) : List (List String) :=
  match disk.locate top false with
  | .ok location =>
    match disk.root.get? location with
    | some entry => entry.sources (disk.view top)
    | none => []
  | .error _ => []

def sources (disk : Disk) (top : Path) : Except Fault (List (List String)) :=
  if hasNull top then .error .nullByte else .ok (disk.found top)

end Disk

end ClassSketch.Files
