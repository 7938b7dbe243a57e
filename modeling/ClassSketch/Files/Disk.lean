import ClassSketch.Files.Entry
import ClassSketch.Files.Fault

set_option autoImplicit false

namespace ClassSketch.Files

/-- The names of a disk, and the bytes of its files by their numbers. -/
structure Stored where
  root : Entry
  contents : Nat → List UInt8
  deriving Inhabited

/-- Going to a name from its folder, listing a folder, opening a file to read it. -/
inductive Access where
  | reach
  | list
  | read
  deriving DecidableEq, Repr

/-- Opening a file to write it, making a folder. -/
inductive Change where
  | write
  | folder
  deriving DecidableEq, Repr

/-- What a system refuses: paths of more bytes than so many, looks at locations, changes there, and
to write all of a content once the file is open. The last two may depend on all that is stored. -/
structure Rules where
  longest : Nat
  longest_pos : 0 < longest
  look : Access → List String → Option Refusal
  change : Stored → Change → List String → Option Refusal
  stop : Stored → List String → List UInt8 → Option (Nat × Refusal)

/-- The last component of a location. -/
def lastName (location : List String) : String := location.getLast?.getD ""

/-- A system that refuses names of more than 255 bytes and paths of more than 4095. -/
def Rules.ordinary : Rules where
  longest := 4095
  longest_pos := by decide
  look access location :=
    if access = .reach ∧ 255 < (lastName location).utf8ByteSize then some .nameTooLong else none
  change _ _ _ := none
  stop _ _ _ := none

/-- A file system, the folder that relative paths start from, and what the system refuses. -/
structure Disk extends Stored where
  working : List String
  rules : Rules

namespace Disk

def standing? (disk : Disk) (location : List String) : Option Standing :=
  disk.root.standing? location

def link? (disk : Disk) (location : List String) : Option Path :=
  match disk.standing? location with
  | some (.link target) => some target
  | _ => none

/-- Follows components from a location. All of them but the last must be folders, or links, which
`jump` follows. A link at the end may be kept. -/
def followWith (disk : Disk) (keep : Bool)
    (jump : List String → List String → Except Cause (List String)) (here : List String) :
    List String → Except Cause (List String)
  | [] => .ok here
  | part :: rest =>
    match disk.standing? here with
    | none => .error .notFound
    | some (.file _) | some (.link _) => .error .notFolder
    | some .folder =>
      match disk.rules.look .reach (here ++ [part]) with
      | some refusal => .error (.refused refusal)
      | none =>
        if part = ".." then disk.followWith keep jump here.dropLast rest
        else match disk.link? (here ++ [part]) with
          | none => disk.followWith keep jump (here ++ [part]) rest
          | some target =>
            if keep && rest.isEmpty then .ok (here ++ [part])
            else jump (target.anchor.start here) (target.parts ++ rest)

/-- Follows components and so many links. -/
def follow (disk : Disk) (keep : Bool) :
    Nat → List String → List String → Except Cause (List String)
  | 0 => disk.followWith keep fun _ _ => .error .tooManyLinks
  | links + 1 => disk.followWith keep (disk.follow keep links)

/-- How many links a path may lead through. -/
def linkLimit : Nat := 40

/-- The location that a path names, which may be free. -/
def locate (disk : Disk) (path : Path) (keep : Bool) : Except Cause (List String) :=
  disk.follow keep linkLimit (path.anchor.start disk.working) path.parts

def hasNull (path : Path) : Bool := path.parts.any fun part => part.toList.contains (Char.ofNat 0)

/-- The location of a path for a request that gives it as the text `shown`. -/
def target (disk : Disk) (path : Path) (shown : String) (keep : Bool) :
    Except Fault (List String) :=
  if hasNull path then .error .nullByte
  else if disk.rules.longest < shown.utf8ByteSize then
    .error (.system (.refused .nameTooLong) shown)
  else match disk.locate path keep with
    | .ok location => .ok location
    | .error cause => .error (.system cause shown)

/-- What stands at a path, to one who asks. -/
def seen (disk : Disk) (path : Path) (shown : String) : Except Fault (Option Standing) :=
  match disk.target path shown false with
  | .ok location => .ok (disk.standing? location)
  | .error fault => if fault.meansAbsent then .ok none else .error fault

def isFolder (disk : Disk) (path : Path) : Except Fault Bool :=
  (disk.seen path path.toText).map fun standing => standing == some .folder

def isFile (disk : Disk) (path : Path) : Except Fault Bool :=
  (disk.seen path path.toText).map fun standing =>
    match standing with
    | some (.file _) => true
    | _ => false

def read (disk : Disk) (path : Path) (shown : String) : Except Fault (List UInt8) := do
  let location ← disk.target path shown false
  match disk.standing? location with
  | none => .error (.system .notFound shown)
  | some standing =>
    match disk.rules.look .read location, standing with
    | some refusal, _ => .error (.system (.refused refusal) shown)
    | none, .file number => .ok (disk.contents number)
    | none, _ => .error (.system .isFolder shown)

def put (disk : Disk) (location : List String) (make : String → Entry) : Disk :=
  { disk with root := disk.root.put (make (lastName location)) location }

/-- Gives a file other bytes, under all its names. -/
def fill (disk : Disk) (number : Nat) (content : List UInt8) : Disk :=
  { disk with contents := fun other => if other = number then content else disk.contents other }

/-- The file at a location, empty, and a new one where none stood. -/
def emptied (disk : Disk) (location : List String) : Disk × Nat :=
  match disk.standing? location with
  | some (.file number) => (disk.fill number [], number)
  | _ =>
    let number := disk.root.fresh
    ((disk.put location fun name => .file name number).fill number [], number)

/-- Empties the file at a path whose folder exists, or makes it, and writes to it. The system may
stop before all is written. -/
def write (disk : Disk) (path : Path) (content : List UInt8) : Disk × Except Fault Unit :=
  let shown := path.toText
  match disk.target path shown false with
  | .error fault => (disk, .error fault)
  | .ok location =>
    match disk.standing? location with
    | some .folder | some (.link _) => (disk, .error (.system .isFolder shown))
    | none | some (.file _) =>
      match disk.rules.change disk.toStored .write location with
      | some refusal => (disk, .error (.system (.refused refusal) shown))
      | none =>
        let (opened, number) := disk.emptied location
        match disk.rules.stop opened.toStored location content with
        | none => (opened.fill number content, .ok ())
        | some (count, refusal) =>
          (opened.fill number (content.take count), .error (.interrupted refusal))

/-- Makes a folder in a folder that exists. -/
def makeFolder (disk : Disk) (path : Path) : Except Fault Disk := do
  let location ← disk.target path path.toText true
  match disk.standing? location with
  | some _ => .error (.system .alreadyExists path.toText)
  | none =>
    match disk.rules.change disk.toStored .folder location with
    | some refusal => .error (.system (.refused refusal) path.toText)
    | none => .ok (disk.put location fun name => .folder name [])

/-- A folder that is already there is as good as a new one. -/
def makeOrKeep (disk : Disk) (path : Path) : Disk × Except Fault Unit :=
  match disk.makeFolder path with
  | .ok made => (made, .ok ())
  | .error .nullByte => (disk, .error .nullByte)
  | .error (.system .notFound shown) => (disk, .error (.system .notFound shown))
  | .error fault =>
    match disk.isFolder path with
    | .ok true => (disk, .ok ())
    | .ok false => (disk, .error fault)
    | .error other => (disk, .error other)

/-- Makes a folder and the folders above it. Folders made before a refusal stay. -/
def ensureFolder (disk : Disk) (anchor : Anchor) (reversed : List String) :
    Disk × Except Fault Unit :=
  match disk.makeOrKeep ⟨anchor, reversed.reverse⟩ with
  | (kept, .error (.system .notFound shown)) =>
    match reversed with
    | [] => (kept, .error (.system .notFound shown))
    | last :: above =>
      match kept.ensureFolder anchor above with
      | (made, .ok ()) => made.makeOrKeep ⟨anchor, (last :: above).reverse⟩
      | refused => refused
  | done => done
termination_by reversed.length

def ensureFolderAt (disk : Disk) (path : Path) : Disk × Except Fault Unit :=
  disk.ensureFolder path.anchor path.parts.reverse

end Disk

end ClassSketch.Files
