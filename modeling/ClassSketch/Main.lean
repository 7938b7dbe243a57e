import ClassSketch.Command.Run

set_option autoImplicit false

namespace ClassSketch

open ClassSketch.Files

/-- No path of the system has room for more components. -/
def deepest : Nat := 4096

def systemPath (location : List String) : String := "/" ++ Text.joinWith "/" location

/-- What is taken in from the system, with the bytes of the files by their numbers. -/
abbrev Taking := StateT (Array (List UInt8)) IO

def takeFile (name : String) (bytes : List UInt8) : Taking Entry := do
  let number := (← get).size
  modify fun files => files.push bytes
  return .file name number

/-- Takes in what stands at a location of the system, down to some levels below it. Only sources
are ever read, so other files are taken in without their bytes. Links are taken for what they lead
to. -/
def takeIn (location : List String) (levels : Nat) : Taking (Option Entry) := do
  let path := (← IO.currentDir) / systemPath location
  let name := lastName location
  if ← path.isDir then
    match levels with
    | 0 => return some (.folder name [])
    | levels + 1 =>
      let children ← path.readDir
      let entries ← children.toList.filterMapM fun child =>
        takeIn (location ++ [child.fileName]) (if skipsFolder child.fileName then 0 else levels)
      return some (.folder name entries)
  else if ← path.pathExists then
    let bytes ← if Language.isSupported name then IO.FS.readBinFile path else pure .empty
    return some (← takeFile name bytes.toList)
  else return none
termination_by levels
decreasing_by split <;> omega

/-- Takes in a location. What is known is enough unless levels below it are asked for. -/
def adopt (root : Entry) (location : List String) (levels : Nat) : Taking Entry := do
  if levels = 0 && (root.standing? location).isSome then return root
  match ← takeIn location levels with
  | some entry => return root.put entry location
  | none => return root

/-- Takes in every location that the components of a path pass, and what its end holds. -/
def adoptAlong (root : Entry) (here : List String) (levels : Nat) : List String → Taking Entry
  | [] => adopt root here levels
  | part :: rest => do
    let known ← adopt root here 0
    adoptAlong known (if part = ".." then here.dropLast else here ++ [part]) levels rest

def adoptPath (root : Entry) (working : List String) (path : Path) (levels : Nat) :
    Taking Entry :=
  adoptAlong root (path.anchor.start working) levels path.parts

/-- The part of the system that a run may look at. The output comes first, so that what the input
holds is not taken for shallow again. -/
def rootFor (working : List String) (options : Command.Options) : Taking Entry := do
  let above ← adoptAlong (.folder "" []) [] 0 working
  let withOutput ← match options.output with
    | some output => adoptPath above working output (if options.directory then deepest else 1)
    | none => pure above
  adoptPath withOutput working options.input (if options.directory then deepest else 0)

def diskFor (options : Command.Options) : IO Disk := do
  let working := (Path.ofText (← IO.currentDir).toString).parts
  let (root, files) ← (rootFor working options).run #[]
  return { root, contents := fun number => files[number]?.getD [], working, rules := .ordinary }

/-- Writes the files that a run made or changed. -/
def writeChanges (before after : Disk) : IO Unit := do
  for (location, number) in after.root.files do
    let bytes := after.contents number
    if before.standing? location ≠ some (.file number) ∨ before.contents number ≠ bytes then
      IO.FS.createDirAll (systemPath location.dropLast)
      IO.FS.writeBinFile (systemPath location) ⟨bytes.toArray⟩

def environment : IO Command.Environment := do
  return ⟨← IO.getEnv Command.levelVariable, ← IO.getEnv Command.indentVariable⟩

end ClassSketch

open ClassSketch in
/-- Runs with the arguments of the command line. -/
def main (texts : List String) : IO UInt32 := do
  let environment ← environment
  let disk ← match Command.arguments environment.level.1 texts with
    | .options options => diskFor options
    | _ =>
      pure { root := .folder "" [], contents := fun _ => [], working := [], rules := .ordinary }
  let answer := Command.run disk texts environment
  IO.print answer.output
  IO.eprint answer.complaints
  writeChanges disk answer.disk
  match answer.status with
  | .ok status => return status.toUInt32
  | .error fault =>
    IO.eprintln fault.message
    return 1
