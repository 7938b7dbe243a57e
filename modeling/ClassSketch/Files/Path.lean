import ClassSketch.Text.Affix
import ClassSketch.Text.Quoted

set_option autoImplicit false

namespace ClassSketch.Files

/-- Where a path starts. Two leading slashes, and no more, are kept apart from one. -/
inductive Anchor where
  | working
  | root
  | doubleRoot
  deriving DecidableEq, Repr

def Anchor.text : Anchor → String
  | .working => ""
  | .root => "/"
  | .doubleRoot => "//"

/-- The location where the components behind an anchor start, for one who stands at `here`. -/
def Anchor.start (here : List String) : Anchor → List String
  | .working => here
  | .root | .doubleRoot => []

/-- A path without empty and `.` components. Components `..` stay. -/
structure Path where
  anchor : Anchor
  parts : List String
  deriving DecidableEq, Repr

namespace Path

def anchorOf : List Char → Anchor
  | '/' :: '/' :: '/' :: _ => .root
  | '/' :: '/' :: _ => .doubleRoot
  | '/' :: _ => .root
  | _ => .working

def ofText (text : String) : Path :=
  ⟨anchorOf text.toList,
    (Text.splitAtChar '/' text).filter fun part => part != "" && part != "."⟩

def toText (path : Path) : String :=
  if path.anchor = .working ∧ path.parts = [] then "."
  else path.anchor.text ++ Text.joinWith "/" path.parts

/-- The last component, empty when there is none. -/
def name (path : Path) : String := path.parts.getLast?.getD ""

def parent (path : Path) : Path := { path with parts := path.parts.dropLast }

def child (path : Path) (name : String) : Path := { path with parts := path.parts ++ [name] }

def below (path : Path) (parts : List String) : Path := { path with parts := path.parts ++ parts }

/-- The text of a name in a folder that is given as a text. -/
def joinText (folder name : String) : String :=
  if folder = "" ∨ Text.endsWith folder "/" = true then folder ++ name else folder ++ "/" ++ name

/-- The text under which a walk reaches a folder, from the text of the top. -/
def walkText (top : String) (folders : List String) : String := folders.foldl joinText top

/-- The part of a name before its suffix. A dot that begins or ends the name starts no suffix. -/
def stemOf (name : String) : String :=
  let reversed := name.toList.reverse
  let suffix := reversed.takeWhile fun c => c != '.'
  let stem := (reversed.dropWhile fun c => c != '.').tail
  if suffix.isEmpty || stem.isEmpty then name else String.ofList stem.reverse

/-- The path with the suffix of its name replaced, unless it has no name. -/
def withSuffix? (path : Path) (suffix : String) : Option Path :=
  if path.parts = [] then none
  else some ((path.parent).child (stemOf path.name ++ suffix))

def emptyNameMessage (path : Path) : String :=
  "PosixPath(" ++ Text.quoted path.toText ++ ") has an empty name"

end Path

end ClassSketch.Files
