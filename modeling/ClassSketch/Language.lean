import ClassSketch.Text.Affix
import ClassSketch.Text.Quoted

set_option autoImplicit false

namespace ClassSketch

/-- Source languages with a grammar. -/
inductive Language where
  | csharp
  deriving DecidableEq, Repr

namespace Language

def all : List Language := [.csharp]

def label : Language → String
  | .csharp => "csharp"

def extension : Language → String
  | .csharp => ".cs"

def lastComponent (path : List Char) : List Char :=
  (path.reverse.takeWhile fun c => c != '/').reverse

/-- The last dot of a file name and what follows it. Dots at the start of the name begin no
extension. -/
def extensionOf (path : List Char) : List Char :=
  let name := lastComponent path
  let ending := (name.reverse.takeWhile fun c => c != '.').reverse
  let stem := (name.reverse.dropWhile fun c => c != '.').tail
  if name.contains '.' && stem.any fun c => c != '.' then '.' :: ending else []

/-- The language of a path, by its extension in either letter case. -/
def ofPath? (path : String) : Option Language :=
  let found := (extensionOf path.toList).map Char.toLower
  all.find? fun language => language.extension.toList == found

def isSupported (path : String) : Bool := (ofPath? path).isSome

def ofLabel? (label : String) : Option Language :=
  all.find? fun language => language.label == label

def unknownMessage (label : String) : String :=
  "No parser for language " ++ Text.quoted label ++ "; known: [" ++
    Text.joinWith ", " (all.map fun language => Text.quoted language.label) ++ "]"

def unsupportedMessage (path : String) : String := "Unsupported file type: " ++ path

end Language

end ClassSketch
