import ClassSketch.Files.Path
import ClassSketch.Language

set_option autoImplicit false

namespace ClassSketch.Files

/-- Why a system refuses what could be done otherwise: an error number, none of those that have a
cause of their own, with its text. -/
structure Refusal where
  number : Nat
  text : String
  apart : number ∉ [2, 9, 17, 20, 21, 40]
  deriving DecidableEq, Repr

namespace Refusal

def denied : Refusal := ⟨13, "Permission denied", by decide⟩

def nameTooLong : Refusal := ⟨36, "File name too long", by decide⟩

end Refusal

/-- Why the file system does not do what it is asked. -/
inductive Cause where
  | notFound
  | alreadyExists
  | notFolder
  | isFolder
  | tooManyLinks
  | refused (refusal : Refusal)
  deriving DecidableEq, Repr

def Cause.text : Cause → String
  | .notFound => "[Errno 2] No such file or directory"
  | .alreadyExists => "[Errno 17] File exists"
  | .notFolder => "[Errno 20] Not a directory"
  | .isFolder => "[Errno 21] Is a directory"
  | .tooManyLinks => "[Errno 40] Too many levels of symbolic links"
  | .refused refusal => "[Errno " ++ toString refusal.number ++ "] " ++ refusal.text

/-- Why a file cannot be converted. -/
inductive Fault where
  | system (cause : Cause) (path : String)
  | interrupted (refusal : Refusal)
  | nullByte
  | emptyName (path : Path)
  | unsupported (path : String)
  | hugeIndent
  deriving DecidableEq, Repr

namespace Fault

def message : Fault → String
  | .system cause path => cause.text ++ ": " ++ Text.quoted path
  | .interrupted refusal => (Cause.refused refusal).text
  | .nullByte => "embedded null byte"
  | .emptyName path => path.emptyNameMessage
  | .unsupported path => Language.unsupportedMessage path
  | .hugeIndent => "cannot fit 'int' into an index-sized integer"

/-- One who asks what stands at a path is told of these as if nothing stood there. -/
def meansAbsent : Fault → Bool
  | .nullByte | .system .notFound _ | .system .notFolder _ | .system .tooManyLinks _ => true
  | _ => false

end Fault

end ClassSketch.Files
