import ClassSketch.Command.Arguments
import ClassSketch.Files.Fault
import ClassSketch.Text.Capital

set_option autoImplicit false

namespace ClassSketch.Command

/-- The values of the two environment variables, when they are set. -/
structure Environment where
  logLevel : Option String
  indentSize : Option String
  deriving DecidableEq, Repr

def levelVariable : String := "CLASSLOOM_LOG_LEVEL"

def indentVariable : String := "CLASSLOOM_INDENT_SIZE"

/-- The level to log at when no argument names one, and a complaint about a value that names
none. -/
def Environment.level (environment : Environment) : Log.Level × Option String :=
  let label := Text.capitals (Text.strip (environment.logLevel.getD ""))
  if label = "" then (.info, none)
  else match Log.Level.ofLabel? label with
    | some level => (level, none)
    | none => (.info, some ("Ignoring unknown " ++ levelVariable ++ "=" ++ Text.quoted label))

def defaultIndent : Int := 4

/-- The indent width when no argument gives one, and a complaint about a value that is no
integer. -/
def Environment.indent (environment : Environment) : Int × Option String :=
  match environment.indentSize with
  | none => (defaultIndent, none)
  | some value =>
    if value = "" then (defaultIndent, none)
    else match Text.readInteger? value with
      | some width => (width, none)
      | none =>
        (defaultIndent,
          some ("Ignoring non-integer " ++ indentVariable ++ "=" ++ Text.quoted value))

/-- So many spaces, as far as a width can be counted. A negative width gives none. -/
def spaces (width : Int) : Except Files.Fault String :=
  if Int64.minValue.toInt ≤ width ∧ width ≤ Int64.maxValue.toInt then
    .ok (String.ofList (List.replicate width.toNat ' '))
  else .error .hugeIndent

/-- The text of one indent, and what is said about the environment on the way. -/
def indentText (options : Options) (environment : Environment) :
    Except Files.Fault String × List Log.Entry :=
  if options.tab then (.ok "\t", [])
  else match options.indent with
    | some width => (spaces width, [])
    | none =>
      let (width, complaint) := environment.indent
      (spaces width, complaint.toList.map fun message => ⟨.warning, .command, message⟩)

end ClassSketch.Command
