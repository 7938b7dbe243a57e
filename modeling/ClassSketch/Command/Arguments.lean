import ClassSketch.Files.Path
import ClassSketch.Log
import ClassSketch.Text.Numeral

set_option autoImplicit false

namespace ClassSketch.Command

open ClassSketch.Files

inductive Flag where
  | help
  | directory
  | indent
  | tab
  | logLevel
  deriving DecidableEq, Repr

namespace Flag

def all : List Flag := [.help, .directory, .indent, .tab, .logLevel]

def long : Flag → String
  | .help => "--help"
  | .directory => "--dir"
  | .indent => "--indent"
  | .tab => "--tab"
  | .logLevel => "--log-level"

def title : Flag → String
  | .help => "-h/--help"
  | flag => flag.long

def takesValue : Flag → Bool
  | .indent | .logLevel => true
  | _ => false

end Flag

/-- What the arguments ask for. -/
structure Options where
  input : Path
  output : Option Path
  directory : Bool
  indent : Option Int
  tab : Bool
  logLevel : Log.Level
  deriving DecidableEq, Repr

inductive Refusal where
  | ambiguous (argument : String) (matching : List Flag)
  | ignoredValue (flag : Flag) (value : String)
  | missingValue (flag : Flag)
  | notInteger (flag : Flag) (value : String)
  | notLevel (value : String)
  | conflict (flag other : Flag)
  | missingInput
  | unrecognized (arguments : List String)
  deriving DecidableEq, Repr

def Refusal.message : Refusal → String
  | .ambiguous argument matching =>
    "ambiguous option: " ++ argument ++ " could match " ++
      Text.joinWith ", " (matching.map Flag.long)
  | .ignoredValue flag value =>
    "argument " ++ flag.title ++ ": ignored explicit argument " ++ Text.quoted value
  | .missingValue flag => "argument " ++ flag.title ++ ": expected one argument"
  | .notInteger flag value =>
    "argument " ++ flag.title ++ ": invalid int value: " ++ Text.quoted value
  | .notLevel value =>
    "argument --log-level: invalid choice: " ++ Text.quoted value ++ " (choose from " ++
      Text.joinWith ", " (Log.Level.all.map fun level => Text.quoted level.label) ++ ")"
  | .conflict flag other =>
    "argument " ++ flag.title ++ ": not allowed with argument " ++ other.title
  | .missingInput => "the following arguments are required: input"
  | .unrecognized arguments => "unrecognized arguments: " ++ Text.joinWith " " arguments

/-- What one argument is. -/
inductive Word where
  | plain (text : String)
  /-- The first `--`, after which all arguments are plain. -/
  | divider
  /-- A flag, with a value joined to it by an equals sign. -/
  | flag (flag : Flag) (value : Option String)
  /-- The short help flag with more letters behind it. -/
  | helpCluster (letters : List Char)
  /-- An argument in the form of a flag that names none. -/
  | unknown (text : String)
  deriving DecidableEq, Repr

/-- The text around the first equals sign. -/
def splitAssignment (text : List Char) : Option (List Char × List Char) :=
  if text.contains '=' then
    some (text.takeWhile (fun c => c != '='), (text.dropWhile fun c => c != '=').tail)
  else none

def isDigitChar (c : Char) : Bool := (Text.digitValue? c).isSome

/-- A minus sign before digits, with at most one point among them and a digit last. A line feed may
follow. -/
def looksNegative (text : List Char) : Bool :=
  match text with
  | '-' :: rest =>
    let body := if rest.getLast? == some '\n' then rest.dropLast else rest
    let whole := body.takeWhile isDigitChar
    match body.dropWhile isDigitChar with
    | [] => !whole.isEmpty
    | '.' :: fraction => !fraction.isEmpty && fraction.all isDigitChar
    | _ => false
  | _ => false

def exactFlag? (text : List Char) : Option Flag :=
  if text = ['-', 'h'] then some .help
  else Flag.all.find? fun flag => flag.long.toList == text

/-- The flags whose long form begins with a text. -/
def flagsFrom (opening : List Char) : List Flag :=
  Flag.all.filter fun flag => opening.isPrefixOf flag.long.toList

def withoutFlag (text : List Char) : Word :=
  if looksNegative text || text.contains ' ' then .plain (String.ofList text)
  else .unknown (String.ofList text)

/-- A long form may be cut short as long as it fits one flag. -/
def abbreviated (text : List Char) : Except Refusal Word :=
  let (opening, value) := match splitAssignment text with
    | some (opening, value) => (opening, some (String.ofList value))
    | none => (text, none)
  match flagsFrom opening with
  | [flag] => .ok (.flag flag value)
  | [] => .ok (withoutFlag text)
  | matching => .error (.ambiguous (String.ofList text) matching)

/-- Reads one argument before the divider. -/
def classify (text : String) : Except Refusal Word :=
  match text.toList with
  | [] => .ok (.plain text)
  | '-' :: rest =>
    match exactFlag? ('-' :: rest) with
    | some flag => .ok (.flag flag none)
    | none =>
      match rest with
      | [] => .ok (.plain text)
      | second :: others =>
        let assigned := (splitAssignment ('-' :: rest)).bind fun (opening, value) =>
          (exactFlag? opening).map fun flag => (flag, String.ofList value)
        match assigned with
        | some (flag, value) => .ok (.flag flag (some value))
        | none =>
          if second = '-' then abbreviated ('-' :: rest)
          else if second = 'h' then .ok (.helpCluster others)
          else .ok (withoutFlag ('-' :: rest))
  | _ => .ok (.plain text)

def classifyAll : List String → Except Refusal (List Word)
  | [] => .ok []
  | text :: rest =>
    if text = "--" then .ok (.divider :: rest.map .plain)
    else do
      let word ← classify text
      let words ← classifyAll rest
      return word :: words

/-- What has been read so far. -/
structure Draft where
  input : Option Path
  output : Option Path
  directory : Bool
  indent : Option Int
  tab : Bool
  logLevel : Log.Level
  extras : List String

inductive Ending where
  | options (options : Options)
  | help
  | refused (refusal : Refusal)
  deriving DecidableEq, Repr

/-- An indent width and tabs exclude each other. -/
def Draft.giveIndent (draft : Draft) (value : String) : Except Refusal Draft :=
  match Text.readInteger? value with
  | none => .error (.notInteger .indent value)
  | some width =>
    if draft.tab then .error (.conflict .indent .tab)
    else .ok { draft with indent := some width }

def Draft.giveTab (draft : Draft) : Except Refusal Draft :=
  if draft.indent.isSome then .error (.conflict .tab .indent) else .ok { draft with tab := true }

def Draft.giveLevel (draft : Draft) (value : String) : Except Refusal Draft :=
  match Log.Level.ofLabel? value with
  | some level => .ok { draft with logLevel := level }
  | none => .error (.notLevel value)

/-- Gives a flag its value. -/
def Draft.give (draft : Draft) (flag : Flag) (value : String) : Except Refusal Draft :=
  match flag with
  | .indent => draft.giveIndent value
  | .logLevel => draft.giveLevel value
  | _ => .error (.ignoredValue flag value)

/-- Sets a flag that stands alone. -/
def Draft.set (draft : Draft) (flag : Flag) : Except Refusal Draft :=
  match flag with
  | .directory => .ok { draft with directory := true }
  | .tab => draft.giveTab
  | _ => .error (.missingValue flag)

/-- Letters behind the short help flag are flags themselves. A value is refused, and the first
letter that is no help flag ends the cluster. -/
def clusterEnding : List Char → Ending
  | '-' :: rest => .refused (.ignoredValue .help (String.ofList ('-' :: rest)))
  | 'h' :: '=' :: value => .refused (.ignoredValue .help (String.ofList value))
  | 'h' :: rest => clusterEnding rest
  | _ => .help

def Draft.finish (draft : Draft) : Ending :=
  match draft.input with
  | none => .refused .missingInput
  | some input =>
    if draft.extras.isEmpty then
      .options ⟨input, draft.output, draft.directory, draft.indent, draft.tab, draft.logLevel⟩
    else .refused (.unrecognized draft.extras)

def Draft.addExtra (draft : Draft) (text : String) : Draft :=
  { draft with extras := draft.extras ++ [text] }

/-- Reads the words in order. The output is only taken right behind the input. -/
def read (draft : Draft) : List Word → Ending
  | [] => draft.finish
  | .helpCluster letters :: _ => clusterEnding letters
  | .flag .help none :: _ => .help
  | .flag flag (some value) :: rest =>
    match draft.give flag value with
    | .ok next => read next rest
    | .error refusal => .refused refusal
  | .flag flag none :: rest =>
    if flag.takesValue then
      match rest with
      | .plain value :: others =>
        match draft.give flag value with
        | .ok next => read next others
        | .error refusal => .refused refusal
      | _ => .refused (.missingValue flag)
    else
      match draft.set flag with
      | .ok next => read next rest
      | .error refusal => .refused refusal
  | .unknown text :: rest => read (draft.addExtra text) rest
  | .plain text :: rest =>
    if draft.input.isSome then read (draft.addExtra text) rest
    else
      let taken := { draft with input := some (Path.ofText text) }
      match rest with
      | .plain output :: .divider :: others =>
        read { taken with output := some (Path.ofText output) } others
      | .plain output :: others => read { taken with output := some (Path.ofText output) } others
      | .divider :: .plain output :: others =>
        read (if output = "--" then taken
          else { taken with output := some (Path.ofText output) }) others
      | .divider :: others => read taken others
      | others => read taken others
  | .divider :: .plain text :: rest =>
    if draft.input.isSome then read ((draft.addExtra "--").addExtra text) rest
    else
      let taken := { draft with input := some (Path.ofText text) }
      match rest with
      | .plain output :: others =>
        read (if output = "--" then taken
          else { taken with output := some (Path.ofText output) }) others
      | others => read taken others
  | .divider :: rest => read (draft.addExtra "--") rest
termination_by words => words.length

/-- Reads the arguments of a command line. -/
def arguments (logLevel : Log.Level) (texts : List String) : Ending :=
  match classifyAll texts with
  | .ok words => read ⟨none, none, false, none, false, logLevel, []⟩ words
  | .error refusal => .refused refusal

end ClassSketch.Command
