import ClassSketch.Files.Disk
import ClassSketch.Grammar.Source
import ClassSketch.Report

set_option autoImplicit false

namespace ClassSketch.Convert

open ClassSketch.Files

/-- What reads the concrete tree of a source text. -/
abbrev Reader := String → Concrete.Node

/-- The report of a source text. -/
def reportWith (parse : Reader) (text filePath : String) : Report × List Log.Entry :=
  Report.ofTree text filePath (parse text)

def reportOf : String → String → Report × List Log.Entry := reportWith Grammar.parse

/-- A language given by its label, or else by the path. -/
def languageOf (filePath : String) : Option String → Except String Language
  | some label =>
    match Language.ofLabel? label with
    | some language => .ok language
    | none => .error (Language.unknownMessage label)
  | none =>
    match Language.ofPath? filePath with
    | some language => .ok language
    | none => .error (Language.unsupportedMessage filePath)

/-- The text of a file: broken bytes are replaced and every line end is a line feed. -/
def textOf (content : List UInt8) : String :=
  String.ofList (Text.unifyLineEnds (Text.Utf8.decode content))

/-- A path without the project folder in front of it and without the slashes that follow. -/
def relativePath (filePath projectRoot : String) : String :=
  if projectRoot ≠ "" ∧ Text.startsWith filePath projectRoot then
    String.ofList ((filePath.toList.drop projectRoot.length).dropWhile fun c => c == '/')
  else filePath

/-- The report of a file. A file that the system refuses to read has a report of its own, a path
without a language has none. -/
def reportOfFileWith (parse : Reader) (disk : Disk) (filePath projectRoot : String) :
    Except Fault (Report × List Log.Entry) :=
  if Language.isSupported filePath then
    let shown := relativePath filePath projectRoot
    match disk.read (Path.ofText filePath) filePath with
    | .ok content => .ok (reportWith parse (textOf content) shown)
    | .error (.system cause path) => .ok (Report.unread shown (Fault.system cause path).message, [])
    | .error fault => .error fault
  else .error (.unsupported filePath)

def reportOfFile : Disk → String → String → Except Fault (Report × List Log.Entry) :=
  reportOfFileWith Grammar.parse

end ClassSketch.Convert
