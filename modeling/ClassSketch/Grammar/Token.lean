set_option autoImplicit false

namespace ClassSketch.Grammar

/-- A place in a source: its byte offset and its row, both counted from zero. -/
structure Position where
  offset : Nat
  row : Nat
  deriving DecidableEq, Repr, Inhabited

def Position.next (position : Position) (c : Char) : Position :=
  ⟨position.offset + c.utf8Size, if c = '\n' then position.row + 1 else position.row⟩

def Position.after (position : Position) (text : List Char) : Position :=
  text.foldl Position.next position

inductive TokenKind where
  | word
  | integer
  | real
  | string
  | verbatimString
  | rawString
  | interpolatedString
  | character
  | symbol
  | comment
  | directive (name : String)
  /-- Characters that begin no token. -/
  | stray
  deriving DecidableEq, Repr, Inhabited

/-- A note between tokens, such as a comment, that the tree holds as a node of its own. -/
structure Note where
  type : String
  start : Position
  stop : Nat
  extra : Bool
  deriving DecidableEq, Repr, Inhabited

structure Token where
  kind : TokenKind
  text : String
  start : Position
  /-- The byte offset behind the token. -/
  stop : Nat
  /-- What stands between the token before and this one. -/
  notes : List Note
  deriving DecidableEq, Repr, Inhabited

def Token.isSymbol (token : Token) (text : String) : Bool :=
  token.kind == .symbol && token.text == text

def Token.isWord (token : Token) (text : String) : Bool := token.kind == .word && token.text == text

/-- Words that name nothing, predefined types included. -/
def reservedWords : List String := [
  "abstract", "as", "base", "bool", "break", "byte", "case", "catch", "char", "checked", "class",
  "const", "continue", "decimal", "default", "delegate", "do", "double", "else", "enum", "event",
  "explicit", "extern", "false", "finally", "fixed", "float", "for", "foreach", "goto", "if",
  "implicit", "in", "int", "interface", "internal", "is", "lock", "long", "namespace", "new",
  "null", "object", "operator", "out", "override", "params", "private", "protected", "public",
  "readonly", "ref", "return", "sbyte", "sealed", "short", "sizeof", "stackalloc", "static",
  "string", "struct", "switch", "this", "throw", "true", "try", "typeof", "uint", "ulong",
  "unchecked", "unsafe", "ushort", "using", "virtual", "void", "volatile", "while"]

def predefinedTypes : List String := [
  "bool", "byte", "char", "decimal", "double", "float", "int", "long", "object", "sbyte", "short",
  "string", "uint", "ulong", "ushort", "void"]

def Token.isIdentifier (token : Token) : Bool :=
  token.kind == .word && !reservedWords.contains token.text

end ClassSketch.Grammar
