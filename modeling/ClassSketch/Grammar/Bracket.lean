import ClassSketch.Grammar.Lexer

set_option autoImplicit false

namespace ClassSketch.Grammar

inductive Bracket where
  | brace
  | round
  | square
  deriving DecidableEq, Repr, Inhabited

def Bracket.all : List Bracket := [.brace, .round, .square]

def Bracket.opening : Bracket → String
  | .brace => "\x7b"
  | .round => "("
  | .square => "["

def Bracket.closing : Bracket → String
  | .brace => "\x7d"
  | .round => ")"
  | .square => "]"

def Token.opens? (token : Token) : Option Bracket :=
  if token.kind == .symbol then Bracket.all.find? fun bracket => bracket.opening == token.text
  else none

def Token.closes? (token : Token) : Option Bracket :=
  if token.kind == .symbol then Bracket.all.find? fun bracket => bracket.closing == token.text
  else none

/-- Tokens grouped by brackets. A bracket without its partner stays a leaf. -/
inductive Tree where
  | leaf (token : Token)
  | group (bracket : Bracket) (opener : Token) (inside : List Tree) (closer : Token)
  deriving Inhabited

namespace Tree

def first : Tree → Token
  | .leaf token => token
  | .group _ opener _ _ => opener

def stop : Tree → Nat
  | .leaf token => token.stop
  | .group _ _ _ closer => closer.stop

def isSymbol (tree : Tree) (text : String) : Bool :=
  match tree with
  | .leaf token => token.isSymbol text
  | .group .. => false

def isWord (tree : Tree) (text : String) : Bool :=
  match tree with
  | .leaf token => token.isWord text
  | .group .. => false

def isAnyWord : Tree → Bool
  | .leaf token => token.kind == .word
  | .group .. => false

def isOneOf (tree : Tree) (words : List String) : Bool :=
  match tree with
  | .leaf token => token.kind == .word && words.contains token.text
  | .group .. => false

def isIdentifier : Tree → Bool
  | .leaf token => token.isIdentifier
  | .group .. => false

def isStray : Tree → Bool
  | .leaf token => token.kind == .stray
  | .group .. => false

/-- A bracket without its partner. -/
def isLoneOpening : Tree → Bool
  | .leaf token => token.opens?.isSome
  | .group .. => false

def isLoneClosing : Tree → Bool
  | .leaf token => token.closes?.isSome
  | .group .. => false

def isGroup (tree : Tree) (bracket : Bracket) : Bool :=
  match tree with
  | .leaf _ => false
  | .group found _ _ _ => found == bracket

def inside : Tree → List Tree
  | .leaf _ => []
  | .group _ _ inside _ => inside

end Tree

/-- A bracket that waits for its partner, with what stands before it, the last tree first. -/
structure Frame where
  bracket : Bracket
  opener : Token
  before : List Tree

/-- Gives up a bracket: it becomes a leaf. -/
def Frame.release (frame : Frame) (inner : List Tree) : List Tree :=
  inner ++ .leaf frame.opener :: frame.before

/-- Closes the innermost bracket of the kind. Brackets inside it that are still open are given up. A
round or square bracket does not close across a brace. -/
def close (bracket : Bracket) (closer : Token) :
    List Frame → List Tree → Option (List Frame × List Tree)
  | [], _ => none
  | frame :: outer, inner =>
    if frame.bracket = bracket then
      some (outer, .group bracket frame.opener inner.reverse closer :: frame.before)
    else if frame.bracket = .brace then none
    else close bracket closer outer (frame.release inner)

def releaseAll : List Frame → List Tree → List Tree
  | [], inner => inner
  | frame :: outer, inner => releaseAll outer (frame.release inner)

/-- Groups tokens by brackets. `inner` holds the trees since the last open bracket, the last one
first. -/
def nest (frames : List Frame) (inner : List Tree) : List Token → List Tree
  | [] => (releaseAll frames inner).reverse
  | token :: rest =>
    match token.opens?, token.closes? with
    | some bracket, _ => nest (⟨bracket, token, inner⟩ :: frames) [] rest
    | none, some bracket =>
      match close bracket token frames inner with
      | some (outer, trees) => nest outer trees rest
      | none => nest frames (.leaf token :: inner) rest
    | none, none => nest frames (.leaf token :: inner) rest

def trees (text : String) : List Tree := nest [] [] (tokens text)

end ClassSketch.Grammar
