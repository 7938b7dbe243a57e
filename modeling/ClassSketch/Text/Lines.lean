set_option autoImplicit false

namespace ClassSketch.Text

/-- The characters that end a line of text. A carriage return and the line feed right after it
end one line together. -/
def isLineEnd (c : Char) : Bool :=
  let code := c.toNat
  (10 ≤ code && code ≤ 13) || (28 ≤ code && code ≤ 30) || code == 0x85 || code == 0x2028 ||
    code == 0x2029

/-- The lines of a text without their ends. A final line end opens no further line. -/
def splitLineChars : List Char → List (List Char)
  | [] => []
  | '\r' :: '\n' :: rest => [] :: splitLineChars rest
  | c :: rest =>
    if isLineEnd c then [] :: splitLineChars rest
    else match splitLineChars rest with
      | [] => [[c]]
      | line :: others => (c :: line) :: others

def splitLines (text : String) : List String :=
  (splitLineChars text.toList).map String.ofList

/-- Every carriage return, alone or before a line feed, becomes a line feed. -/
def unifyLineEnds : List Char → List Char
  | [] => []
  | '\r' :: '\n' :: rest => '\n' :: unifyLineEnds rest
  | c :: rest => (if c = '\r' then '\n' else c) :: unifyLineEnds rest

/-- The number of lines when only line feeds count, an unfinished last line included. -/
def lineCount (text : String) : Nat :=
  let chars := text.toList
  chars.count '\n' + (if chars.isEmpty || chars.getLast? == some '\n' then 0 else 1)

end ClassSketch.Text
