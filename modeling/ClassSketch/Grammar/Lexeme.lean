import ClassSketch.Grammar.Token

set_option autoImplicit false

namespace ClassSketch.Grammar

/-- White space between tokens. -/
def isSpace (c : Char) : Bool :=
  let code := c.toNat
  (9 ≤ code && code ≤ 13) || code == 32 || code == 0xA0 || code == 0xFEFF || code == 0x3000

/-- Every character outside ASCII that is no white space may stand in a word. -/
def startsWord (c : Char) : Bool := c.isAlpha || c == '_' || (c.toNat > 127 && !isSpace c)

def isWordChar (c : Char) : Bool := startsWord c || c.isDigit

def run (p : Char → Bool) (text : List Char) : Nat := (text.takeWhile p).length

/-- Characters that continue a word. A character may be written by its code. -/
def wordLength : List Char → Nat
  | [] => 0
  | '\\' :: 'u' :: rest => 2 + wordLength rest
  | '\\' :: 'U' :: rest => 2 + wordLength rest
  | c :: rest => if isWordChar c then 1 + wordLength rest else 0

def untilLineEnd (text : List Char) : Nat := run (fun c => c != '\n' && c != '\r') text

/-- The end of a block comment, counted from behind its opening. -/
def blockCommentLength? : List Char → Option Nat
  | [] => none
  | '*' :: '/' :: _ => some 2
  | _ :: rest => (blockCommentLength? rest).map (· + 1)

/-- The end of a string or character on one line, counted from behind its first quote. -/
def quotedLength? (quote : Char) : List Char → Option Nat
  | [] => none
  | '\\' :: _ :: rest => (quotedLength? quote rest).map (· + 2)
  | c :: rest =>
    if c = quote then some 1
    else if c = '\n' || c = '\r' then none
    else (quotedLength? quote rest).map (· + 1)

/-- The end of a string in which a quote is written twice. -/
def verbatimLength? : List Char → Option Nat
  | [] => none
  | '"' :: '"' :: rest => (verbatimLength? rest).map (· + 2)
  | '"' :: _ => some 1
  | _ :: rest => (verbatimLength? rest).map (· + 1)

/-- The end of a string that is closed by as many quotes as opened it. -/
def rawLength? (quotes seen : Nat) : List Char → Option Nat
  | [] => none
  | c :: rest =>
    if c = '"' then
      if seen + 1 = quotes then some 1 else (rawLength? quotes (seen + 1) rest).map (· + 1)
    else (rawLength? quotes 0 rest).map (· + 1)

def encodingLength : List Char → Nat
  | 'u' :: '8' :: _ => 2
  | 'U' :: '8' :: _ => 2
  | _ => 0

/-- The length of a string from behind its first quote, and its kind. -/
def stringLength? (text : List Char) : Option (TokenKind × Nat) :=
  let quotes := 1 + run (· == '"') text
  let (kind, length) :=
    if quotes = 2 then (TokenKind.string, some 1)
    else if quotes = 1 then (.string, quotedLength? '"' text)
    else (.rawString, (rawLength? quotes 0 (text.drop (quotes - 1))).map (· + (quotes - 1)))
  length.map fun count => (kind, count + encodingLength (text.drop count))

/-- Where the scan of an interpolated string stands. A raw string opens a hole with as many braces
as it has dollar signs and ends with as many quotes as opened it. -/
inductive Layer where
  | plain
  | verbatim
  | raw (dollars quotes : Nat)
  | hole (braces depth : Nat)

/-- One step inside an interpolated string: the layers after a character, and how many characters
behind it go with it. -/
def Layer.step (layer : Layer) (outer : List Layer) (c : Char) (rest : List Char) :
    List Layer × Nat :=
  match layer with
  | .plain =>
    if c = '"' then (outer, 0)
    else if c = '\\' then (layer :: outer, 1)
    else if c = '{' then
      if rest.head? == some '{' then (layer :: outer, 1) else (.hole 1 0 :: layer :: outer, 0)
    else (layer :: outer, 0)
  | .verbatim =>
    if c = '"' then
      if rest.head? == some '"' then (layer :: outer, 1) else (outer, 0)
    else if c = '{' then
      if rest.head? == some '{' then (layer :: outer, 1) else (.hole 1 0 :: layer :: outer, 0)
    else (layer :: outer, 0)
  | .raw dollars quotes =>
    if c = '"' then
      let more := run (· == '"') rest
      if more + 1 < quotes then (layer :: outer, more) else (outer, more)
    else if c = '{' then
      let more := run (· == '{') rest
      if more + 1 < dollars then (layer :: outer, more)
      else (.hole dollars 0 :: layer :: outer, more)
    else (layer :: outer, 0)
  | .hole braces depth =>
    if c = '}' then
      match depth with
      | 0 => (outer, braces - 1)
      | depth + 1 => (.hole braces depth :: outer, 0)
    else if c = '{' then (.hole braces (depth + 1) :: outer, 0)
    else if c = '\'' then (layer :: outer, (quotedLength? '\'' rest).getD 0)
    else if c = '@' && rest.head? == some '"' then
      (layer :: outer, 1 + (verbatimLength? rest.tail).getD 0)
    else if c = '$' || (c = '@' && rest.head? == some '$') then
      let dollars := run (fun other => other == '$') (c :: rest)
      let marks := run (fun other => other == '$' || other == '@') (c :: rest)
      let behind := (c :: rest).drop marks
      let quotes := run (· == '"') behind
      if quotes = 0 then (layer :: outer, 0)
      else if quotes = 2 then (layer :: outer, marks + 1)
      else if marks > dollars || c = '@' then (.verbatim :: layer :: outer, marks)
      else if quotes = 1 then (.plain :: layer :: outer, marks)
      else (.raw dollars quotes :: layer :: outer, marks + quotes - 1)
    else if c = '"' then
      match stringLength? rest with
      | some (_, count) => (layer :: outer, count)
      | none => (layer :: outer, 0)
    else if c = '/' && rest.head? == some '*' then
      (layer :: outer, 1 + (blockCommentLength? rest.tail).getD 0)
    else (layer :: outer, 0)

/-- The end of an interpolated string. The first `skipped` characters are not looked at. -/
def interpolatedLength? (layers : List Layer) (skipped : Nat) : List Char → Option Nat
  | [] => if layers.isEmpty && skipped = 0 then some 0 else none
  | c :: rest =>
    match skipped, layers with
    | skipped + 1, _ => (interpolatedLength? layers skipped rest).map (· + 1)
    | 0, [] => some 0
    | 0, layer :: outer =>
      let (next, more) := layer.step outer c rest
      (interpolatedLength? next more rest).map (· + 1)

/-- The length of an interpolated string from behind its first mark, a dollar or an at sign. -/
def interpolatedStart? (first : Char) (rest : List Char) : Option Nat :=
  let text := first :: rest
  let marks := run (fun c => c == '$' || c == '@') text
  let dollars := (text.take marks).count '$'
  let quotes := run (· == '"') (text.drop marks)
  if dollars = 0 || quotes = 0 then none
  else
    let isVerbatim := decide (dollars < marks)
    let opened := if isVerbatim || quotes < 3 then 1 else quotes
    let layer := if isVerbatim then Layer.verbatim
      else if quotes < 3 then .plain else .raw dollars quotes
    (interpolatedLength? [layer] 0 (text.drop (marks + opened))).map
      (· + (marks + opened - 1))

def isHexChar (c : Char) : Bool :=
  c.isDigit || ('a' ≤ c && c ≤ 'f') || ('A' ≤ c && c ≤ 'F') || c == '_'

def isDecimalChar (c : Char) : Bool := c.isDigit || c == '_'

def isIntegerSuffix (c : Char) : Bool := c == 'u' || c == 'U' || c == 'l' || c == 'L'

def isRealSuffix (c : Char) : Bool := ['f', 'F', 'd', 'D', 'm', 'M'].contains c

def exponentLength : List Char → Nat
  | e :: sign :: digit :: rest =>
    if e = 'e' || e = 'E' then
      if (sign = '+' || sign = '-') && digit.isDigit then 3 + run isDecimalChar rest
      else if sign.isDigit then 2 + run isDecimalChar (digit :: rest)
      else 0
    else 0
  | [e, digit] => if (e = 'e' || e = 'E') && digit.isDigit then 2 else 0
  | _ => 0

def fractionLength : List Char → Nat
  | '.' :: digit :: rest => if digit.isDigit then 2 + run isDecimalChar rest else 0
  | _ => 0

/-- The kind of a number and its whole length. -/
def numberLength (text : List Char) : TokenKind × Nat :=
  let prefixed (p : Char → Bool) : TokenKind × Nat :=
    let digits := 2 + run p (text.drop 2)
    (.integer, digits + run isIntegerSuffix (text.drop digits))
  match text with
  | '0' :: 'x' :: _ | '0' :: 'X' :: _ => prefixed isHexChar
  | '0' :: 'b' :: _ | '0' :: 'B' :: _ => prefixed isDecimalChar
  | _ =>
    let whole := run isDecimalChar text
    let fraction := fractionLength (text.drop whole)
    let exponent := exponentLength (text.drop (whole + fraction))
    let length := whole + fraction + exponent
    let suffix := text.drop length
    if suffix.head?.any isRealSuffix then (.real, length + 1)
    else if fraction + exponent > 0 then (.real, length)
    else (.integer, length + run isIntegerSuffix suffix)

/-- Symbols of several characters, the longer ones first. A greater sign always stands alone, since
it may close a list of types. -/
def longSymbols : List String := [
  "<<=", "??=", "=>", "==", "!=", "<=", "&&", "||", "??", "++", "--", "+=", "-=", "*=", "/=", "%=",
  "&=", "|=", "^=", "->", "::", "..", "<<"]

def shortSymbols : List Char := [
  '{', '}', '(', ')', '[', ']', ';', ',', '.', ':', '?', '+', '-', '*', '/', '%', '&', '|', '^',
  '!', '~', '=', '<', '>']

def symbolLength? (text : List Char) : Option Nat :=
  match longSymbols.find? fun symbol => symbol.toList.isPrefixOf text with
  | some symbol => some symbol.length
  | none => if text.head?.any fun c => shortSymbols.contains c then some 1 else none

def directiveNames : List String := [
  "if", "elif", "else", "endif", "region", "endregion", "define", "undef", "line", "pragma",
  "nullable", "error", "warning"]

/-- The name of a directive, read behind its number sign. -/
def directiveName? (rest : List Char) : Option String :=
  if rest.head? == some '!' then some "!"
  else
    let name := String.ofList ((rest.dropWhile fun c => c == ' ' || c == '\t').takeWhile isWordChar)
    if directiveNames.contains name then some name else none

def stray : TokenKind × Nat := (.stray, 1)

/-- The token at the start of a text: its kind and the number of its characters. -/
def lexeme (first : Char) (rest : List Char) : TokenKind × Nat :=
  let quoted (found : Option (TokenKind × Nat)) : TokenKind × Nat :=
    match found with
    | some (kind, count) => (kind, count + 1)
    | none => stray
  let symbol : TokenKind × Nat :=
    match symbolLength? (first :: rest) with
    | some count => (.symbol, count)
    | none => stray
  if first = '/' then
    match rest with
    | '/' :: _ => (.comment, 1 + untilLineEnd rest)
    | '*' :: inside =>
      match blockCommentLength? inside with
      | some count => (.comment, count + 2)
      | none => (.stray, 1 + rest.length)
    | _ => symbol
  else if first = '#' then
    match directiveName? rest with
    | some name => (.directive name, 1 + untilLineEnd rest)
    | none => stray
  else if first = '"' then quoted (stringLength? rest)
  else if first = '\'' then quoted ((quotedLength? '\'' rest).map fun count => (.character, count))
  else if first = '$' then
    quoted ((interpolatedStart? first rest).map fun count => (.interpolatedString, count))
  else if first = '@' then
    match rest with
    | '"' :: inside => quoted ((verbatimLength? inside).map fun count =>
        (.verbatimString, count + 1 + encodingLength (inside.drop count)))
    | '$' :: _ =>
      quoted ((interpolatedStart? first rest).map fun count => (.interpolatedString, count))
    | c :: _ => if startsWord c || c = '\\' then (.word, 1 + wordLength rest) else stray
    | [] => stray
  else if first.isDigit then numberLength (first :: rest)
  else if first = '.' && rest.head?.any Char.isDigit then numberLength (first :: rest)
  else if startsWord first then (.word, 1 + wordLength rest)
  else symbol

end ClassSketch.Grammar
