import ClassSketch.Grammar.Lexeme

set_option autoImplicit false

namespace ClassSketch.Grammar

/-- The tokens of a text, comments and directives among them. -/
def tokenize (position : Position) (text : List Char) : List Token :=
  match text with
  | [] => []
  | first :: rest =>
    if isSpace first then tokenize (position.next first) rest
    else
      let (kind, length) := lexeme first rest
      let behind := position.after (first :: rest.take (length - 1))
      let token : Token :=
        ⟨kind, String.ofList (first :: rest.take (length - 1)), position, behind.offset, []⟩
      token :: tokenize behind (rest.drop (length - 1))
termination_by text.length
decreasing_by
  · simp
  · simp only [List.length_drop, List.length_cons]
    omega

/-- What stands between two tokens: notes, and the start of the conditional part that is being
passed over, with the number of parts nested in it. -/
structure Gap where
  notes : List Note
  hidden : Option (Token × Nat)

def noteOf (type : String) (token : Token) : Note := ⟨type, token.start, token.stop, true⟩

/-- Moves comments and directives into the notes of the token after them. A conditional part is
passed over as a whole and leaves one note; one that is never closed is stray. -/
def settle (gap : Gap) : List Token → List Token
  | [] =>
    match gap.hidden with
    | some (opener, _) => [{ opener with kind := .stray, notes := gap.notes }]
    | none => []
  | token :: rest =>
    match gap.hidden with
    | some (opener, nested) =>
      match token.kind with
      | .directive "if" => settle ⟨gap.notes, some (opener, nested + 1)⟩ rest
      | .directive "endif" =>
        match nested with
        | 0 =>
          settle ⟨gap.notes ++ [⟨"preproc_if", opener.start, token.stop, false⟩], none⟩ rest
        | nested + 1 => settle ⟨gap.notes, some (opener, nested)⟩ rest
      | _ => settle gap rest
    | none =>
      match token.kind with
      | .comment => settle ⟨gap.notes ++ [noteOf "comment" token], none⟩ rest
      | .directive name =>
        if name = "if" then settle ⟨gap.notes, some (token, 0)⟩ rest
        else if ["else", "elif", "endif"].contains name then
          { token with kind := .stray, notes := gap.notes } :: settle ⟨[], none⟩ rest
        else settle ⟨gap.notes ++ [noteOf ("preproc_" ++ name) token], none⟩ rest
      | _ => { token with notes := gap.notes } :: settle ⟨[], none⟩ rest

/-- The tokens that carry the structure of a source. -/
def tokens (text : String) : List Token := settle ⟨[], none⟩ (tokenize ⟨0, 0⟩ text.toList)

end ClassSketch.Grammar
