import ClassSketch.Text.Blank

set_option autoImplicit false

namespace ClassSketch.Text

def isIndent (c : Char) : Bool := c == ' ' || c == '\t'

/-- When a line break starts here, after spaces and tabs, what follows the break and all white
space after it. -/
def afterBreak? (text : List Char) : Option (List Char) :=
  match text.dropWhile isIndent with
  | '\n' :: rest => some (rest.dropWhile isBlank)
  | '\r' :: '\n' :: rest => some (rest.dropWhile isBlank)
  | _ => none

theorem length_dropWhile_le (p : Char → Bool) (text : List Char) :
    (text.dropWhile p).length ≤ text.length :=
  (List.dropWhile_sublist p).length_le

theorem length_afterBreak? {text rest : List Char} (found : afterBreak? text = some rest) :
    rest.length < text.length := by
  have shorter := length_dropWhile_le isIndent text
  unfold afterBreak? at found
  split at found
  · rename_i later same
    cases found
    rw [same] at shorter
    have := length_dropWhile_le isBlank later
    simp only [List.length_cons] at shorter
    omega
  · rename_i later same
    cases found
    rw [same] at shorter
    have := length_dropWhile_le isBlank later
    simp only [List.length_cons] at shorter
    omega
  · cases found

/-- Each line break, with the spaces and tabs before it and the white space after it, becomes one
space. -/
def foldBreaks (text : List Char) : List Char :=
  match text with
  | [] => []
  | c :: later =>
    match _found : afterBreak? (c :: later) with
    | some rest => ' ' :: foldBreaks rest
    | none => c :: foldBreaks later
termination_by text.length
decreasing_by
  · exact length_afterBreak? ‹_›
  · simp

/-- The text of an expression on one line. -/
def foldExpression (text : String) : String :=
  String.ofList (foldBreaks (stripChars text.toList))

end ClassSketch.Text
