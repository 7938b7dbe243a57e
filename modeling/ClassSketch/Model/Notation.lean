import ClassSketch.Text.Affix

set_option autoImplicit false

namespace ClassSketch.Model.Notation

/-- Words separated and followed by one space. No words, or only empty text, give no space. -/
def spaced (words : List String) : String :=
  let joined := Text.joinWith " " words
  if joined = "" then "" else joined ++ " "

def stereotype (word : String) : String := "<<" ++ word ++ ">>"

/-- Modifiers that a type does not show. -/
def hiddenOnTypes : List String := ["public", "private", "protected", "internal", "abstract"]

def ofType (modifiers : List String) : String :=
  spaced ((modifiers.filter fun word => !hiddenOnTypes.contains word).map stereotype)

def memberWord (modifier : String) : String :=
  if modifier = "public" then "+"
  else if modifier = "private" then "-"
  else if modifier = "protected" then "#"
  else if modifier = "abstract" || modifier = "static" then "\x7b" ++ modifier ++ "\x7d"
  else stereotype modifier

/-- What holds of each form of the notation holds of the word of every modifier. -/
theorem memberWord_cases {motive : String → String → Prop} (isPublic : motive "public" "+")
    (isPrivate : motive "private" "-") (isProtected : motive "protected" "#")
    (classifier : ∀ modifier, motive modifier ("\x7b" ++ modifier ++ "\x7d"))
    (other : ∀ modifier, motive modifier (stereotype modifier)) (modifier : String) :
    motive modifier (memberWord modifier) := by
  unfold memberWord
  split
  · rename_i same
    exact same ▸ isPublic
  · split
    · rename_i same
      exact same ▸ isPrivate
    · split
      · rename_i same
        exact same ▸ isProtected
      · split
        · exact classifier modifier
        · exact other modifier

def ofMember (modifiers : List String) : String := spaced (modifiers.map memberWord)

/-- Accessors keep their modifiers as they are written. -/
def ofAccessor (modifiers : List String) : String := spaced modifiers

end ClassSketch.Model.Notation
