set_option autoImplicit false

namespace ClassSketch.Text

def startsWith (text opening : String) : Bool := opening.toList.isPrefixOf text.toList

def endsWith (text ending : String) : Bool := ending.toList.isSuffixOf text.toList

/-- The texts in order with `separator` between neighbours. -/
def joinWith (separator : String) : List String → String
  | [] => ""
  | [last] => last
  | first :: second :: rest => first ++ separator ++ joinWith separator (second :: rest)

/-- The pieces between the occurrences of one character, the empty pieces included. -/
def pieces (separator : Char) : List Char → List (List Char)
  | [] => [[]]
  | c :: rest =>
    if c = separator then [] :: pieces separator rest
    else match pieces separator rest with
      | [] => [[c]]
      | piece :: others => (c :: piece) :: others

def splitAtChar (separator : Char) (text : String) : List String :=
  (pieces separator text.toList).map String.ofList

end ClassSketch.Text
