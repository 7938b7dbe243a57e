import ClassSketch.Concrete.Node
import ClassSketch.Model.Declaration
import ClassSketch.Text.Blank
import ClassSketch.Text.Fold

set_option autoImplicit false

namespace ClassSketch.Outline

open ClassSketch.Concrete ClassSketch.Model

/-- The text of a node without white space around it. -/
def strippedText (source : List UInt8) (node : Node) : Read String := do
  let text ← node.text source
  return Text.strip text

def strippedText? (source : List UInt8) : Option Node → Read String
  | some node => strippedText source node
  | none => .ok ""

/-- The text of the child with a role, empty when there is none. -/
def roleText (source : List UInt8) (node : Node) (role : String) : Read String :=
  match node.field? role with
  | some child => child.text source
  | none => .ok ""

def nameText (source : List UInt8) (node : Node) : Read String := roleText source node "name"

/-- The texts of some nodes, read in order. -/
def textsOf (source : List UInt8) : List Node → Read (List String)
  | [] => .ok []
  | node :: rest => do
    let text ← strippedText source node
    let others ← textsOf source rest
    return text :: others

def modifiers (source : List UInt8) (node : Node) : Read (List String) :=
  textsOf source (node.children.filter fun child => child.type == "modifier")

/-- The value behind an equals sign: the first named node after the sign, or the first named child
of a clause that holds sign and value. -/
def valueAfterSign (afterSign : Bool) : List Node → Option Node
  | [] => none
  | child :: rest =>
    if child.type == "equals_value_clause" then child.namedChildren.head?
    else if child.type == "=" then valueAfterSign true rest
    else if afterSign && child.mark.named then some child
    else valueAfterSign afterSign rest

def assignedValue? (node : Node) : Option Node := valueAfterSign false node.children

def expression (source : List UInt8) (node : Node) : Read Expression := do
  let text ← node.text source
  return ⟨node.type, Text.foldExpression text⟩

def expression? (source : List UInt8) : Option Node → Read (Option Expression)
  | some node => do return some (← expression source node)
  | none => .ok none

/-- Nodes of a base list that name a base. -/
def isBase (node : Node) : Bool :=
  node.mark.named && !node.mark.extra && node.type != "argument_list" && node.type != "comment"

/-- A base with constructor arguments is named by its type. -/
def baseNode (node : Node) : Read Node :=
  if node.type == "primary_constructor_base_type" then
    match node.field? "type" <|> node.namedChildren.head? with
    | some type => .ok type
    | none => .error .missingBase
  else .ok node

def basesOf (source : List UInt8) : List Node → Read (List String)
  | [] => .ok []
  | node :: rest => do
    let base ← baseNode node
    let text ← strippedText source base
    let others ← basesOf source rest
    return if text = "" then others else text :: others

def basesIn (source : List UInt8) : Option Node → Read (List String)
  | some list => basesOf source (list.children.filter isBase)
  | none => .ok []

/-- Bases in source order. Empty texts are left out. -/
def baseTypes (source : List UInt8) (node : Node) : Read (List String) :=
  basesIn source (node.child? "base_list")

/-- Where the scan of a parameter list stands. A trailing array parameter has no node of its own:
its keyword, its type and its name follow each other in the list. -/
inductive ParameterScan where
  | outside
  | afterKeyword
  | afterType (type : String)

def parametersFrom (source : List UInt8) (scan : ParameterScan) : List Node → Read (List Parameter)
  | [] => .ok []
  | child :: rest =>
    if child.mark.extra || child.type == "comment" then parametersFrom source scan rest
    else if child.type == "parameter" || child.type == "parameter_array" then do
      let name ← nameText source child
      let type ← strippedText? source (child.field? "type")
      let others ← parametersFrom source scan rest
      return ⟨name, type⟩ :: others
    else if child.type == "params" then parametersFrom source .afterKeyword rest
    else if child.mark.named then
      match scan with
      | .outside => parametersFrom source .outside rest
      | .afterKeyword => do
        let type ← strippedText source child
        parametersFrom source (.afterType type) rest
      | .afterType type => do
        let name ← strippedText source child
        let others ← parametersFrom source .outside rest
        return ⟨name, type⟩ :: others
    else parametersFrom source scan rest

def parameters (source : List UInt8) (node : Node) : Read (List Parameter) :=
  match node.part? "parameters" "parameter_list" with
  | some list => parametersFrom source .outside list.children
  | none => .ok []

end ClassSketch.Outline
