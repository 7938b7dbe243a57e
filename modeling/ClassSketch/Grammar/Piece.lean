import ClassSketch.Concrete.Node
import ClassSketch.Grammar.Value

set_option autoImplicit false

namespace ClassSketch.Grammar

open ClassSketch.Concrete

/-- A node over a run of trees. -/
def branch (type : String) (role : Option String) (trees : List Tree) (children : List Node) :
    Node :=
  let start := (trees.head?.map fun tree => tree.first.start).getD ⟨0, 0⟩
  .node
    { type := type
      start := start.offset
      stop := (trees.getLast?.map Tree.stop).getD start.offset
      field := role
      named := true
      extra := false
      missing := false
      hasError := children.any fun child => child.mark.hasError
      row := start.row
      unreadable := none }
    children

def leaf (type : String) (role : Option String) (trees : List Tree) : Node :=
  branch type role trees []

def nameNode (trees : List Tree) : Node := leaf "identifier" (some "name") trees

/-- A keyword or symbol. -/
def mute (type : String) (trees : List Tree) : Node :=
  match leaf type none trees with
  | .node mark children => .node { mark with named := false } children

/-- Text that fits no rule. -/
def defect (trees : List Tree) : Node :=
  match leaf "ERROR" none trees with
  | .node mark children => .node { mark with extra := true, hasError := true } children

def noteNode (note : Note) : Node :=
  .node
    { type := note.type
      start := note.start.offset
      stop := note.stop
      field := none
      named := true
      extra := note.extra
      missing := false
      hasError := false
      row := note.start.row
      unreadable := none } []

/-- A symbol that the text lacks behind a run of trees. -/
def absent (type : String) (trees : List Tree) : Node :=
  let row := (trees.getLast?.map fun tree => tree.first.start.row).getD 0
  let stop := (trees.getLast?.map Tree.stop).getD 0
  .node
    { type := type
      start := stop
      stop := stop
      field := none
      named := false
      extra := false
      missing := true
      hasError := true
      row := row
      unreadable := none } []

/-- The runs between commas. A run after the first begins with its comma. Commas that
belong to what stands before them do not count, and the first `skipped` trees are not looked at. -/
def runs (skipped : Nat) : List Tree → List (List Tree)
  | [] => [[]]
  | tree :: rest =>
    let join (others : List (List Tree)) : List (List Tree) :=
      match others with
      | run :: later => (tree :: run) :: later
      | [] => [[tree]]
    match skipped with
    | skipped + 1 => join (runs skipped rest)
    | 0 =>
      if tree.isSymbol "," then [] :: join (runs 0 rest)
      else join (runs (heldLength tree rest) rest)

/-- A run without its comma. -/
def withoutComma (run : List Tree) : List Tree :=
  if headIs run fun tree => tree.isSymbol "," then run.tail else run

def dropAttributes (trees : List Tree) : List Tree :=
  trees.dropWhile fun tree => tree.isGroup .square

def notesAt (trees : List Tree) : List Note :=
  (trees.head?.map fun tree => tree.first.notes).getD []

/-- A value over all of some trees. -/
def valueNode (role : Option String) (trees : List Tree) : Node :=
  match value? trees with
  | some found =>
    let named := leaf found.kind role trees
    if found.kind = "this" || found.kind = "base" then
      .node { named.mark with named := false } []
    else named
  | none => defect trees

/-- An equals sign and the value behind it, with the notes between them. A sign without a value is
a defect, unless a conditional part stands in its place. -/
def assigned (role : Option String) (sign : Tree) (behind : List Tree) (next : List Tree) :
    List Node :=
  match behind with
  | [] =>
    let notes := (notesAt next).map noteNode
    if notes.any fun note => !note.mark.extra then mute "=" [sign] :: notes else [defect [sign]]
  | _ => mute "=" [sign] :: (notesAt behind).map noteNode ++ [valueNode role behind]

/-- The parameter of a run between commas. An array parameter has no node of its own. -/
def parameterNodes (run : List Tree) : List Node :=
  let trees := dropAttributes (withoutComma run)
  let isArray := headIs trees fun tree => tree.isWord "params"
  let plain := trees.dropWhile fun tree =>
    tree.isOneOf ["ref", "out", "in", "this", "readonly", "params"]
  let wrap (children : List Node) : List Node :=
    if isArray then mute "params" (trees.take 1) :: children
    else [branch "parameter" none trees children]
  match plain with
  | [] => if trees.isEmpty then [] else [defect trees]
  | first :: rest =>
    if first.isIdentifier && (rest.isEmpty || headIs rest fun tree => tree.isSymbol "=") then
      wrap [nameNode [first]]
    else match typeLength? plain with
      | some count =>
        match plain.drop count with
        | name :: behind =>
          if name.isIdentifier then
            let extra := if behind.isEmpty || headIs behind fun tree => tree.isSymbol "=" then []
              else [defect behind]
            wrap [leaf "type" (some "type") (plain.take count), nameNode [name]] ++ extra
          else [defect trees]
        | [] => [defect trees]
      | none => [defect trees]

def parameterList (tree : Tree) : Node :=
  branch "parameter_list" (some "parameters") [tree] ((runs 0 tree.inside).flatMap parameterNodes)

/-- A declared variable, with a size and a value behind its name. -/
def declaratorNode (run next : List Tree) : Node :=
  let trees := withoutComma run
  match trees with
  | [] => defect run
  | name :: rest =>
    if name.isIdentifier then
      let sizes := rest.takeWhile fun tree => tree.isGroup .square
      let size := sizes.map fun tree => leaf "bracketed_argument_list" none [tree]
      match rest.drop sizes.length with
      | [] => branch "variable_declarator" none trees (nameNode [name] :: size)
      | sign :: behind =>
        if sign.isSymbol "=" then
          branch "variable_declarator" none trees
            (nameNode [name] :: size ++ assigned none sign behind next)
        else
          branch "variable_declarator" none trees
            (nameNode [name] :: size ++ [defect (sign :: behind)])
    else defect trees

/-- The variables of the runs between commas, with what stands behind the last one. -/
def declaratorNodes (behind : List Tree) : List (List Tree) → List Node
  | [] => []
  | [run] => [declaratorNode run behind]
  | run :: next :: rest => declaratorNode run next :: declaratorNodes behind (next :: rest)

/-- A member of an enum: a name and a value. -/
def enumMemberNodes (run next : List Tree) : List Node :=
  let trees := dropAttributes (withoutComma run)
  match trees with
  | [] => []
  | name :: rest =>
    if name.isIdentifier then
      match rest with
      | [] => [branch "enum_member_declaration" none trees [nameNode [name]]]
      | sign :: behind =>
        if sign.isSymbol "=" then
          [branch "enum_member_declaration" none trees
            (nameNode [name] :: assigned (some "value") sign behind next)]
        else [branch "enum_member_declaration" none [name] [nameNode [name]], defect rest]
    else [defect trees]

def enumNodes : List (List Tree) → List Node
  | [] => []
  | [run] => enumMemberNodes run []
  | run :: next :: rest => enumMemberNodes run next ++ enumNodes (next :: rest)

def enumBody (tree : Tree) : Node :=
  branch "enum_member_declaration_list" (some "body") [tree] (enumNodes (runs 0 tree.inside))

/-- A base, with the arguments of its constructor. A run without a type is a defect at the sign
before it. -/
def baseNodes (sign : List Tree) (run : List Tree) : List Node :=
  let trees := withoutComma run
  match typeLength? trees with
  | some count =>
    let behind := trees.drop count
    leaf "type" none (trees.take count) ::
      (if behind.isEmpty then []
      else if headIs behind fun tree => tree.isGroup .round then
        [leaf "argument_list" none (behind.take 1)]
      else [defect behind])
  | none => [defect (if run.isEmpty then sign else run)]

/-- The bases behind a colon. -/
def baseList (colon : Tree) (trees : List Tree) : Node :=
  branch "base_list" none (colon :: trees) ((runs 0 trees).flatMap (baseNodes [colon]))

end ClassSketch.Grammar
