import ClassSketch.Grammar.TypeName

set_option autoImplicit false

namespace ClassSketch.Grammar

/-- The kind of an expression, and what follows it. -/
structure Found where
  kind : String
  rest : List Tree

/-- How tightly an expression binds. -/
def assigning : Nat := 1

def conditional : Nat := 2

def coalescing : Nat := 3

def shifting : Nat := 11

def ranging : Nat := 16

def unary : Nat := 17

def literalKind? : TokenKind → Option String
  | .integer => some "integer_literal"
  | .real => some "real_literal"
  | .string => some "string_literal"
  | .verbatimString => some "verbatim_string_literal"
  | .rawString => some "raw_string_literal"
  | .interpolatedString => some "interpolated_string_expression"
  | .character => some "character_literal"
  | _ => none

/-- Words that are an expression, alone or with a bracket behind them. -/
def wordKind? (word : String) : Option String :=
  [("true", "boolean_literal"), ("false", "boolean_literal"), ("null", "null_literal"),
    ("this", "this"), ("base", "base"), ("default", "default_expression"),
    ("typeof", "typeof_expression"), ("sizeof", "sizeof_expression"),
    ("checked", "checked_expression"), ("unchecked", "checked_expression"),
    ("__makeref", "makeref_expression"), ("__reftype", "reftype_expression"),
    ("__refvalue", "refvalue_expression")].lookup word

/-- Words whose kind takes in the bracket behind them. -/
def takesBracket (word : String) : Bool :=
  ["default", "typeof", "sizeof", "checked", "unchecked", "__makeref", "__reftype",
    "__refvalue"].contains word

def signs : List String := ["+", "-", "!", "~", "++", "--", "&", "*", "^"]

/-- Words that go on with an expression rather than start one. -/
def joiningWords : List String := ["is", "as", "switch", "with", "and", "or", "when"]

def isLiteral : Tree → Bool
  | .leaf token => (literalKind? token.kind).isSome
  | .group .. => false

/-- Trees that begin an operand and can stand behind no operand. -/
def startsOperand (tree : Tree) : Bool :=
  isLiteral tree || (tree.isAnyWord && !tree.isOneOf joiningWords) || tree.isGroup .round ||
    tree.isSymbol "!" || tree.isSymbol "~"

/-- A bracket that holds nothing but a type. -/
def isTypeBracket (tree : Tree) : Bool :=
  tree.isGroup .round && !tree.inside.isEmpty &&
    typeLength? tree.inside == some tree.inside.length

/-- A type that can be no expression. -/
def isPlainlyType (type : List Tree) : Bool :=
  headIs type (fun tree => tree.isOneOf predefinedTypes && type.length == 1) ||
    type.getLast?.any fun tree => tree.isSymbol "?" || tree.isSymbol "*" || isRank tree

/-- Whether a bracket casts what follows it. -/
def isCast (bracket : Tree) (rest : List Tree) : Bool :=
  isTypeBracket bracket && headIs rest fun next =>
    startsOperand next || (isPlainlyType bracket.inside &&
      (signs.any next.isSymbol || next.isSymbol ".." || next.isGroup .square))

/-- Words that start a clause of a query. -/
def clauseWords : List String := ["from", "let", "where", "join", "select", "group", "into"]

/-- How many trees behind a tree go with it although commas may stand among them: type arguments,
and the keys of an ordering up to the next clause of its query. -/
def heldLength (tree : Tree) (rest : List Tree) : Nat :=
  if tree.isSymbol "<" then (argumentsLength? (tree :: rest)).getD 1 - 1
  else if tree.isWord "orderby" then
    let keys := rest.takeWhile fun next => !next.isOneOf clauseWords
    if keys.length = rest.length then 0 else keys.length
  else 0

/-- A comma that stands for itself. The first `skipped` trees are not looked at. -/
def hasComma (skipped : Nat) : List Tree → Bool
  | [] => false
  | tree :: rest =>
    match skipped with
    | skipped + 1 => hasComma skipped rest
    | 0 => tree.isSymbol "," || hasComma (heldLength tree rest) rest

/-- What may follow the type arguments of a name in an expression. -/
def mayFollowArguments : List Tree → Bool
  | [] => true
  | tree :: _ =>
    tree.isGroup .round || tree.isGroup .square || tree.isGroup .brace ||
      [".", ":", ";", ",", "?", "==", "!=", "|", "^", "&&", "||", "&", "=>", "??"].any tree.isSymbol

/-- Type arguments behind a name in an expression, when they are no comparison. -/
def genericTail? (trees : List Tree) : Option (List Tree) :=
  match argumentsLength? trees with
  | some count =>
    if mayFollowArguments (trees.drop count) then some (trees.drop count) else none
  | none => none

def withoutGeneric (trees : List Tree) : List Tree := (genericTail? trees).getD trees

def dropGroup (bracket : Bracket) (trees : List Tree) : List Tree :=
  if headIs trees fun tree => tree.isGroup bracket then trees.tail else trees

/-- What follows the arrow of a lambda: its parameters are a name or a bracket, after attributes,
modifiers and a return type. -/
def lambdaBody? (trees : List Tree) : Option (List Tree) :=
  let plain := (trees.dropWhile fun tree => tree.isGroup .square).dropWhile fun tree =>
    tree.isOneOf ["static", "async"]
  let arrowAt (count : Nat) : Option (List Tree) :=
    if headIs (plain.drop count) fun tree => tree.isSymbol "=>" then some (plain.drop (count + 1))
    else none
  match plain with
  | [] => none
  | tree :: rest =>
    if headIs rest (fun next => next.isSymbol "=>") && (tree.isAnyWord || tree.isGroup .round) then
      arrowAt 1
    else match referenceLength? plain with
      | some count =>
        if headIs (plain.drop count) fun next => next.isGroup .round then arrowAt (count + 1)
        else none
      | none => none

/-- What follows an anonymous method. -/
def anonymousMethod? (trees : List Tree) : Option (List Tree) :=
  match trees.dropWhile fun tree => tree.isOneOf ["static", "async"] with
  | [] => none
  | tree :: rest =>
    if tree.isWord "delegate" then
      match dropGroup .round rest with
      | body :: behind => if body.isGroup .brace then some behind else none
      | [] => none
    else none

/-- The sizes, further ranks and initializer of a new array. -/
def afterArray (trees : List Tree) : List Tree :=
  dropGroup .brace (trees.dropWhile fun tree =>
    tree.isGroup .square || tree.isSymbol "?" || tree.isSymbol "*")

/-- What is made behind `new`. -/
def creation (trees : List Tree) : Option Found :=
  match trees with
  | [] => none
  | tree :: rest =>
    if tree.isGroup .square then some ⟨"implicit_array_creation_expression", dropGroup .brace rest⟩
    else if tree.isGroup .brace then some ⟨"anonymous_object_creation_expression", rest⟩
    else if tree.isGroup .round && !headIs rest fun next => next.isGroup .square then
      some ⟨"implicit_object_creation_expression", dropGroup .brace rest⟩
    else match typeHeadLength? trees with
      | none => none
      | some count =>
        let behind := trees.drop count
        let marked := behind.dropWhile fun next => next.isSymbol "?" || next.isSymbol "*"
        if headIs marked fun next => next.isGroup .square then
          some ⟨"array_creation_expression", afterArray marked⟩
        else if headIs marked fun next => next.isGroup .round || next.isGroup .brace then
          some ⟨"object_creation_expression", dropGroup .brace (dropGroup .round marked)⟩
        else none

def stackCreation (trees : List Tree) : Option Found :=
  match trees with
  | [] => none
  | tree :: rest =>
    if tree.isGroup .square then
      some ⟨"implicit_stackalloc_expression", dropGroup .brace rest⟩
    else (typeHeadLength? trees).map fun count =>
      ⟨"stackalloc_expression", afterArray (trees.drop count)⟩

/-- A query starts with a range variable, whose type may stand before its name. -/
def isQuery (trees : List Tree) : Bool :=
  match trees with
  | name :: next :: _ =>
    (name.isIdentifier && next.isWord "in") ||
      match typeLength? trees with
      | some count =>
        headIs (trees.drop count) Tree.isIdentifier &&
          headIs (trees.drop (count + 1)) fun tree => tree.isWord "in"
      | none => false
  | _ => false

/-- What follows a query. A comma goes on with the keys of an ordering and ends all else. -/
def afterQuery (ordering : Bool) : List Tree → List Tree
  | [] => []
  | tree :: rest =>
    if tree.isSymbol ";" || (tree.isSymbol "," && !ordering) then tree :: rest
    else afterQuery (tree.isWord "orderby" || (ordering && !tree.isOneOf clauseWords)) rest

/-- Whether a tree stands right behind another. -/
def touches (first second : Tree) : Bool := first.stop == second.first.start.offset

inductive Operator where
  | binary (level : Nat)
  | coalesce
  | assign
  | choose
  | test
  | convert
  | range
  | branch
  | alter

def Operator.level : Operator → Nat
  | .binary level => level
  | .coalesce => coalescing
  | .assign => assigning
  | .choose => conditional
  | .test => 10
  | .convert => 10
  | .range => ranging
  | .branch => 15
  | .alter => 14

def binaryLevels : List (String × Nat) := [
  ("*", 13), ("/", 13), ("%", 13), ("+", 12), ("-", 12), ("<<", 11), ("<", 10), ("<=", 10),
  ("==", 9), ("!=", 9), ("&", 8), ("^", 7), ("|", 6), ("&&", 5), ("||", 4)]

def assignments : List String := [
  "=", "+=", "-=", "*=", "/=", "%=", "&=", "|=", "^=", "<<=", "??="]

/-- Greater signs that touch form a shift, and an equals sign that touches them a comparison or an
assignment. -/
def greaterOperator (tree : Tree) (rest : List Tree) : Operator × List Tree :=
  match rest with
  | second :: behind =>
    if !touches tree second then (.binary 10, rest)
    else if second.isSymbol "=" then (.binary 10, behind)
    else if second.isSymbol ">" then
      match behind with
      | third :: others =>
        if !touches second third then (.binary shifting, behind)
        else if third.isSymbol "=" then (.assign, others)
        else if third.isSymbol ">" then
          match others with
          | fourth :: last =>
            if touches third fourth && fourth.isSymbol "=" then (.assign, last)
            else (.binary shifting, others)
          | [] => (.binary shifting, others)
        else (.binary shifting, behind)
      | [] => (.binary shifting, behind)
    else (.binary 10, rest)
  | [] => (.binary 10, rest)

/-- The operator behind an operand, and what follows it. -/
def operator? : List Tree → Option (Operator × List Tree)
  | [] => none
  | tree :: rest =>
    match tree with
    | .group .. => none
    | .leaf token =>
      if token.kind == .symbol then
        if token.text = ">" then some (greaterOperator tree rest)
        else if token.text = "??" then some (.coalesce, rest)
        else if token.text = "?" then some (.choose, rest)
        else if token.text = ".." then some (.range, rest)
        else if assignments.contains token.text then some (.assign, rest)
        else (binaryLevels.lookup token.text).map fun level => (.binary level, rest)
      else if token.isWord "is" then some (.test, rest)
      else if token.isWord "as" then some (.convert, rest)
      else if token.isWord "switch" then some (.branch, rest)
      else if token.isWord "with" then some (.alter, rest)
      else none

/-- A question mark behind a type belongs to it unless an operand follows. -/
def dropQuestion (trees : List Tree) : List Tree :=
  match trees with
  | tree :: rest =>
    if tree.isSymbol "?" && !headIs rest fun next =>
        startsOperand next || signs.any next.isSymbol || next.isGroup .square then rest
    else trees
  | [] => []

def designationWords : List String := ["and", "or", "when"]

def dropDesignation (trees : List Tree) : List Tree :=
  if headIs trees fun tree => tree.isIdentifier && !tree.isOneOf designationWords then trees.tail
  else trees

/-- An operand without anything before or behind it. -/
def primary (tree : Tree) (rest : List Tree) : Option Found :=
  match anonymousMethod? (tree :: rest) with
  | some behind => some ⟨"anonymous_method_expression", behind⟩
  | none =>
    match tree with
    | .group .round .. =>
      some ⟨if hasComma 0 tree.inside then "tuple_expression" else "parenthesized_expression", rest⟩
    | .group .square .. => some ⟨"collection_expression", rest⟩
    | .group .brace .. => some ⟨"initializer_expression", rest⟩
    | .leaf token =>
      match literalKind? token.kind with
      | some kind => some ⟨kind, rest⟩
      | none =>
        if token.kind != .word then none
        else if token.text = "new" then creation rest
        else if token.text = "stackalloc" then stackCreation rest
        else match wordKind? token.text with
          | some kind =>
            some ⟨kind, if takesBracket token.text then dropGroup .round rest else rest⟩
          | none =>
            if predefinedTypes.contains token.text then some ⟨"predefined_type", rest⟩
            else if !token.isIdentifier then none
            else if headIs rest fun next => next.isSymbol "::" then
              some ⟨"alias_qualified_name", withoutGeneric (rest.drop 2)⟩
            else match genericTail? rest with
              | some behind => some ⟨"generic_name", behind⟩
              | none => some ⟨"identifier", rest⟩

mutual

/-- An expression that binds at least as tightly as a level. `fuel` bounds the nesting. -/
def valueFrom : Nat → Nat → List Tree → Option Found
  | 0, _, _ => none
  | fuel + 1, level, trees => (operand fuel trees).map (extend fuel level)

/-- Extends an operand by the operators behind it. -/
def extend : Nat → Nat → Found → Found
  | 0, _, found => found
  | fuel + 1, level, found =>
    match operator? found.rest with
    | none => found
    | some (operator, behind) =>
      if operator.level < level then found
      else match apply fuel operator behind with
        | some longer => extend fuel level longer
        | none => found

/-- An operator with what it takes on its right. -/
def apply : Nat → Operator → List Tree → Option Found
  | 0, _, _ => none
  | fuel + 1, operator, behind =>
    match operator with
    | .binary level =>
      (valueFrom fuel (level + 1) behind).map fun right => ⟨"binary_expression", right.rest⟩
    | .coalesce =>
      (valueFrom fuel coalescing behind).map fun right => ⟨"binary_expression", right.rest⟩
    | .assign =>
      (valueFrom fuel assigning behind).map fun right => ⟨"assignment_expression", right.rest⟩
    | .choose =>
      match valueFrom fuel assigning behind with
      | some accepted =>
        match accepted.rest with
        | colon :: others =>
          if colon.isSymbol ":" then
            (valueFrom fuel assigning others).map fun refused =>
              ⟨"conditional_expression", refused.rest⟩
          else none
        | [] => none
      | none => none
    | .test => (pattern fuel behind).map fun rest => ⟨"is_pattern_expression", rest⟩
    | .convert =>
      (plainTypeLength? false behind).map fun count =>
        ⟨"as_expression", dropQuestion (behind.drop count)⟩
    | .range =>
      match valueFrom fuel unary behind with
      | some right => some ⟨"range_expression", right.rest⟩
      | none => some ⟨"range_expression", behind⟩
    | .branch =>
      if headIs behind fun tree => tree.isGroup .brace then
        some ⟨"switch_expression", behind.tail⟩
      else none
    | .alter =>
      if headIs behind fun tree => tree.isGroup .brace then some ⟨"with_expression", behind.tail⟩
      else none

/-- A pattern and those joined to it. Gives what follows. -/
def pattern : Nat → List Tree → Option (List Tree)
  | 0, _ => none
  | fuel + 1, trees =>
    match simplePattern fuel trees with
    | some (tree :: rest) =>
      if tree.isOneOf ["and", "or"] then pattern fuel rest else some (tree :: rest)
    | other => other

def simplePattern : Nat → List Tree → Option (List Tree)
  | 0, _ => none
  | fuel + 1, trees =>
    match trees with
    | [] => none
    | tree :: rest =>
      if tree.isWord "not" then simplePattern fuel rest
      else if ["<", "<=", ">"].any tree.isSymbol then
        let behind := if headIs rest fun next => next.isSymbol "=" then rest.tail else rest
        (valueFrom fuel shifting behind).map Found.rest
      else if tree.isGroup .round || tree.isGroup .brace || tree.isGroup .square then
        some (dropDesignation (dropGroup .brace rest))
      else if isLiteral tree || signs.any tree.isSymbol then
        (valueFrom fuel shifting trees).map Found.rest
      else match plainTypeLength? false trees with
        | some count =>
          let behind := trees.drop count
          if ["+", "-", "*", "/", "%", "<<"].any fun sign =>
              headIs behind fun next => next.isSymbol sign then
            (valueFrom fuel shifting trees).map Found.rest
          else
            some (dropDesignation
              (dropGroup .brace (dropGroup .round (dropQuestion behind))))
        | none => (valueFrom fuel shifting trees).map Found.rest

/-- An operand with its signs before it and its members, calls and indices behind it. -/
def operand : Nat → List Tree → Option Found
  | 0, _ => none
  | fuel + 1, trees =>
    match trees with
    | [] => none
    | tree :: rest =>
      match lambdaBody? trees with
      | some body =>
        if headIs body fun next => next.isGroup .brace then some ⟨"lambda_expression", body.tail⟩
        else (valueFrom fuel assigning body).map fun found => ⟨"lambda_expression", found.rest⟩
      | none =>
        if signs.any tree.isSymbol then
          (operand fuel rest).map fun found => ⟨"prefix_unary_expression", found.rest⟩
        else if tree.isSymbol ".." then
          match valueFrom fuel unary rest with
          | some found => some ⟨"range_expression", found.rest⟩
          | none => some ⟨"range_expression", rest⟩
        else if tree.isWord "throw" then
          (valueFrom fuel assigning rest).map fun found => ⟨"throw_expression", found.rest⟩
        else if tree.isWord "ref" then
          (valueFrom fuel assigning rest).map fun found => ⟨"ref_expression", found.rest⟩
        else if tree.isWord "await" && headIs rest startsOperand then
          (operand fuel rest).map fun found => ⟨"await_expression", found.rest⟩
        else if tree.isWord "from" && isQuery rest then
          some ⟨"query_expression", afterQuery false rest⟩
        else if isCast tree rest then
          (operand fuel rest).map fun found => ⟨"cast_expression", found.rest⟩
        else (primary tree rest).map (follow fuel)

/-- Extends an operand by members, calls, indices and signs behind it. -/
def follow : Nat → Found → Found
  | 0, found => found
  | fuel + 1, found =>
    match found.rest with
    | [] => found
    | tree :: rest =>
      if (tree.isSymbol "." || tree.isSymbol "->") && headIs rest Tree.isAnyWord then
        follow fuel ⟨"member_access_expression", withoutGeneric rest.tail⟩
      else if tree.isSymbol "?" && headIs rest (fun next => next.isSymbol ".") &&
          headIs rest.tail Tree.isAnyWord then
        follow fuel ⟨"conditional_access_expression", withoutGeneric rest.tail.tail⟩
      else if tree.isSymbol "?" && headIs rest (fun next => next.isGroup .square) &&
          (apply fuel .choose rest).isNone then
        follow fuel ⟨"conditional_access_expression", rest.tail⟩
      else if tree.isGroup .round then follow fuel ⟨"invocation_expression", rest⟩
      else if tree.isGroup .square then follow fuel ⟨"element_access_expression", rest⟩
      else if tree.isSymbol "++" || tree.isSymbol "--" || tree.isSymbol "!" then
        follow fuel ⟨"postfix_unary_expression", rest⟩
      else found

end

/-- The expression at the start of some trees. Each step of the nesting takes a tree, so the fuel
lasts. -/
def value? (trees : List Tree) : Option Found := valueFrom (4 * trees.length + 8) 0 trees

end ClassSketch.Grammar
