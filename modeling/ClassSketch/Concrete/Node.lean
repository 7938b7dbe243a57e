import ClassSketch.Text.Utf8

set_option autoImplicit false

namespace ClassSketch.Concrete

/-- What a node of the concrete tree says of itself. Offsets count the bytes of the source. -/
structure Mark where
  type : String
  start : Nat
  stop : Nat
  /-- The role of the node under its parent. -/
  field : Option String
  named : Bool
  /-- Comments and other notes that may stand anywhere. -/
  extra : Bool
  missing : Bool
  hasError : Bool
  /-- The row of the first byte, counted from zero. -/
  row : Nat
  /-- Why the text of the node cannot be read. -/
  unreadable : Option String
  deriving DecidableEq, Repr, Inhabited

/-- The mark of a readable node on the first row, as a source without errors has it. -/
def Mark.plain (type : String) (role : Option String) (start stop : Nat) : Mark :=
  ⟨type, start, stop, role, true, false, false, false, 0, none⟩

inductive Node where
  | node (mark : Mark) (children : List Node)
  deriving Inhabited

namespace Node

def plain (type : String) (role : Option String) (start stop : Nat) (children : List Node) : Node :=
  .node (.plain type role start stop) children

def mark : Node → Mark
  | .node mark _ => mark

def children : Node → List Node
  | .node _ children => children

def type (node : Node) : String := node.mark.type

def field? (node : Node) (name : String) : Option Node :=
  node.children.find? fun child => child.mark.field == some name

def child? (node : Node) (type : String) : Option Node :=
  node.children.find? fun child => child.type == type

def namedChildren (node : Node) : List Node := node.children.filter fun child => child.mark.named

/-- A child with the role, or else a child of the type. -/
def part? (node : Node) (role type : String) : Option Node :=
  node.field? role <|> node.child? type

theorem sizeOf_child {node child : Node} (inside : child ∈ node.children) :
    sizeOf child < sizeOf node := by
  cases node with
  | node mark children =>
    have := List.sizeOf_lt_of_mem inside
    simp only [Node.children] at this
    simp only [Node.node.sizeOf_spec]
    omega

theorem mem_of_field? {node child : Node} {name : String} (found : node.field? name = some child) :
    child ∈ node.children :=
  List.mem_of_find?_eq_some found

theorem mem_of_child? {node child : Node} {type : String} (found : node.child? type = some child) :
    child ∈ node.children :=
  List.mem_of_find?_eq_some found

theorem mem_of_part? {node child : Node} {role type : String}
    (found : node.part? role type = some child) : child ∈ node.children := by
  unfold part? at found
  cases first : node.field? role with
  | some other =>
    rw [first] at found
    cases found
    exact mem_of_field? first
  | none =>
    rw [first] at found
    exact mem_of_child? found

end Node

/-- Why a text or a tree of declarations cannot be made. -/
inductive Failure where
  | unreadable (message : String)
  /-- A base with arguments that names no type. -/
  | missingBase
  deriving DecidableEq, Repr

def Failure.message : Failure → String
  | .unreadable message => message
  | .missingBase => "list index out of range"

abbrev Read := Except Failure

theorem Read.bind_eq_ok {α β : Type} {first : Read α} {next : α → Read β} {result : β} :
    (first >>= next) = .ok result ↔ ∃ value, first = .ok value ∧ next value = .ok result := by
  cases first with
  | ok value =>
    constructor
    · intro success
      exact ⟨value, rfl, success⟩
    · rintro ⟨_, ⟨⟩, success⟩
      exact success
  | error failure =>
    constructor
    · intro success
      cases success
    · rintro ⟨_, ⟨⟩, _⟩

theorem Read.pure_eq_ok {α : Type} {value result : α} :
    (pure value : Read α) = .ok result ↔ value = result := by
  constructor
  · intro success
    cases success
    rfl
  · rintro rfl
    rfl

/-- The text of a node in a source given as bytes. -/
def Node.text (source : List UInt8) (node : Node) : Read String :=
  match node.mark.unreadable with
  | some message => .error (.unreadable message)
  | none => .ok (Text.Utf8.slice source node.mark.start node.mark.stop)

end ClassSketch.Concrete
