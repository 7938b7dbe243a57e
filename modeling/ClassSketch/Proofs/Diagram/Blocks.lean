import ClassSketch.Proofs.Diagram.LineCount

set_option autoImplicit false

namespace ClassSketch.Text

theorem mem_dropWhile {p : Char → Bool} {c : Char} {text : List Char} (inside : c ∈ text)
    (kept : p c = false) : c ∈ text.dropWhile p := by
  rw [← List.takeWhile_append_dropWhile (p := p) (l := text)] at inside
  rcases List.mem_append.mp inside with dropped | here
  · have holds := List.all_eq_true.mp List.all_takeWhile c dropped
    rw [kept] at holds
    cases holds
  · exact here

/-- Stripping takes away nothing but white space. -/
theorem mem_stripChars {c : Char} {text : List Char} (inside : c ∈ text)
    (solid : isBlank c = false) : c ∈ stripChars text := by
  have start := mem_dropWhile inside solid
  exact List.mem_reverse.mpr (mem_dropWhile (List.mem_reverse.mpr start) solid)

theorem endsWith_brace_iff (text : String) :
    endsWith text "\x7b" = true ↔ text.toList.getLast? = some '\x7b' :=
  endsWith_iff_getLast? rfl

end ClassSketch.Text

namespace ClassSketch.Diagram

open ClassSketch.Model ClassSketch.Text

/-- A block as a reader of the lines finds it: how many blocks are open around it, and the lines
that open and close it. -/
structure Block where
  depth : Nat
  opening : String
  closing : String
  deriving DecidableEq, Repr

/-- The blocks in the order they are closed, or none when a closing line closes nothing or a block
stays open. The stack holds the lines of the open blocks, the innermost first. -/
def scanBlocks : List String → List String → Option (List Block)
  | stack, [] => if stack = [] then some [] else none
  | stack, line :: rest =>
    if endsWith line "\x7b" then scanBlocks (line :: stack) rest
    else if strip line = "\x7d" then
      match stack with
      | [] => none
      | opening :: outer =>
        (scanBlocks outer rest).map fun later => ⟨outer.length, opening, line⟩ :: later
    else scanBlocks stack rest

def blockAt (indent : String) (depth : Nat) (header : String) : Block where
  depth := depth
  opening := Emitter.repeatText indent depth ++ header
  closing := Emitter.repeatText indent depth ++ "\x7d"

mutual

/-- The blocks that a declaration is drawn with, where so many blocks are open. -/
def blocks (indent : String) (depth : Nat) : Declaration → List Block
  | .unit _ members => blocksOfAll indent depth members
  | .namespaceBlock _ members => blocksOfAll indent depth members
  | .typeBlock header members =>
    blocksOfAll indent (depth + 1) members ++ [blockAt indent depth (openingLine header)]
  | .enumBlock header members =>
    blocksOfAll indent (depth + 1) members ++ [blockAt indent depth (enumLine header)]
  | .unsupported _ _ members => blocksOfContainers indent depth members
  | .enumMember _ | .field _ | .property _ | .method _ | .constructor _ | .loose _ => []

def blocksOfAll (indent : String) (depth : Nat) : List Declaration → List Block
  | [] => []
  | first :: rest => blocks indent depth first ++ blocksOfAll indent depth rest

def blocksOfContainers (indent : String) (depth : Nat) : List Declaration → List Block
  | [] => []
  | first :: rest =>
    (if first.isContainer then blocks indent depth first else []) ++
      blocksOfContainers indent depth rest

end

theorem blocksOfAll_eq (indent : String) (depth : Nat) (members : List Declaration) :
    blocksOfAll indent depth members = members.flatMap (blocks indent depth) := by
  induction members with
  | nil => rw [blocksOfAll]; rfl
  | cons first rest ih => rw [blocksOfAll, ih, List.flatMap_cons]

theorem blocksOfContainers_eq (indent : String) (depth : Nat) (members : List Declaration) :
    blocksOfContainers indent depth members =
      (members.filter Declaration.isContainer).flatMap (blocks indent depth) := by
  induction members with
  | nil => rw [blocksOfContainers]; rfl
  | cons first rest ih =>
    rw [blocksOfContainers, ih]
    cases container : first.isContainer <;> simp [container]

/-- The marks of the notation that tell members and edges from braces. -/
def marks : List Char := [':', '(', ',', '<']

theorem Element.marked (element : Element) :
    ∀ stroke ∈ element.strokes, stroke.isBlock = false → ∃ c ∈ marks, c ∈ stroke.text.toList := by
  intro stroke inside flat
  cases element with
  | typeBlock header =>
    rcases Element.mem_strokes_typeBlock.mp inside with rfl | rfl | edge
    · cases flat
    · cases flat
    · obtain ⟨_, base, _, rfl⟩ := mem_edges.mp edge
      exact ⟨'<', by decide, by simp [Stroke.text, edgeLine]⟩
  | enumBlock header =>
    rcases Element.mem_strokes_enumBlock.mp inside with rfl | rfl
    · cases flat
    · cases flat
  | enumMember member =>
    cases List.mem_singleton.mp inside
    exact ⟨',', by decide, by simp [Stroke.text, enumMemberLine]⟩
  | declarator field declared =>
    cases List.mem_singleton.mp inside
    exact ⟨':', by decide, by simp [Stroke.text, variableLine]⟩
  | property stored =>
    cases List.mem_singleton.mp inside
    exact ⟨':', by decide, by simp [Stroke.text, propertyLine]⟩
  | method called =>
    cases List.mem_singleton.mp inside
    exact ⟨'(', by decide, by simp [Stroke.text, methodLine]⟩
  | constructor called =>
    cases List.mem_singleton.mp inside
    exact ⟨'(', by decide, by simp [Stroke.text, constructorLine]⟩

/-- A line that neither opens nor closes a block. -/
structure Flat (line : String) : Prop where
  last : EndsIn (· ≠ '\x7b') line.toList
  marked : ∃ c ∈ marks, c ∈ line.toList

/-- No text that a member line or an edge may end in ends in an opening brace. -/
def Tame (element : Element) : Prop := ∀ text ∈ element.trailing, endsWith text "\x7b" = false

theorem endsIn_of_endsWith {text : String} (tame : endsWith text "\x7b" = false) :
    EndsIn (· ≠ '\x7b') text.toList := by
  rintro c last rfl
  rw [(endsWith_brace_iff text).mpr last] at tame
  cases tame

theorem mark_isSolid {c : Char} (isMark : c ∈ marks) : isBlank c = false ∧ c ≠ '\x7d' := by
  simp only [marks, List.mem_cons, List.not_mem_nil, or_false] at isMark
  rcases isMark with rfl | rfl | rfl | rfl <;> decide

theorem Flat.endsWith_brace {line : String} (flat : Flat line) :
    endsWith line "\x7b" = false := by
  rw [Bool.eq_false_iff, Ne, endsWith_brace_iff]
  intro last
  exact flat.last '\x7b' last rfl

theorem Flat.strip_ne {line : String} (flat : Flat line) : strip line ≠ "\x7d" := by
  intro alone
  obtain ⟨c, isMark, inside⟩ := flat.marked
  obtain ⟨solid, other⟩ := mark_isSolid isMark
  have kept := mem_stripChars inside solid
  have stripped := congrArg String.toList alone
  rw [strip, String.toList_ofList] at stripped
  rw [stripped] at kept
  exact other (List.mem_singleton.mp kept)

theorem flat_text {indent : String} (blank : IsIndentation indent) {element : Element}
    (tame : Tame element) {line : Line} (inside : line.stroke ∈ element.strokes)
    (flat : line.stroke.isBlock = false) : Flat (line.text indent) where
  last := by
    refine endsIn_text ?_ (element.endsIn (by decide) (by decide) (by decide) (by decide)
      (fun text listed => endsIn_of_endsWith (tame text listed)) line.stroke inside flat)
    rintro c isSpace rfl
    exact absurd (blank '\x7b' isSpace) (by decide)
  marked := by
    obtain ⟨c, isMark, shown⟩ := element.marked line.stroke inside flat
    refine ⟨c, isMark, ?_⟩
    rw [Line.text, String.toList_append]
    exact List.mem_append_right _ shown

theorem strip_closing {indent : String} (blank : IsIndentation indent) (depth : Nat) :
    strip (Emitter.repeatText indent depth ++ "\x7d") = "\x7d" := by
  have leading : ∀ c ∈ (Emitter.repeatText indent depth).toList, isBlank c = true :=
    fun c inside => isBlank_of_isIndent (blank c (mem_repeatText inside))
  have start : ((Emitter.repeatText indent depth).toList ++ ['\x7d']).dropWhile isBlank =
      ['\x7d'] := by
    rw [List.dropWhile_append_of_pos leading]
    decide
  have brace : "\x7d".toList = ['\x7d'] := rfl
  rw [strip, String.toList_append, brace, stripChars, start]
  decide

section Scan

variable {indent : String} {stack : List String}

theorem scan_opening {line : String} (opens : line.toList.getLast? = some '\x7b')
    (rest : List String) : scanBlocks stack (line :: rest) = scanBlocks (line :: stack) rest := by
  cases stack <;> rw [scanBlocks, if_pos ((endsWith_brace_iff line).mpr opens)]

theorem scan_flat {line : String} (flat : Flat line) (rest : List String) :
    scanBlocks stack (line :: rest) = scanBlocks stack rest := by
  cases stack <;>
    rw [scanBlocks, flat.endsWith_brace, if_neg Bool.false_ne_true, if_neg flat.strip_ne]

theorem scan_closing (blank : IsIndentation indent) (opening : String) (rest : List String) :
    scanBlocks (opening :: stack) ((Emitter.repeatText indent stack.length ++ "\x7d") :: rest) =
      (scanBlocks stack rest).map
        (⟨stack.length, opening, Emitter.repeatText indent stack.length ++ "\x7d"⟩ :: ·) := by
  have shut : endsWith (Emitter.repeatText indent stack.length ++ "\x7d") "\x7b" = false := by
    rw [Bool.eq_false_iff, Ne, endsWith_brace_iff, String.toList_append, List.getLast?_append]
    simp
  rw [scanBlocks, shut, if_neg Bool.false_ne_true, if_pos (strip_closing blank _)]

theorem scan_flats {lines : List String} (flat : ∀ line ∈ lines, Flat line) (rest : List String) :
    scanBlocks stack (lines ++ rest) = scanBlocks stack rest := by
  induction lines with
  | nil => rfl
  | cons first later ih =>
    rw [List.forall_mem_cons] at flat
    rw [List.cons_append, scan_flat flat.1, ih flat.2]

/-- Strokes of elements that open and close nothing are passed over. -/
theorem scan_members (blank : IsIndentation indent) (depth : Nat) {strokes : List Stroke}
    (each : ∀ stroke ∈ strokes, stroke.isBlock = false ∧
      ∃ element, Tame element ∧ stroke ∈ element.strokes) (rest : List String) :
    scanBlocks stack ((linesFrom depth strokes).map (Line.text indent) ++ rest) =
      scanBlocks stack rest := by
  refine scan_flats ?_ rest
  rw [List.forall_mem_map]
  intro line inside
  obtain ⟨flat, element, tame, drawn⟩ := each line.stroke (stroke_mem_of_mem_linesFrom inside)
  exact flat_text blank tame drawn flat

theorem scan_edges (blank : IsIndentation indent) (depth : Nat) {header : TypeHeader}
    (tame : Tame (.typeBlock header)) (rest : List String) :
    scanBlocks stack ((linesFrom depth (edges header)).map (Line.text indent) ++ rest) =
      scanBlocks stack rest := by
  refine scan_members blank depth ?_ rest
  intro stroke isEdge
  refine ⟨?_, .typeBlock header, tame, Element.mem_strokes_typeBlock.mpr (.inr (.inr isEdge))⟩
  obtain ⟨_, base, _, rfl⟩ := mem_edges.mp isEdge
  rfl

end Scan

/-- The lines of a declaration are scanned to its own blocks, whatever is open around them and
follows them. -/
def ScansToBlocks (indent : String) (tree : Declaration) : Prop :=
  ∀ (stack rest : List String),
    scanBlocks stack ((linesFrom stack.length (strokes tree)).map (Line.text indent) ++ rest) =
      (scanBlocks stack rest).map (blocks indent stack.length tree ++ ·)

theorem scan_flatMap {indent : String} {members : List Declaration}
    (each : ∀ member ∈ members, ScansToBlocks indent member) (stack rest : List String) :
    scanBlocks stack
        ((linesFrom stack.length (members.flatMap strokes)).map (Line.text indent) ++ rest) =
      (scanBlocks stack rest).map (members.flatMap (blocks indent stack.length) ++ ·) := by
  induction members with
  | nil => simp [linesFrom]
  | cons first later ih =>
    rw [List.forall_mem_cons] at each
    rw [List.flatMap_cons, linesFrom_strokes_append, List.map_append, List.append_assoc,
      each.1 stack, ih each.2, Option.map_map, List.flatMap_cons]
    simp [Function.comp_def]

/-- The block of a declaration is closed behind what it holds. -/
theorem scan_block {indent : String} (blank : IsIndentation indent) {header : String}
    (opens : header.toList.getLast? = some '\x7b') {members : List Declaration}
    (each : ∀ member ∈ members, ScansToBlocks indent member) (behind : List Stroke)
    (stack rest : List String) :
    scanBlocks stack
        ((linesFrom stack.length
          (.opening header :: members.flatMap strokes ++ .closing :: behind)).map
            (Line.text indent) ++ rest) =
      (scanBlocks stack
        ((linesFrom stack.length behind).map (Line.text indent) ++ rest)).map
          (members.flatMap (blocks indent (stack.length + 1)) ++
            [blockAt indent stack.length header] ++ ·) := by
  have line : (Line.text indent ⟨stack.length, .opening header⟩).toList.getLast? =
      some '\x7b' := by
    rw [Line.text, String.toList_append, List.getLast?_append]
    change header.toList.getLast?.or _ = _
    rw [opens, Option.some_or]
  have held := scan_flatMap each (Line.text indent ⟨stack.length, .opening header⟩ :: stack)
  rw [linesFrom_block, List.map_append, List.map_cons, List.map_cons, List.cons_append,
    List.cons_append, List.append_assoc, scan_opening line]
  rw [List.length_cons] at held
  rw [held, List.cons_append]
  change Option.map _ (scanBlocks _ ((Emitter.repeatText indent stack.length ++ "\x7d") :: _)) = _
  rw [scan_closing blank, Option.map_map]
  simp [Function.comp_def, blockAt, Line.text, Stroke.text]

theorem scan_strokes {indent : String} (blank : IsIndentation indent) (tree : Declaration)
    (tame : ∀ element ∈ elements tree, Tame element) : ScansToBlocks indent tree := by
  -- what neither is a block nor holds members
  have single {tree : Declaration} (tame : ∀ element ∈ elements tree, Tame element)
      (flat : ∀ stroke ∈ strokes tree, stroke.isBlock = false)
      (none : ∀ depth, blocks indent depth tree = []) : ScansToBlocks indent tree := by
    intro stack rest
    rw [scan_members blank stack.length ?_ rest, none]
    · simp
    · intro stroke inside
      obtain ⟨element, isElement, drawn⟩ := mem_strokes.mp inside
      exact ⟨flat stroke inside, element, tame element isElement, drawn⟩
  induction tree with
  | unit _ members ih | namespaceBlock _ members ih =>
    intro stack rest
    rw [elements, elementsOfAll_eq, List.forall_mem_flatMap] at tame
    rw [strokes, strokesOfAll_eq, blocks, blocksOfAll_eq]
    exact scan_flatMap (fun member inside => ih member inside (tame member inside)) stack rest
  | typeBlock header members ih =>
    intro stack rest
    rw [elements, elementsOfAll_eq, List.forall_mem_cons, List.forall_mem_flatMap] at tame
    rw [strokes, strokesOfAll_eq, blocks, blocksOfAll_eq,
      scan_block blank (getLast?_openingLine header)
        (fun member inside => ih member inside (tame.2 member inside)),
      scan_edges blank stack.length tame.1]
  | enumBlock header members ih =>
    intro stack rest
    rw [elements, elementsOfAll_eq, List.forall_mem_cons, List.forall_mem_flatMap] at tame
    rw [strokes, strokesOfAll_eq, blocks, blocksOfAll_eq,
      scan_block blank (getLast?_enumLine header)
        (fun member inside => ih member inside (tame.2 member inside)) []]
    rfl
  | field field =>
    refine single tame ?_ fun _ => by rw [blocks]
    intro stroke inside
    rw [strokes] at inside
    obtain ⟨declared, _, rfl⟩ := List.mem_map.mp inside
    rfl
  | unsupported _ _ members ih =>
    intro stack rest
    rw [elements, elementsOfContainers_eq, List.forall_mem_flatMap] at tame
    rw [strokes, strokesOfContainers_eq, blocks, blocksOfContainers_eq]
    exact scan_flatMap (fun member inside =>
      ih member (List.mem_filter.mp inside).1 (tame member inside)) stack rest
  | enumMember | property | method | constructor =>
    refine single tame ?_ fun _ => by rw [blocks]
    intro stroke inside
    cases List.mem_singleton.mp inside
    rfl
  | loose =>
    refine single tame ?_ fun _ => by rw [blocks]
    intro stroke inside
    cases inside

/-- A block is opened by a stroke of the declaration and indented by the blocks open around it. -/
theorem eq_blockAt_of_mem_blocks {indent : String} {tree : Declaration} {depth : Nat}
    {block : Block} (inside : block ∈ blocks indent depth tree) :
    ∃ header, .opening header ∈ strokes tree ∧ block = blockAt indent block.depth header := by
  have held {members : List Declaration} {depth : Nat}
      (each : ∀ member ∈ members, ∀ {depth : Nat}, block ∈ blocks indent depth member →
        ∃ header, .opening header ∈ strokes member ∧ block = blockAt indent block.depth header)
      (inside : block ∈ members.flatMap (blocks indent depth)) :
      ∃ header, .opening header ∈ members.flatMap strokes ∧
        block = blockAt indent block.depth header := by
    obtain ⟨member, isMember, here⟩ := List.mem_flatMap.mp inside
    obtain ⟨header, drawn, same⟩ := each member isMember here
    exact ⟨header, List.mem_flatMap.mpr ⟨member, isMember, drawn⟩, same⟩
  induction tree generalizing depth with
  | unit _ members ih | namespaceBlock _ members ih =>
    rw [blocks, blocksOfAll_eq] at inside
    rw [strokes, strokesOfAll_eq]
    exact held ih inside
  | typeBlock header members ih =>
    rw [blocks, blocksOfAll_eq, List.mem_append, List.mem_singleton] at inside
    rw [strokes, strokesOfAll_eq]
    rcases inside with inner | rfl
    · obtain ⟨opened, drawn, same⟩ := held ih inner
      exact ⟨opened, List.mem_cons_of_mem _ (List.mem_append_left _ drawn), same⟩
    · exact ⟨openingLine header, List.mem_cons_self, rfl⟩
  | enumBlock header members ih =>
    rw [blocks, blocksOfAll_eq, List.mem_append, List.mem_singleton] at inside
    rw [strokes, strokesOfAll_eq]
    rcases inside with inner | rfl
    · obtain ⟨opened, drawn, same⟩ := held ih inner
      exact ⟨opened, List.mem_cons_of_mem _ (List.mem_append_left _ drawn), same⟩
    · exact ⟨enumLine header, List.mem_cons_self, rfl⟩
  | unsupported _ _ members ih =>
    rw [blocks, blocksOfContainers_eq] at inside
    rw [strokes, strokesOfContainers_eq]
    exact held (fun member isMember => ih member (List.mem_filter.mp isMember).1) inside
  | _ =>
    rw [blocks] at inside
    cases inside

/-- No line reads like the frame of a document: it ends in a brace or holds a mark. -/
theorem text_ne_frame (indent : String) {line : Line} {tree : Declaration}
    (inside : line ∈ linesFrom 0 (strokes tree)) {frame : String}
    (unmarked : ∀ c ∈ marks, c ∉ frame.toList)
    (last : EndsIn (fun c => c ≠ '\x7b' ∧ c ≠ '\x7d') frame.toList) : line.text indent ≠ frame := by
  rintro rfl
  obtain ⟨element, _, drawn⟩ := mem_strokes.mp (stroke_mem_of_mem_linesFrom inside)
  have ending : (line.text indent).toList.getLast? =
      line.stroke.text.toList.getLast?.or
        (Emitter.repeatText indent line.column).toList.getLast? := by
    rw [Line.text, String.toList_append, List.getLast?_append]
  cases stroke : line.stroke with
  | opening header =>
    rw [stroke] at drawn ending
    rw [Stroke.text, Element.getLast?_opening drawn, Option.some_or] at ending
    exact (last '\x7b' ending).1 rfl
  | closing =>
    rw [stroke] at ending
    exact (last '\x7d' ending).2 rfl
  | member text | edge text =>
    obtain ⟨c, isMark, here⟩ := element.marked line.stroke drawn (by rw [stroke]; rfl)
    apply unmarked c isMark
    rw [Line.text, String.toList_append]
    exact List.mem_append_right _ here

/-- Read with a stack, the lines of a diagram give the blocks of the drawing: no closing line comes
unopened, no block stays open, and a block is closed at the indentation of its opening line, by as
many units as blocks are open around it. The frame of the document stands only at its ends. -/
theorem scanBlocks_bodyLines {tree : Declaration} {indent : String}
    (blank : IsIndentation indent)
    (whole : ∀ element ∈ elements tree, ∀ text ∈ element.shown, Unbroken text.toList)
    (tame : ∀ element ∈ elements tree, ∀ text ∈ element.trailing,
      endsWith text "\x7b" = false) :
    scanBlocks [] (bodyLines tree indent) = some (blocks indent 0 tree) ∧
      (∀ block ∈ blocks indent 0 tree, ∃ header, .opening header ∈ strokes tree ∧
        block = blockAt indent block.depth header) ∧
      "@startuml" ∉ bodyLines tree indent ∧ "@enduml" ∉ bodyLines tree indent ∧
      splitLines (document tree indent) =
        "@startuml" :: bodyLines tree indent ++ ["@enduml"] := by
  refine ⟨?_, fun block inside => eq_blockAt_of_mem_blocks inside, ?_, ?_,
    splitLines_document tree indent⟩
  · have scanned := scan_strokes blank tree tame [] []
    rw [List.append_nil, List.length_nil, ← bodyLines_eq blank whole] at scanned
    simpa [scanBlocks] using scanned
  · rw [bodyLines_eq blank whole, List.mem_map]
    rintro ⟨line, inside, same⟩
    exact text_ne_frame indent inside (by simp [marks]) (endsIn_of_getLast? rfl (by decide)) same
  · rw [bodyLines_eq blank whole, List.mem_map]
    rintro ⟨line, inside, same⟩
    exact text_ne_frame indent inside (by simp [marks]) (endsIn_of_getLast? rfl (by decide)) same

/-- An enum in a record in a class with a base. -/
def enumInRecord : Declaration :=
  .typeBlock ⟨.classKind, "A", "<T>", ["public"], ["B<T>"]⟩
    [.unsupported "record_declaration" "R" [.enumBlock ⟨"E", []⟩ [.enumMember ⟨"None", none⟩]],
      .method ⟨"f", "T[]", [⟨"x", "int"⟩], ["private"]⟩]

theorem enumInRecord_scanBlocks :
    IsIndentation "\t" ∧ scanBlocks [] (bodyLines enumInRecord "\t") =
      some [⟨1, "\tenum E \x7b", "\t\x7d"⟩, ⟨0, "class A<T> \x7b", "\x7d"⟩] := by
  have blank : IsIndentation "\t" := by simp [IsIndentation, isIndent]
  have whole : (elements enumInRecord).all (fun element => element.shown.all fun text =>
      decide (Unbroken text.toList)) = true := by
    decide +kernel
  have tame : (elements enumInRecord).all (fun element => element.trailing.all fun text =>
      !endsWith text "\x7b") = true := by
    decide +kernel
  refine ⟨blank, (scanBlocks_bodyLines blank ?_ ?_).1.trans (by decide +kernel)⟩
  · intro element isElement text isShown
    have shown := List.all_eq_true.mp whole element isElement
    exact of_decide_eq_true (List.all_eq_true.mp shown text isShown)
  · intro element isElement text ends
    have trailing := List.all_eq_true.mp tame element isElement
    simpa using List.all_eq_true.mp trailing text ends

end ClassSketch.Diagram
