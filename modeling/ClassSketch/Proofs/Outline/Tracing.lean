import ClassSketch.Proofs.Diagram.Content
import ClassSketch.Proofs.Outline.Site

set_option autoImplicit false

namespace ClassSketch.Outline

open ClassSketch.Concrete ClassSketch.Model ClassSketch.Diagram

variable {source : List UInt8} {depth : Nat} {sites : List Site} {lines : List Line}

/-- The sites write the lines. -/
def Writes (source : List UInt8) (sites : List Site) (lines : List Line) : Prop :=
  sites.mapM (Site.line source) = .ok lines

theorem writes_nil (source : List UInt8) : Writes source [] [] := rfl

theorem Writes.append {first second : List Site} {lines more : List Line}
    (here : Writes source first lines) (later : Writes source second more) :
    Writes source (first ++ second) (lines ++ more) := by
  unfold Writes at here later ⊢
  rw [List.mapM_append, here, later]
  rfl

theorem Writes.cons {site : Site} {stroke : Stroke}
    (success : site.writer.stroke source = .ok stroke) (later : Writes source sites lines) :
    Writes source (site :: sites) (⟨site.column, stroke⟩ :: lines) := by
  unfold Writes at later ⊢
  rw [List.mapM_cons, Site.line, success, later]
  rfl

/-- What a writer draws behind the closing line of its block. -/
def Writer.behind (source : List UInt8) : Writer → Read (List Stroke)
  | .typeBlock kind node => do return edges (← typeHeader source kind node)
  | _ => .ok []

def Writer.isBlock : Writer → Bool
  | .typeBlock _ _ | .enumBlock _ => true
  | _ => false

/-- Only edges are drawn behind a block. -/
theorem Writer.mem_behind {writer : Writer} {behind : List Stroke}
    (closes : writer.behind source = .ok behind) {stroke : Stroke} (inside : stroke ∈ behind) :
    ∃ text, stroke = .edge text := by
  cases writer with
  | typeBlock kind node =>
    obtain ⟨header, _, success⟩ := Read.bind_eq_ok.mp closes
    cases success
    obtain ⟨_, base, _, same⟩ := mem_edges.mp inside
    exact ⟨_, same⟩
  | _ =>
    cases closes
    cases inside

theorem Writer.filter_behind {writer : Writer} {behind : List Stroke}
    (closes : writer.behind source = .ok behind) :
    (behind.map (Line.mk 0)).filter Line.isContent = [] := by
  apply List.filter_eq_nil_iff.mpr
  intro line inside
  obtain ⟨stroke, isBehind, rfl⟩ := List.mem_map.mp inside
  obtain ⟨text, rfl⟩ := mem_behind closes isBehind
  exact Bool.false_ne_true

/-- What the sites draw where so many blocks are open. -/
inductive Draws (source : List UInt8) : Nat → List Site → List Line → Prop
  | none {depth : Nat} : Draws source depth [] []
  | member {depth : Nat} {site : Site} {text : String} {sites : List Site} {lines : List Line}
      (column : site.column = depth) (shows : site.writer.stroke source = .ok (.member text))
      (later : Draws source depth sites lines) :
      Draws source depth (site :: sites) (⟨depth, .member text⟩ :: lines)
  | block {depth : Nat} {site : Site} {header : String} {behind : List Stroke}
      {inner sites : List Site} {between lines : List Line} (column : site.column = depth)
      (opens : site.writer.stroke source = .ok (.opening header))
      (closes : site.writer.behind source = .ok behind)
      (inside : Draws source (depth + 1) inner between)
      (later : Draws source depth sites lines) :
      Draws source depth (site :: inner ++ sites)
        (⟨depth, .opening header⟩ :: between ++ ⟨depth, .closing⟩ :: behind.map (Line.mk 0) ++
          lines)

namespace Draws

theorem append {first second : List Site} {more : List Line}
    (here : Draws source depth first lines) (later : Draws source depth second more) :
    Draws source depth (first ++ second) (lines ++ more) := by
  induction here with
  | none => exact later
  | member column shows _ ih => exact .member column shows (ih later)
  | block column opens closes inside _ _ ih =>
    rw [List.append_assoc, List.append_assoc]
    exact .block column opens closes inside (ih later)

/-- A block with nothing drawn after it. -/
theorem single {site : Site} {header : String} {behind : List Stroke} {inner : List Site}
    {between : List Line} (column : site.column = depth)
    (opens : site.writer.stroke source = .ok (.opening header))
    (closes : site.writer.behind source = .ok behind)
    (inside : Draws source (depth + 1) inner between) :
    Draws source depth (site :: inner)
      (⟨depth, .opening header⟩ :: between ++ ⟨depth, .closing⟩ :: behind.map (Line.mk 0)) := by
  have whole := Draws.block column opens closes inside .none
  rwa [List.append_nil, List.append_nil] at whole

/-- The items of a list draw one line each. -/
theorem members {α β : Type} {site : α → Site} {read : α → Read β} {text : β → String}
    (column : ∀ item, (site item).column = depth)
    (shows : ∀ item value, read item = .ok value →
      (site item).writer.stroke source = .ok (.member (text value)))
    {items : List α} {values : List β} (success : items.mapM read = .ok values) :
    Draws source depth (items.map site)
      (values.map fun value => ⟨depth, .member (text value)⟩) := by
  induction items generalizing values with
  | nil =>
    cases success
    exact .none
  | cons item rest ih =>
    rw [List.mapM_cons] at success
    obtain ⟨value, here, success⟩ := Read.bind_eq_ok.mp success
    obtain ⟨others, later, success⟩ := Read.bind_eq_ok.mp success
    cases success
    exact .member (column item) (shows item value here) (ih later)

/-- Of what they draw, the sites write the opening and member lines. -/
theorem writes (draws : Draws source depth sites lines) :
    Writes source sites (lines.filter Line.isContent) := by
  induction draws with
  | none => exact writes_nil source
  | member column shows _ ih =>
    subst column
    exact ih.cons shows
  | @block depth site header behind inner sites between lines column opens closes _ _ here later =>
    subst column
    rw [List.filter_append, List.filter_append, List.filter_cons_of_pos rfl,
      List.filter_cons_of_neg Bool.false_ne_true, Writer.filter_behind closes, List.append_nil]
    exact (here.cons opens).append later

end Draws

/-- Among the lines of all sites, the block of one of them, and the strokes directly behind its
closing line, with no edge after them. The sites before it write the lines before it. -/
inductive BlockOf (source : List UInt8) (site : Site) (behind : List Stroke) :
    List Site → List Line → Prop
  | stands {before after : List Site} {earlier between later : List Line} {header : String}
      (written : Writes source before (earlier.filter Line.isContent))
      (opens : site.writer.stroke source = .ok (.opening header))
      (deeper : ∀ line ∈ between, line.stroke = .closing → site.column < line.column)
      (ends : ∀ line ∈ later.head?, line.isEdge = false) :
      BlockOf source site behind (before ++ site :: after)
        (earlier ++ (⟨site.column, .opening header⟩ :: between ++
          ⟨site.column, .closing⟩ :: behind.map (Line.mk 0)) ++ later)

namespace BlockOf

variable {site : Site} {behind : List Stroke}

theorem append_left {first : List Site} {more : List Line}
    (block : BlockOf source site behind sites lines)
    (written : Writes source first (more.filter Line.isContent)) :
    BlockOf source site behind (first ++ sites) (more ++ lines) := by
  cases block with
  | @stands before after earlier between later header before_written opens deeper ends =>
    have front := written.append before_written
    rw [← List.filter_append] at front
    rw [← List.append_assoc, ← List.append_assoc, ← List.append_assoc]
    exact .stands front opens deeper ends

/-- A site with its own line comes before. -/
theorem cons (block : BlockOf source site behind sites lines) {first : Site} {stroke : Stroke}
    (success : first.writer.stroke source = .ok stroke)
    (content : (Line.mk first.column stroke).isContent = true) :
    BlockOf source site behind (first :: sites) (⟨first.column, stroke⟩ :: lines) := by
  have written : Writes source [first]
      ([(⟨first.column, stroke⟩ : Line)].filter Line.isContent) := by
    rw [List.filter_cons_of_pos content]
    exact (writes_nil source).cons success
  exact block.append_left written

end BlockOf

end ClassSketch.Outline
