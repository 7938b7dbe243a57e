import ClassSketch.Outline.Piece
import ClassSketch.Proofs.Text.Utf8

set_option autoImplicit false

namespace ClassSketch.Concrete.Node

/-- The text of a node when nothing hinders reading it. -/
def spelled (source : List UInt8) (node : Node) : String :=
  Text.Utf8.slice source node.mark.start node.mark.stop

theorem text_of_readable {source : List UInt8} {node : Node}
    (readable : node.mark.unreadable = none) : node.text source = .ok (node.spelled source) := by
  rw [text, readable, spelled]

end ClassSketch.Concrete.Node

namespace ClassSketch.Outline

open ClassSketch.Concrete ClassSketch.Text

/-- A readable node has a text whatever its offsets, as itself and under its role. From character to
character the text is that part of the source. A part that ends where it starts or starts behind the
source is empty, and any other shows the characters that are whole in it, in order, between marks
for those that are not. -/
theorem node_text_exact (text : String) {node : Node} (readable : node.mark.unreadable = none) :
    let source := Utf8.encode text.toList
    ∃ shown : String, node.text source = .ok shown ∧
      (∀ (parent : Node) (role : String), parent.field? role = some node →
        roleText source parent role = .ok shown) ∧
      (∀ first last, first ≤ last → node.mark.start = Utf8.offsetOf text.toList first →
        node.mark.stop = Utf8.offsetOf text.toList last →
        shown.toList = (text.toList.take last).drop first) ∧
      (node.mark.stop ≤ node.mark.start ∨ source.length ≤ node.mark.start → shown = "") ∧
      ∃ front ≤ 3, ∃ back ≤ 1, shown.toList =
        List.replicate front Utf8.replacement ++
          Utf8.wholeBetween node.mark.start node.mark.stop 0 text.toList ++
          List.replicate back Utf8.replacement := by
  intro source
  have read : node.text source = .ok (node.spelled source) := Node.text_of_readable readable
  have chars : (node.spelled source).toList =
      Utf8.decode ((source.take node.mark.stop).drop node.mark.start) := String.toList_ofList
  refine ⟨node.spelled source, read, ?_, ?_, ?_, ?_⟩
  · intro parent role found
    rw [roleText, found]
    exact read
  · intro first last ordered starts stops
    rw [chars, starts, stops]
    exact Utf8.decode_encode_between ordered
  · intro nothing
    have none : (source.take node.mark.stop).drop node.mark.start = [] := by
      rw [List.drop_eq_nil_iff, List.length_take]
      omega
    rw [none] at chars
    exact String.toList_inj.mp chars
  · obtain ⟨front, few, back, one, shown⟩ :=
      Utf8.decode_encode_part node.mark.start node.mark.stop 0 text.toList
    rw [Nat.sub_zero, Nat.sub_zero] at shown
    exact ⟨front, few, back, one, chars.trans shown⟩

/-- A name of one character that takes four bytes, and a node that cuts the letters around it. -/
theorem name_between_accents :
    let source := Utf8.encode "é😀é".toList
    let name : Node := .plain "identifier" (some "name") 2 6 []
    let torn : Node := .plain "identifier" none 1 7 []
    name.mark.unreadable = none ∧ torn.mark.unreadable = none ∧
      name.text source = .ok "😀" ∧
      roleText source (.plain "class_declaration" none 0 8 [torn, name]) "name" = .ok "😀" ∧
      ∃ shown : String, torn.text source = .ok shown ∧
        ∃ front ≤ 3, ∃ back ≤ 1, shown.toList =
          List.replicate front Utf8.replacement ++ ['😀'] ++
            List.replicate back Utf8.replacement := by
  intro source name torn
  obtain ⟨shown, read, named, between, _⟩ :=
    node_text_exact "é😀é" (rfl : name.mark.unreadable = none)
  obtain ⟨part, partRead, _, _, _, marked⟩ :=
    node_text_exact "é😀é" (rfl : torn.mark.unreadable = none)
  have same : shown = "😀" := by
    apply String.toList_inj.mp
    rw [between 1 2 (by decide) (by decide) (by decide)]
    decide
  subst same
  have whole : Utf8.wholeBetween 1 7 0 "é😀é".toList = ['😀'] := by decide
  exact ⟨rfl, rfl, read, named _ "name" rfl, part, partRead, whole ▸ marked⟩

end ClassSketch.Outline
