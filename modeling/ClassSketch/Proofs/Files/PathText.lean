import ClassSketch.Files.Path
import ClassSketch.Proofs.Files.Sources
import ClassSketch.Proofs.Text.Pieces

set_option autoImplicit false

namespace ClassSketch.Files

open ClassSketch.Text

/-- A component that the text of a path can give. -/
structure IsPart (part : String) : Prop where
  filled : part ≠ ""
  notHere : part ≠ "."
  single : '/' ∉ part.toList

theorem PlainName.isPart {name : String} (plain : PlainName name) : IsPart name :=
  ⟨plain.filled, plain.notHere, plain.single⟩

namespace Path

theorem isPart_ofText (text : String) : ∀ part ∈ (ofText text).parts, IsPart part := by
  intro part inside
  simp only [ofText, splitAtChar, List.mem_filter, List.mem_map, Bool.and_eq_true, bne_iff_ne]
    at inside
  obtain ⟨⟨piece, isPiece, rfl⟩, filled, notHere⟩ := inside
  refine ⟨filled, notHere, ?_⟩
  rw [String.toList_ofList]
  exact not_mem_of_mem_pieces isPiece

theorem filter_isPart {parts : List String} (plain : ∀ part ∈ parts, IsPart part) :
    (parts.filter fun part => part != "" && part != ".") = parts := by
  rw [List.filter_eq_self]
  intro part inside
  simp [(plain part inside).filled, (plain part inside).notHere]

theorem splitAtChar_joined {parts : List String} (plain : ∀ part ∈ parts, IsPart part)
    (filled : parts ≠ []) : splitAtChar '/' (joinWith "/" parts) = parts := by
  cases parts with
  | nil => exact absurd rfl filled
  | cons first rest =>
    have split := pieces_joinWith fun text inside => (plain text inside).single
    have slash : String.ofList ['/'] = "/" := by decide
    rw [slash] at split
    rw [splitAtChar, split, List.map_map]
    exact List.map_id'' (fun _ => String.ofList_toList) (first :: rest)

theorem joined_starts {first : String} (rest : List String) (plain : IsPart first) :
    ∃ c later, (joinWith "/" (first :: rest)).toList = c :: later ∧ c ≠ '/' := by
  have filled : first.toList ≠ [] := fun empty => plain.filled (String.toList_inj.mp empty)
  obtain ⟨c, others, chars⟩ := List.exists_cons_of_ne_nil filled
  have other : c ≠ '/' := by
    rintro rfl
    exact plain.single (chars ▸ List.mem_cons_self)
  cases rest with
  | nil => exact ⟨c, others, chars, other⟩
  | cons second more =>
    refine ⟨c, others ++ ("/" ++ joinWith "/" (second :: more)).toList, ?_, other⟩
    rw [joinWith, String.append_assoc, String.toList_append, chars, List.cons_append]

/-- A path whose components a text can give is read back from its text. -/
theorem ofText_toText {path : Path} (plain : ∀ part ∈ path.parts, IsPart part) :
    ofText path.toText = path := by
  obtain ⟨anchor, parts⟩ := path
  cases parts with
  | nil => cases anchor <;> decide
  | cons first rest =>
    have kept := filter_isPart plain
    have split := splitAtChar_joined plain (List.cons_ne_nil first rest)
    obtain ⟨c, later, chars, other⟩ := joined_starts rest (plain first (by simp))
    have shown : toText ⟨anchor, first :: rest⟩ = anchor.text ++ joinWith "/" (first :: rest) := by
      simp [toText]
    rw [splitAtChar] at split
    rw [shown, ofText, splitAtChar, String.toList_append]
    cases anchor with
    | working =>
      have empty : Anchor.working.text.toList = [] := by decide
      rw [empty, List.nil_append, split, kept, chars, anchorOf]
      all_goals simp [other]
    | root =>
      have slash : Anchor.root.text.toList = ['/'] := by decide
      rw [slash, List.singleton_append, pieces, if_pos rfl, List.map_cons, split, chars, anchorOf]
      all_goals simp [other, kept]
    | doubleRoot =>
      have slashes : Anchor.doubleRoot.text.toList = ['/', '/'] := by decide
      rw [slashes, List.cons_append, List.singleton_append, pieces, if_pos rfl, pieces, if_pos rfl,
        List.map_cons, List.map_cons, split, chars, anchorOf]
      all_goals simp [other, kept]

end Path

end ClassSketch.Files
