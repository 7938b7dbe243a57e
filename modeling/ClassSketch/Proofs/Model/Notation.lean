import ClassSketch.Model.Notation
import ClassSketch.Proofs.Text.Pieces

set_option autoImplicit false

namespace ClassSketch.Text

theorem joinWith_ne_empty (separator : String) {first : String} (filled : first ≠ "")
    (rest : List String) : joinWith separator (first :: rest) ≠ "" := by
  cases rest with
  | nil => exact filled
  | cons second others =>
    intro empty
    rw [joinWith, String.append_eq_empty_iff, String.append_eq_empty_iff] at empty
    exact filled empty.1.1

end ClassSketch.Text

namespace ClassSketch.Model.Notation

open ClassSketch.Text

variable {words : List String}

/-- Each of some words that are not empty is followed by a space. -/
theorem spaced_cons {first : String} {rest : List String}
    (filled : ∀ word ∈ first :: rest, word ≠ "") :
    spaced (first :: rest) = first ++ " " ++ spaced rest := by
  rw [List.forall_mem_cons] at filled
  cases rest with
  | nil =>
    rw [spaced, if_neg (joinWith_ne_empty " " filled.1 []), joinWith]
    exact (String.append_empty).symm
  | cons second others =>
    have later : second ≠ "" := filled.2 second List.mem_cons_self
    rw [spaced, if_neg (joinWith_ne_empty " " filled.1 _), spaced,
      if_neg (joinWith_ne_empty " " later others), joinWith]
    simp only [String.append_assoc]

theorem spaced_append {first second : List String} (filled : ∀ word ∈ first, word ≠ "")
    (others : ∀ word ∈ second, word ≠ "") :
    spaced (first ++ second) = spaced first ++ spaced second := by
  induction first with
  | nil => exact (String.empty_append).symm
  | cons head rest ih =>
    have all : ∀ word ∈ head :: rest ++ second, word ≠ "" :=
      List.forall_mem_append.mpr ⟨filled, others⟩
    have later := ih (List.forall_mem_cons.mp filled).2
    rw [List.cons_append] at all ⊢
    rw [spaced_cons all, later, spaced_cons filled]
    simp only [String.append_assoc]

/-- Cut at its spaces, a text gives its words back, and nothing behind the last space. -/
theorem pieces_spaced (filled : ∀ word ∈ words, word ≠ "")
    (single : ∀ word ∈ words, ' ' ∉ word.toList) :
    pieces ' ' (spaced words).toList = words.map String.toList ++ [[]] := by
  induction words with
  | nil => rfl
  | cons word rest ih =>
    have cut := spaced_cons filled
    rw [List.forall_mem_cons] at filled single
    have space : " ".toList = [' '] := rfl
    rw [cut, String.toList_append, String.toList_append, space, List.append_assoc,
      List.singleton_append, pieces_append_cons, pieces_of_not_mem single.1,
      ih filled.2 single.2]
    rfl

/-- A way to write modifiers in which each shows something, two of them differ, and a space comes
from the modifier only. -/
structure Tells (write : String → String) : Prop where
  filled : ∀ modifier, write modifier ≠ ""
  injective : ∀ first second, write first = write second → first = second
  single : ∀ modifier : String, ' ' ∉ modifier.toList → ' ' ∉ (write modifier).toList

/-- No modifier holds a space. -/
def Spaceless (modifiers : List String) : Prop := ∀ modifier ∈ modifiers, ' ' ∉ modifier.toList

namespace Tells

variable {write : String → String}

theorem map_filled (tells : Tells write) (modifiers : List String) :
    ∀ word ∈ modifiers.map write, word ≠ "" :=
  List.forall_mem_map.mpr fun modifier _ => tells.filled modifier

theorem spaced_append (tells : Tells write) (first second : List String) :
    spaced ((first ++ second).map write) =
      spaced (first.map write) ++ spaced (second.map write) := by
  rw [List.map_append]
  exact Notation.spaced_append (tells.map_filled first) (tells.map_filled second)

theorem pieces_spaced (tells : Tells write) {modifiers : List String}
    (spaceless : Spaceless modifiers) :
    pieces ' ' (spaced (modifiers.map write)).toList =
      (modifiers.map write).map String.toList ++ [[]] :=
  Notation.pieces_spaced (tells.map_filled modifiers)
    (List.forall_mem_map.mpr fun modifier inside =>
      tells.single modifier (spaceless modifier inside))

/-- The text tells which modifiers were written, and in which order. -/
theorem spaced_inj (tells : Tells write) {first second : List String} (left : Spaceless first)
    (right : Spaceless second) :
    spaced (first.map write) = spaced (second.map write) ↔ first = second := by
  constructor
  · intro same
    have cut := tells.pieces_spaced left
    rw [same, tells.pieces_spaced right, List.append_left_inj] at cut
    have words := (List.map_inj_right fun _ _ => String.toList_inj.mp).mp cut
    exact ((List.map_inj_right tells.injective).mp words).symm
  · rintro rfl
    rfl

end Tells

/-- The modifier that a word of the notation stands for. -/
def modifierOf (word : List Char) : List Char :=
  if word = ['+'] then "public".toList
  else if word = ['-'] then "private".toList
  else if word = ['#'] then "protected".toList
  else if word.head? = some '\x7b' then word.tail.dropLast
  else (word.drop 2).dropLast.dropLast

theorem modifierOf_stereotype (modifier : String) :
    modifierOf (stereotype modifier).toList = modifier.toList := by
  have shown : (stereotype modifier).toList =
      '<' :: '<' :: (modifier.toList ++ ['>'] ++ ['>']) := by
    simp [stereotype]
  rw [shown]
  simp [modifierOf]

theorem modifierOf_braces (modifier : String) :
    modifierOf ("\x7b" ++ modifier ++ "\x7d").toList = modifier.toList := by
  have shown : ("\x7b" ++ modifier ++ "\x7d").toList = '\x7b' :: (modifier.toList ++ ['\x7d']) := by
    simp
  rw [shown]
  simp [modifierOf]

theorem modifierOf_memberWord (modifier : String) :
    modifierOf (memberWord modifier).toList = modifier.toList :=
  memberWord_cases (motive := fun modifier word => modifierOf word.toList = modifier.toList)
    (by decide) (by decide) (by decide) modifierOf_braces modifierOf_stereotype modifier

theorem tells_stereotype : Tells stereotype where
  filled modifier empty := by
    rw [stereotype, String.append_eq_empty_iff] at empty
    exact absurd empty.2 (by decide)
  injective first second same := by
    have read := modifierOf_stereotype first
    rw [same, modifierOf_stereotype] at read
    exact (String.toList_inj.mp read).symm
  single modifier spaceless := by
    simpa [stereotype] using spaceless

theorem tells_memberWord : Tells memberWord where
  filled modifier empty := by
    have read := modifierOf_memberWord modifier
    rw [empty] at read
    have none : modifier = "" := String.toList_inj.mp read.symm
    subst none
    exact absurd empty (by decide)
  injective first second same := by
    have read := modifierOf_memberWord first
    rw [same, modifierOf_memberWord] at read
    exact (String.toList_inj.mp read).symm
  single := by
    refine memberWord_cases
      (motive := fun modifier word => ' ' ∉ modifier.toList → ' ' ∉ word.toList) ?_ ?_ ?_ ?_ ?_
    · decide
    · decide
    · decide
    · intro modifier spaceless
      simpa using spaceless
    · exact tells_stereotype.single

/-- The modifiers that a type shows. -/
def shownOnTypes (modifiers : List String) : List String :=
  modifiers.filter fun word => word ∉ ["public", "private", "protected", "internal", "abstract"]

theorem ofType_eq (modifiers : List String) :
    ofType modifiers = spaced ((shownOnTypes modifiers).map stereotype) := by
  have shown : (modifiers.filter fun word => !hiddenOnTypes.contains word) =
      shownOnTypes modifiers := by
    simp [shownOnTypes, hiddenOnTypes]
  rw [ofType, shown]

theorem Spaceless.shownOnTypes {modifiers : List String} (spaceless : Spaceless modifiers) :
    Spaceless (shownOnTypes modifiers) :=
  fun modifier inside => spaceless modifier (List.mem_filter.mp inside).1

/-- The texts of two lists of modifiers, one behind the other, are the text of both. Where no
modifier holds a space, two members show the same text only for the same modifiers, and two types
only for the same modifiers apart from those that a type hides. -/
theorem modifier_texts_faithful :
    (∀ first second, ofType (first ++ second) = ofType first ++ ofType second) ∧
    (∀ first second, ofMember (first ++ second) = ofMember first ++ ofMember second) ∧
    (∀ first second, Spaceless first → Spaceless second →
      (ofMember first = ofMember second ↔ first = second)) ∧
    ∀ first second, Spaceless first → Spaceless second →
      (ofType first = ofType second ↔ shownOnTypes first = shownOnTypes second) := by
  refine ⟨?_, ?_, ?_, ?_⟩
  · intro first second
    rw [ofType_eq, ofType_eq, ofType_eq, shownOnTypes, List.filter_append]
    exact tells_stereotype.spaced_append _ _
  · intro first second
    exact tells_memberWord.spaced_append first second
  · intro first second left right
    exact tells_memberWord.spaced_inj left right
  · intro first second left right
    rw [ofType_eq, ofType_eq]
    exact tells_stereotype.spaced_inj left.shownOnTypes right.shownOnTypes

/-- Modifiers that look like the notation itself, and one without a character. -/
theorem lookalikes_told_apart :
    Spaceless ["public", "+", "", "\x7bstatic\x7d"] ∧ Spaceless ["+", "public", "", "static"] ∧
      ofMember ["public", "+", "", "\x7bstatic\x7d"] ≠ ofMember ["+", "public", "", "static"] ∧
      ofType ["public", "", "<<sealed>>"] = ofType ["", "abstract", "<<sealed>>"] := by
  have left : Spaceless ["public", "+", "", "\x7bstatic\x7d"] := by simp [Spaceless]
  have right : Spaceless ["+", "public", "", "static"] := by simp [Spaceless]
  obtain ⟨_, _, ofMember_inj, ofType_inj⟩ := modifier_texts_faithful
  refine ⟨left, right, ?_, ?_⟩
  · intro same
    exact absurd ((ofMember_inj _ _ left right).mp same) (by decide)
  · exact (ofType_inj _ _ (by simp [Spaceless]) (by simp [Spaceless])).mpr (by decide)

/-- A space inside a modifier can make it look like two. -/
example : ofMember ["unsafe>> <<extern"] = ofMember ["unsafe", "extern"] := by decide

end ClassSketch.Model.Notation
