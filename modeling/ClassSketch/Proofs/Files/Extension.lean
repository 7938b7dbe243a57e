import ClassSketch.Files.Path
import ClassSketch.Language

set_option autoImplicit false

namespace ClassSketch.Text

/-- A text cut at its last occurrence of a character. -/
structure CutAt (mark : Char) (text front back : List Char) : Prop where
  whole : text = front ++ mark :: back
  last : mark ∉ back

variable {mark : Char} {text front back : List Char}

theorem CutAt.takeWhile_reverse (cut : CutAt mark text front back) :
    text.reverse.takeWhile (fun c => c != mark) = back.reverse := by
  have plain : ∀ c ∈ back.reverse, (c != mark) = true := by
    intro c inside
    have member : c ∈ back := List.mem_reverse.mp inside
    have other : c ≠ mark := fun same => cut.last (same ▸ member)
    simpa using other
  rw [cut.whole, List.reverse_append, List.reverse_cons, List.append_assoc,
    List.takeWhile_append_of_pos plain]
  simp

theorem CutAt.dropWhile_reverse (cut : CutAt mark text front back) :
    text.reverse.dropWhile (fun c => c != mark) = mark :: front.reverse := by
  have split := List.takeWhile_append_dropWhile (p := fun c => c != mark) (l := text.reverse)
  rw [cut.takeWhile_reverse] at split
  have whole : text.reverse = back.reverse ++ (mark :: front.reverse) := by
    rw [cut.whole]
    simp
  exact List.append_cancel_left (split.trans whole)

theorem exists_cutAt (inside : mark ∈ text) : ∃ front back, CutAt mark text front back := by
  have reversed : mark ∈ text.reverse := List.mem_reverse.mpr inside
  obtain ⟨back, front, split, before⟩ := List.eq_append_cons_of_mem reversed
  refine ⟨front.reverse, back.reverse, ?_, by simpa using before⟩
  have whole := congrArg List.reverse split
  simpa using whole

end ClassSketch.Text

namespace ClassSketch.Language

open ClassSketch.Text

theorem lastComponent_eq_self {name : List Char} (single : '/' ∉ name) :
    lastComponent name = name := by
  have plain : ∀ c ∈ name.reverse, (c != '/') = true := by
    intro c inside
    have member : c ∈ name := List.mem_reverse.mp inside
    have other : c ≠ '/' := fun same => single (same ▸ member)
    simpa using other
  have kept : (name.reverse ++ []).takeWhile (fun c => c != '/') = name.reverse ++ [] :=
    List.takeWhile_append_of_pos plain
  rw [List.append_nil] at kept
  rw [lastComponent, kept, List.reverse_reverse]

/-- What stands before a slash is no part of the last component. -/
theorem lastComponent_append (folders name : List Char) :
    lastComponent (folders ++ '/' :: name) = lastComponent name := by
  have reversed : (folders ++ '/' :: name).reverse = name.reverse ++ '/' :: folders.reverse := by
    simp
  rw [lastComponent, lastComponent, reversed, List.takeWhile_append]
  split
  · rename_i whole
    have same := (List.takeWhile_prefix (l := name.reverse) fun c => c != '/').eq_of_length whole
    rw [List.takeWhile_cons_of_neg (by decide), List.append_nil, same]
  · rfl

theorem extensionOf_of_cutAt {path stem ending : List Char}
    (cut : CutAt '.' (lastComponent path) stem ending) :
    extensionOf path = if stem.any (fun c => c != '.') then '.' :: ending else [] := by
  have dotted : (lastComponent path).contains '.' = true := by
    rw [List.contains_iff_mem, cut.whole]
    simp
  simp only [extensionOf, dotted, cut.takeWhile_reverse, cut.dropWhile_reverse, List.tail_cons,
    List.any_reverse, List.reverse_reverse, Bool.true_and]

theorem extensionOf_of_undotted {path : List Char} (undotted : '.' ∉ lastComponent path) :
    extensionOf path = [] := by
  have absent : (lastComponent path).contains '.' = false := by simpa using undotted
  simp only [extensionOf, absent, Bool.false_and, Bool.false_eq_true, ↓reduceIte]

theorem isSupported_iff_extensionOf (path : String) :
    isSupported path = true ↔
      (extensionOf path.toList).map Char.toLower = (extension csharp).toList := by
  simp only [isSupported, ofPath?, all, List.find?_singleton]
  by_cases same : (extension csharp).toList = (extensionOf path.toList).map Char.toLower
  · simp [same]
  · have other := Ne.symm same
    simp [same, other]

theorem not_dot_of_lower {ending : List Char} (lower : ending.map Char.toLower = ['c', 's']) :
    '.' ∉ ending := by
  intro inside
  have member : Char.toLower '.' ∈ ending.map Char.toLower := List.mem_map_of_mem inside
  rw [lower] at member
  revert member
  decide

/-- A path names a source when its last component is a stem with more than dots in it, a dot, and
the letters of the extension in either case. -/
theorem isSupported_iff (path : String) :
    isSupported path = true ↔ ∃ stem ending, CutAt '.' (lastComponent path.toList) stem ending ∧
      ending.map Char.toLower = ['c', 's'] ∧ ∃ c ∈ stem, c ≠ '.' := by
  have letters : (extension csharp).toList = ['.', 'c', 's'] := by decide
  rw [isSupported_iff_extensionOf, letters]
  constructor
  · intro found
    by_cases dotted : '.' ∈ lastComponent path.toList
    · obtain ⟨stem, ending, cut⟩ := exists_cutAt dotted
      rw [extensionOf_of_cutAt cut] at found
      by_cases solid : stem.any (fun c => c != '.') = true
      · rw [if_pos solid, List.map_cons, List.cons.injEq] at found
        refine ⟨stem, ending, cut, found.2, ?_⟩
        simpa using solid
      · rw [if_neg solid] at found
        cases found
    · rw [extensionOf_of_undotted dotted] at found
      cases found
  · rintro ⟨stem, ending, cut, lower, solid⟩
    have any : stem.any (fun c => c != '.') = true := by simpa using solid
    have dot : Char.toLower '.' = '.' := by decide
    rw [extensionOf_of_cutAt cut, if_pos any, List.map_cons, lower, dot]

theorem ofPath?_eq_some_iff (path : String) :
    ofPath? path = some .csharp ↔ ∃ stem ending,
      lastComponent path.toList = stem ++ '.' :: ending ∧ ending.map Char.toLower = ['c', 's'] ∧
        ∃ c ∈ stem, c ≠ '.' := by
  have only : ofPath? path = some .csharp ↔ isSupported path = true := by
    rw [isSupported]
    cases ofPath? path with
    | none => simp
    | some language => cases language; simp
  rw [only, isSupported_iff]
  constructor
  · rintro ⟨stem, ending, cut, lower, solid⟩
    exact ⟨stem, ending, cut.whole, lower, solid⟩
  · rintro ⟨stem, ending, whole, lower, solid⟩
    exact ⟨stem, ending, ⟨whole, not_dot_of_lower lower⟩, lower, solid⟩

/-- The folders before a name do not matter. -/
theorem ofPath?_append (folders name : String) :
    ofPath? (folders ++ "/" ++ name) = ofPath? name := by
  have slash : "/".toList = ['/'] := rfl
  have same : lastComponent (folders ++ "/" ++ name).toList = lastComponent name.toList := by
    rw [String.toList_append, String.toList_append, slash, List.append_assoc,
      List.singleton_append, lastComponent_append]
  rw [ofPath?, ofPath?, extensionOf, extensionOf, same]

end ClassSketch.Language

namespace ClassSketch.Files.Path

open ClassSketch.Text

/-- The stem of a name is what stands before the last dot, when there is something on both
sides. -/
theorem stemOf_of_cutAt {name : String} {stem ending : List Char}
    (cut : CutAt '.' name.toList stem ending) (before : stem ≠ []) (behind : ending ≠ []) :
    stemOf name = String.ofList stem := by
  have filled : (ending.reverse.isEmpty || stem.reverse.isEmpty) = false := by
    simp [before, behind]
  simp only [stemOf, cut.takeWhile_reverse, cut.dropWhile_reverse, List.tail_cons, filled,
    Bool.false_eq_true, ↓reduceIte, List.reverse_reverse]

/-- An extension of sources, in either letter case. -/
def IsExtension (ending : String) : Prop :=
  ending.toList.map Char.toLower = (Language.extension .csharp).toList

theorem exists_extension {name : String} (single : '/' ∉ name.toList)
    (source : Language.isSupported name = true) :
    stemOf name ≠ "" ∧ ∃ ending, name = stemOf name ++ ending ∧ IsExtension ending := by
  obtain ⟨stem, ending, cut, lower, c, inside, _⟩ := (Language.isSupported_iff name).mp source
  rw [Language.lastComponent_eq_self single] at cut
  have before : stem ≠ [] := List.ne_nil_of_mem inside
  have behind : ending ≠ [] := by
    rintro rfl
    cases lower
  rw [stemOf_of_cutAt cut before behind]
  refine ⟨by simpa using before, String.ofList ('.' :: ending), ?_, ?_⟩
  · apply String.toList_inj.mp
    rw [String.toList_append, String.toList_ofList, String.toList_ofList]
    exact cut.whole
  · have dot : Char.toLower '.' = '.' := by decide
    rw [IsExtension, String.toList_ofList, List.map_cons, lower, dot]
    decide

theorem eq_dot_of_toLower {c : Char} (lower : c.toLower = '.') : c = '.' := by
  unfold Char.toLower at lower
  split at lower
  · -- a capital letter is moved up by 32, past every dot
    rename_i capital
    have code := congrArg (fun c : Char => c.val.toNat) lower
    have bounds : 65 ≤ c.val.toNat ∧ c.val.toNat ≤ 90 := capital
    have sum : (c.val + ('a'.val - 'A'.val)).toNat = c.val.toNat + 32 := by
      have small : c.val.toNat + 32 < 2 ^ 32 := by omega
      rw [UInt32.toNat_add]
      exact Nat.mod_eq_of_lt small
    simp only [sum] at code
    change c.val.toNat + 32 = 46 at code
    omega
  · exact lower

/-- An extension in any case is cut off whole. -/
theorem stemOf_append {stem ending : String} (filled : stem ≠ "")
    (isExtension : IsExtension ending) : stemOf (stem ++ ending) = stem := by
  have letters : (Language.extension .csharp).toList = ['.', 'c', 's'] := by decide
  rw [IsExtension, letters] at isExtension
  cases text : ending.toList with
  | nil =>
    rw [text] at isExtension
    cases isExtension
  | cons first rest =>
    rw [text, List.map_cons, List.cons.injEq] at isExtension
    have dot : first = '.' := eq_dot_of_toLower isExtension.1
    have cut : CutAt '.' (stem ++ ending).toList stem.toList rest := by
      refine ⟨?_, Language.not_dot_of_lower isExtension.2⟩
      rw [String.toList_append, text, dot]
    have before : stem.toList ≠ [] := by
      intro empty
      exact filled (String.toList_inj.mp empty)
    have behind : rest ≠ [] := by
      rintro rfl
      cases isExtension.2
    rw [stemOf_of_cutAt cut before behind, String.ofList_toList]

end ClassSketch.Files.Path
