import ClassSketch.Proofs.Text.Ending

set_option autoImplicit false

namespace ClassSketch.Text

theorem startsSolid_nil : StartsSolid [] := by
  intro c first
  cases first

theorem startsSolid_cons {c : Char} (solid : isBlank c = false) (rest : List Char) :
    StartsSolid (c :: rest) := by
  intro other same
  cases same
  exact solid

theorem startsSolid_reverse {text : List Char} (trimmed : Trimmed text) :
    StartsSolid text.reverse := by
  intro c first
  rw [List.head?_reverse] at first
  exact trimmed c first

theorem startsSolid_stripChars (text : List Char) : StartsSolid (stripChars text) := by
  intro c first
  have isPrefix : stripChars text <+: text.dropWhile isBlank := by
    have suffix := List.dropWhile_suffix isBlank (l := (text.dropWhile isBlank).reverse)
    have reversed := List.reverse_prefix.mpr suffix
    rwa [List.reverse_reverse] at reversed
  have kept := List.head?_dropWhile_not isBlank text
  obtain ⟨rest, whole⟩ := isPrefix
  rw [← whole, List.head?_append, first, Option.some_or] at kept
  exact kept

theorem stripChars_eq_self_iff {text : List Char} :
    stripChars text = text ↔ StartsSolid text ∧ Trimmed text := by
  constructor
  · intro same
    rw [← same]
    exact ⟨startsSolid_stripChars text, trimmed_stripChars text⟩
  · rintro ⟨solid, trimmed⟩
    rw [stripChars, dropWhile_of_startsSolid solid,
      dropWhile_of_startsSolid (startsSolid_reverse trimmed), List.reverse_reverse]

theorem startsSolid_foldBreaks {text : List Char} (solid : StartsSolid text) :
    StartsSolid (foldBreaks text) := by
  cases text with
  | nil =>
    rw [foldBreaks]
    exact startsSolid_nil
  | cons c later =>
    have first := solid c rfl
    rw [foldBreaks_keep (afterBreak?_of_solid first later)]
    exact startsSolid_cons first _

/-- Every line feed stands in a break. -/
theorem not_mem_foldBreaks (text : List Char) : '\n' ∉ foldBreaks text := by
  induction text using fold_induct with
  | nil =>
    rw [foldBreaks]
    exact List.not_mem_nil
  | fold matched rest isBreak solid ih =>
    rw [foldBreaks_break isBreak solid]
    simpa using ih
  | keep c later none ih =>
    have other : '\n' ≠ c := by
      rintro rfl
      exact afterBreak?_eq_none_iff.mp none ['\n'] (List.prefix_append ['\n'] later) isBreak_feed
    rw [foldBreaks_keep none]
    simpa [other] using ih

/-- Stripping leaves the text as it is. -/
def Stripped (text : String) : Prop := strip text = text

theorem stripped_iff {text : String} :
    Stripped text ↔ StartsSolid text.toList ∧ Trimmed text.toList := by
  rw [← stripChars_eq_self_iff, Stripped, strip]
  constructor
  · intro same
    simpa using congrArg String.toList same
  · intro same
    rw [same, String.ofList_toList]

theorem stripped_empty : Stripped "" := by
  rw [Stripped]
  decide

theorem stripped_strip (text : String) : Stripped (strip text) := by
  rw [stripped_iff, strip, String.toList_ofList]
  exact ⟨startsSolid_stripChars text.toList, trimmed_stripChars text.toList⟩

theorem stripped_foldExpression (text : String) : Stripped (foldExpression text) := by
  rw [stripped_iff, foldExpression, String.toList_ofList]
  exact ⟨startsSolid_foldBreaks (startsSolid_stripChars text.toList),
    trimmed_foldBreaks _ (trimmed_stripChars text.toList)⟩

theorem not_mem_foldExpression (text : String) : '\n' ∉ (foldExpression text).toList := by
  rw [foldExpression, String.toList_ofList]
  exact not_mem_foldBreaks (stripChars text.toList)

end ClassSketch.Text
