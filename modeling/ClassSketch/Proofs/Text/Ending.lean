import ClassSketch.Proofs.Text.Break
import ClassSketch.Text.Affix

set_option autoImplicit false

namespace ClassSketch.Text

/-- The last character, if there is one. -/
def EndsIn (fits : Char → Prop) (text : List Char) : Prop := ∀ c, text.getLast? = some c → fits c

variable {fits : Char → Prop}

theorem endsIn_nil : EndsIn fits [] := by
  intro c last
  cases last

theorem endsIn_of_getLast? {c : Char} {text : List Char} (last : text.getLast? = some c)
    (good : fits c) : EndsIn fits text := by
  intro other same
  rw [last] at same
  cases same
  exact good

theorem endsIn_append {first second : List Char} (here : EndsIn fits first)
    (there : EndsIn fits second) : EndsIn fits (first ++ second) := by
  intro c last
  rw [List.getLast?_append] at last
  cases ending : second.getLast? with
  | none =>
    rw [ending, Option.none_or] at last
    exact here c last
  | some other =>
    rw [ending, Option.some_or] at last
    cases last
    exact there c ending

theorem endsIn_append_right {first second : List Char} (filled : second ≠ [])
    (there : EndsIn fits second) : EndsIn fits (first ++ second) := by
  intro c last
  have ending := List.getLast?_eq_some_getLast filled
  rw [List.getLast?_append, ending, Option.some_or, ← ending] at last
  exact there c last

theorem endsIn_cons (c : Char) {rest : List Char} (filled : rest ≠ []) (there : EndsIn fits rest) :
    EndsIn fits (c :: rest) := by
  rw [← List.singleton_append]
  exact endsIn_append_right filled there

theorem EndsIn.imp {weaker : Char → Prop} {text : List Char} (ends : EndsIn fits text)
    (implies : ∀ c, fits c → weaker c) : EndsIn weaker text :=
  fun c last => implies c (ends c last)

theorem endsWith_iff_getLast? {text ending : String} {c : Char} (single : ending.toList = [c]) :
    endsWith text ending = true ↔ text.toList.getLast? = some c := by
  rw [endsWith, List.isSuffixOf_iff_suffix, List.getLast?_eq_some_iff, single]
  constructor
  · rintro ⟨front, whole⟩
    exact ⟨front, whole.symm⟩
  · rintro ⟨front, whole⟩
    exact ⟨front, whole.symm⟩

/-- No white space stands at the end. -/
abbrev Trimmed (text : List Char) : Prop := EndsIn (fun c => isBlank c = false) text

theorem trimmed_stripChars (text : List Char) : Trimmed (stripChars text) := by
  intro c last
  rw [stripChars, List.getLast?_reverse] at last
  have kept := List.head?_dropWhile_not isBlank (text.dropWhile isBlank).reverse
  rw [last] at kept
  exact kept

theorem foldBreaks_ne_nil {text : List Char} (filled : text ≠ []) : foldBreaks text ≠ [] := by
  induction text using fold_induct with
  | nil => exact absurd rfl filled
  | fold matched rest isBreak solid _ =>
    rw [foldBreaks_break isBreak solid]
    exact List.cons_ne_nil _ _
  | keep c later none _ =>
    rw [foldBreaks_keep none]
    exact List.cons_ne_nil _ _

theorem trimmed_of_append {first second : List Char} (trimmed : Trimmed (first ++ second)) :
    Trimmed second := by
  intro c last
  apply trimmed c
  rw [List.getLast?_append, last, Option.some_or]

/-- Folding keeps the last character, for no break ends there. -/
theorem trimmed_foldBreaks (text : List Char) (trimmed : Trimmed text) :
    Trimmed (foldBreaks text) := by
  induction text using fold_induct with
  | nil =>
    rw [foldBreaks]
    exact endsIn_nil
  | fold matched rest isBreak solid ih =>
    have more : rest ≠ [] := by
      rintro rfl
      rw [List.append_nil] at trimmed
      have last : isBlank (matched.getLast isBreak.ne_nil) = false :=
        trimmed _ (List.getLast?_eq_some_getLast isBreak.ne_nil)
      rw [isBreak.isBlank _ (List.getLast_mem isBreak.ne_nil)] at last
      cases last
    rw [foldBreaks_break isBreak solid]
    exact endsIn_cons ' ' (foldBreaks_ne_nil more) (ih (trimmed_of_append trimmed))
  | keep c later none ih =>
    rw [foldBreaks_keep none]
    cases later with
    | nil =>
      rw [foldBreaks]
      exact trimmed
    | cons next rest =>
      have filled := List.cons_ne_nil next rest
      rw [← List.singleton_append] at trimmed
      exact endsIn_cons c (foldBreaks_ne_nil filled) (ih (trimmed_of_append trimmed))

end ClassSketch.Text
