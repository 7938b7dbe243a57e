import ClassSketch.Text.Fold

set_option autoImplicit false

namespace ClassSketch.Text

/-- A line feed, with or without a carriage return, after spaces and tabs and before white space. -/
inductive IsBreak : List Char → Prop
  | around {front feed back : List Char} (indents : ∀ c ∈ front, isIndent c = true)
      (feeds : feed = ['\n'] ∨ feed = ['\r', '\n']) (blanks : ∀ c ∈ back, isBlank c = true) :
      IsBreak (front ++ feed ++ back)

/-- No white space stands at the start. -/
def StartsSolid (text : List Char) : Prop := ∀ c, text.head? = some c → isBlank c = false

theorem startsSolid_dropWhile (text : List Char) : StartsSolid (text.dropWhile isBlank) := by
  intro c first
  have kept := List.head?_dropWhile_not isBlank text
  rw [first] at kept
  exact kept

theorem dropWhile_of_startsSolid {text : List Char} (solid : StartsSolid text) :
    text.dropWhile isBlank = text := by
  cases text with
  | nil => rfl
  | cons c rest =>
    have first : ¬ isBlank c = true := by simp [solid c rfl]
    exact List.dropWhile_cons_of_neg first

theorem isBlank_of_isIndent {c : Char} (indent : isIndent c = true) : isBlank c = true := by
  simp only [isIndent, Bool.or_eq_true, beq_iff_eq] at indent
  rcases indent with rfl | rfl <;> decide

variable {text matched rest : List Char}

theorem IsBreak.isBlank (isBreak : IsBreak matched) : ∀ c ∈ matched, Text.isBlank c = true := by
  cases isBreak with
  | @around front feed back indents feeds blanks =>
    have feedBlank : ∀ c ∈ feed, Text.isBlank c = true := by
      rcases feeds with rfl | rfl <;> simp [Text.isBlank]
    intro c inside
    simp only [List.mem_append] at inside
    rcases inside with (isFront | isFeed) | isBack
    · exact isBlank_of_isIndent (indents c isFront)
    · exact feedBlank c isFeed
    · exact blanks c isBack

theorem IsBreak.mem_feed (isBreak : IsBreak matched) : '\n' ∈ matched := by
  cases isBreak with
  | around indents feeds blanks => rcases feeds with rfl | rfl <;> simp

theorem isBreak_feed : IsBreak ['\n'] :=
  .around (List.forall_mem_nil _) (.inl rfl) (List.forall_mem_nil _)

theorem IsBreak.ne_nil (isBreak : IsBreak matched) : matched ≠ [] :=
  List.ne_nil_of_mem isBreak.mem_feed

/-- Whatever break a text starts with, the white space behind it is taken too. -/
theorem afterBreak?_of_isBreak (isBreak : IsBreak matched) (rest : List Char) :
    afterBreak? (matched ++ rest) = some (rest.dropWhile isBlank) := by
  cases isBreak with
  | @around front feed back indents feeds blanks =>
    have behind : (back ++ rest).dropWhile isBlank = rest.dropWhile isBlank :=
      List.dropWhile_append_of_pos blanks
    rw [List.append_assoc, List.append_assoc, afterBreak?, List.dropWhile_append_of_pos indents]
    rcases feeds with rfl | rfl
    · exact congrArg some behind
    · exact congrArg some behind

theorem exists_isBreak (found : afterBreak? text = some rest) :
    ∃ matched, IsBreak matched ∧ text = matched ++ rest ∧ StartsSolid rest := by
  have taken (feed later : List Char) (feeds : feed = ['\n'] ∨ feed = ['\r', '\n'])
      (starts : text.dropWhile isIndent = feed ++ later)
      (same : later.dropWhile isBlank = rest) :
      ∃ matched, IsBreak matched ∧ text = matched ++ rest ∧ StartsSolid rest := by
    subst same
    refine ⟨text.takeWhile isIndent ++ feed ++ later.takeWhile isBlank, ?_, ?_,
      startsSolid_dropWhile later⟩
    · exact .around (List.all_eq_true.mp List.all_takeWhile) feeds
        (List.all_eq_true.mp List.all_takeWhile)
    · rw [List.append_assoc, List.append_assoc, List.takeWhile_append_dropWhile, ← starts,
        List.takeWhile_append_dropWhile]
  unfold afterBreak? at found
  split at found
  · rename_i later starts
    exact taken ['\n'] later (.inl rfl) starts (Option.some.inj found)
  · rename_i later starts
    exact taken ['\r', '\n'] later (.inr rfl) starts (Option.some.inj found)
  · cases found

/-- No break starts where the text goes on with another character. -/
theorem afterBreak?_eq_none_iff :
    afterBreak? text = none ↔ ∀ matched, matched <+: text → ¬ IsBreak matched := by
  constructor
  · rintro none matched ⟨rest, rfl⟩ isBreak
    rw [afterBreak?_of_isBreak isBreak] at none
    cases none
  · intro absent
    cases found : afterBreak? text with
    | none => rfl
    | some rest =>
      obtain ⟨matched, isBreak, rfl, _⟩ := exists_isBreak found
      exact absurd isBreak (absent matched (List.prefix_append matched rest))

theorem afterBreak?_of_solid {c : Char} (solid : isBlank c = false) (later : List Char) :
    afterBreak? (c :: later) = none := by
  rw [afterBreak?_eq_none_iff]
  intro matched isPrefix isBreak
  obtain ⟨first, others, rfl⟩ := List.exists_cons_of_ne_nil isBreak.ne_nil
  have same : first = c := (List.cons_prefix_cons.mp isPrefix).1
  have blank := isBreak.isBlank first List.mem_cons_self
  rw [same, solid] at blank
  cases blank

theorem foldBreaks_found (found : afterBreak? text = some rest) :
    foldBreaks text = ' ' :: foldBreaks rest := by
  cases text with
  | nil => cases found
  | cons c later =>
    rw [foldBreaks]
    split
    · rename_i other same
      rw [found] at same
      cases same
      rfl
    · rename_i none
      rw [found] at none
      cases none

theorem foldBreaks_break (isBreak : IsBreak matched) (solid : StartsSolid rest) :
    foldBreaks (matched ++ rest) = ' ' :: foldBreaks rest := by
  have found := afterBreak?_of_isBreak isBreak rest
  rw [dropWhile_of_startsSolid solid] at found
  exact foldBreaks_found found

theorem foldBreaks_keep {c : Char} {later : List Char} (none : afterBreak? (c :: later) = none) :
    foldBreaks (c :: later) = c :: foldBreaks later := by
  rw [foldBreaks]
  split
  · rename_i found
    rw [none] at found
    cases found
  · rfl

/-- Induction over a text by what the folding does at its start. -/
theorem fold_induct {holds : List Char → Prop} (nil : holds [])
    (fold : ∀ matched rest, IsBreak matched → StartsSolid rest → holds rest →
      holds (matched ++ rest))
    (keep : ∀ c later, afterBreak? (c :: later) = none → holds later → holds (c :: later))
    (text : List Char) : holds text := by
  induction text using foldBreaks.induct with
  | case1 => exact nil
  | case2 c later rest found ih =>
    obtain ⟨matched, isBreak, whole, solid⟩ := exists_isBreak found
    rw [whole]
    exact fold matched rest isBreak solid ih
  | case3 c later none ih => exact keep c later none ih

end ClassSketch.Text
