import ClassSketch.Outline.Piece
import ClassSketch.Proofs.Text.Stripped

set_option autoImplicit false

namespace ClassSketch.Text

/-- Wherever a break starts, the longest one gives way to a space. Everything else is kept. -/
inductive Folds : List Char → List Char → Prop
  | nil : Folds [] []
  | fold {matched rest folded : List Char} (isBreak : IsBreak matched)
      (longest : ∀ longer, longer <+: matched ++ rest → IsBreak longer →
        longer.length ≤ matched.length)
      (later : Folds rest folded) : Folds (matched ++ rest) (' ' :: folded)
  | keep {c : Char} {later folded : List Char}
      (none : ∀ matched, matched <+: c :: later → ¬ IsBreak matched)
      (others : Folds later folded) : Folds (c :: later) (c :: folded)

variable {matched rest text : List Char}

theorem IsBreak.concat (isBreak : IsBreak matched) {c : Char} (blank : Text.isBlank c = true) :
    IsBreak (matched ++ [c]) := by
  cases isBreak with
  | @around front feed back indents feeds blanks =>
    rw [List.append_assoc]
    refine .around indents feeds ?_
    simpa [or_imp, forall_and] using ⟨blanks, blank⟩

/-- The longest break takes all white space. -/
theorem startsSolid_of_longest (isBreak : IsBreak matched)
    (longest : ∀ longer, longer <+: matched ++ rest → IsBreak longer →
      longer.length ≤ matched.length) : StartsSolid rest := by
  intro c first
  obtain ⟨later, rfl⟩ := List.head?_eq_some_iff.mp first
  rw [Bool.eq_false_iff]
  intro blank
  have isPrefix : matched ++ [c] <+: matched ++ c :: later := by simp
  have bound := longest _ isPrefix (isBreak.concat blank)
  rw [List.length_append, List.length_singleton] at bound
  omega

theorem longest_of_startsSolid (isBreak : IsBreak matched) (solid : StartsSolid rest)
    {longer : List Char} (isPrefix : longer <+: matched ++ rest) (also : IsBreak longer) :
    longer.length ≤ matched.length := by
  obtain ⟨tail, whole⟩ := isPrefix
  have here := afterBreak?_of_isBreak isBreak rest
  have there := afterBreak?_of_isBreak also tail
  rw [dropWhile_of_startsSolid solid] at here
  rw [whole, here, Option.some.injEq] at there
  have shorter := (List.dropWhile_sublist isBlank (l := tail)).length_le
  have lengths := congrArg List.length whole
  rw [List.length_append, List.length_append] at lengths
  rw [← there] at shorter
  omega

theorem folds_iff {folded : List Char} : Folds text folded ↔ folded = foldBreaks text := by
  constructor
  · intro folds
    induction folds with
    | nil => rw [foldBreaks]
    | fold isBreak longest _ ih =>
      rw [foldBreaks_break isBreak (startsSolid_of_longest isBreak longest), ih]
    | keep none _ ih => rw [foldBreaks_keep (afterBreak?_eq_none_iff.mpr none), ih]
  · rintro rfl
    induction text using fold_induct with
    | nil =>
      rw [foldBreaks]
      exact .nil
    | fold matched rest isBreak solid ih =>
      rw [foldBreaks_break isBreak solid]
      exact .fold isBreak (fun _ => longest_of_startsSolid isBreak solid) ih
    | keep c later none ih =>
      rw [foldBreaks_keep none]
      exact .keep (afterBreak?_eq_none_iff.mp none) ih

/-- The characters that are no white space. -/
def solids (text : List Char) : List Char := text.filter fun c => !isBlank c

theorem solids_append (first second : List Char) :
    solids (first ++ second) = solids first ++ solids second :=
  List.filter_append first second

theorem solids_of_blank (blank : ∀ c ∈ text, isBlank c = true) : solids text = [] := by
  rw [solids, List.filter_eq_nil_iff]
  intro c inside
  simp [blank c inside]

theorem solids_dropWhile (text : List Char) : solids (text.dropWhile isBlank) = solids text := by
  have front : solids (text.takeWhile isBlank) = [] :=
    solids_of_blank (List.all_eq_true.mp List.all_takeWhile)
  have whole := solids_append (text.takeWhile isBlank) (text.dropWhile isBlank)
  rw [List.takeWhile_append_dropWhile, front, List.nil_append] at whole
  exact whole.symm

theorem solids_reverse (text : List Char) : solids text.reverse = (solids text).reverse :=
  List.filter_reverse

theorem solids_stripChars (text : List Char) : solids (stripChars text) = solids text := by
  rw [stripChars, solids_reverse, solids_dropWhile, solids_reverse, solids_dropWhile,
    List.reverse_reverse]

theorem solids_foldBreaks (text : List Char) : solids (foldBreaks text) = solids text := by
  have space : isBlank ' ' = true := by decide
  induction text using fold_induct with
  | nil => rw [foldBreaks]
  | fold matched rest isBreak solid ih =>
    rw [foldBreaks_break isBreak solid, solids_append, solids_of_blank isBreak.isBlank, ← ih]
    exact List.filter_cons_of_neg (by simp [space])
  | keep c later none ih =>
    rw [foldBreaks_keep none, ← List.singleton_append, ← List.singleton_append (l := later),
      solids_append, solids_append, ih]

theorem foldBreaks_of_not_mem (single : '\n' ∉ text) : foldBreaks text = text := by
  induction text using fold_induct with
  | nil => rw [foldBreaks]
  | fold matched rest isBreak _ _ =>
    exact absurd (List.mem_append_left rest isBreak.mem_feed) single
  | keep c later none ih =>
    rw [foldBreaks_keep none, ih fun inside => single (List.mem_cons_of_mem c inside)]

theorem not_mem_stripChars {c : Char} (absent : c ∉ text) : c ∉ stripChars text := by
  intro inside
  rw [stripChars, List.mem_reverse] at inside
  have kept := List.mem_reverse.mp ((List.dropWhile_sublist isBlank).mem inside)
  exact absent ((List.dropWhile_sublist isBlank).mem kept)

/-- Where characters give way to texts that fit or do not fit as they did, so does what is left. -/
theorem dropWhile_flatMap {fits : Char → Bool} (expand : Char → List Char)
    (inside : ∀ c, fits c = true → ∀ d ∈ expand c, fits d = true)
    (outside : ∀ c, fits c = false → ∃ d others, expand c = d :: others ∧ fits d = false)
    (text : List Char) :
    (text.flatMap expand).dropWhile fits = (text.dropWhile fits).flatMap expand := by
  induction text with
  | nil => rfl
  | cons c rest ih =>
    cases here : fits c with
    | true =>
      rw [List.flatMap_cons, List.dropWhile_append_of_pos (inside c here), ih,
        List.dropWhile_cons_of_pos here]
    | false =>
      obtain ⟨d, others, expanded, stops⟩ := outside c here
      rw [List.dropWhile_cons_of_neg (by simp [here]), List.flatMap_cons, expanded,
        List.cons_append, List.dropWhile_cons_of_neg (by simp [stops])]

def returned (c : Char) : List Char := if c = '\n' then ['\r', '\n'] else [c]

/-- The text with a carriage return before each line feed. -/
def withReturns (text : List Char) : List Char := text.flatMap returned

theorem returned_of_ne {c : Char} (other : c ≠ '\n') : returned c = [c] := if_neg other

theorem returned_of_solid {c : Char} (solid : isBlank c = false) : returned c = [c] := by
  refine returned_of_ne ?_
  rintro rfl
  exact absurd solid (by decide)

theorem isBlank_returned {c : Char} (blank : isBlank c = true) :
    ∀ d ∈ returned c, isBlank d = true := by
  by_cases feed : c = '\n'
  · subst feed
    exact List.forall_mem_cons.mpr ⟨rfl, List.forall_mem_singleton.mpr blank⟩
  · rw [returned_of_ne feed]
    exact List.forall_mem_singleton.mpr blank

theorem withReturns_feed (later : List Char) :
    withReturns ('\n' :: later) = '\r' :: '\n' :: withReturns later := rfl

theorem withReturns_cons {c : Char} (other : c ≠ '\n') (later : List Char) :
    withReturns (c :: later) = c :: withReturns later := by
  rw [withReturns, List.flatMap_cons, returned_of_ne other]
  rfl

theorem dropWhile_withReturns_blank (text : List Char) :
    (withReturns text).dropWhile isBlank = withReturns (text.dropWhile isBlank) :=
  dropWhile_flatMap returned (fun _ blank => isBlank_returned blank)
    (fun c solid => ⟨c, [], returned_of_solid solid, solid⟩) text

theorem dropWhile_withReturns_indent (text : List Char) :
    (withReturns text).dropWhile isIndent = withReturns (text.dropWhile isIndent) := by
  refine dropWhile_flatMap returned ?_ ?_ text
  · intro c indent
    have other : c ≠ '\n' := by
      rintro rfl
      exact absurd indent (by decide)
    rw [returned_of_ne other]
    exact List.forall_mem_singleton.mpr indent
  · intro c outer
    by_cases feed : c = '\n'
    · subst feed
      exact ⟨'\r', ['\n'], rfl, by decide⟩
    · exact ⟨c, [], returned_of_ne feed, outer⟩

theorem stripChars_withReturns (text : List Char) :
    stripChars (withReturns text) = withReturns (stripChars text) := by
  -- read from its end, the text has the carriage return behind the line feed
  have back := dropWhile_flatMap (List.reverse ∘ returned)
    (fun c blank d inside => isBlank_returned blank d (List.mem_reverse.mp inside))
    (fun c solid => ⟨c, [], by rw [Function.comp_apply, returned_of_solid solid]; rfl, solid⟩)
    (text.dropWhile isBlank).reverse
  rw [stripChars, dropWhile_withReturns_blank, withReturns, List.reverse_flatMap, back,
    List.reverse_flatMap, ← stripChars, withReturns]
  congr 1
  funext c
  exact List.reverse_reverse (returned c)

/-- A break in the one text stands in the other, and ends there at the same place. -/
theorem afterBreak?_withReturns (plain : '\r' ∉ text) :
    afterBreak? (withReturns text) = (afterBreak? text).map withReturns := by
  have kept : '\r' ∉ text.dropWhile isIndent :=
    fun inside => plain ((List.dropWhile_sublist isIndent).mem inside)
  rw [afterBreak?, afterBreak?, dropWhile_withReturns_indent]
  cases starts : text.dropWhile isIndent with
  | nil => rfl
  | cons c later =>
    rw [starts, List.mem_cons, not_or] at kept
    by_cases feed : c = '\n'
    · subst feed
      rw [withReturns_feed]
      exact congrArg some (dropWhile_withReturns_blank later)
    · rw [withReturns_cons feed]
      simp [feed, Ne.symm kept.1]

theorem foldBreaks_withReturns (plain : '\r' ∉ text) :
    foldBreaks (withReturns text) = foldBreaks text := by
  have there := afterBreak?_withReturns plain
  induction text using fold_induct with
  | nil => rfl
  | fold matched rest isBreak solid ih =>
    have found := afterBreak?_of_isBreak isBreak rest
    rw [dropWhile_of_startsSolid solid] at found
    rw [found, Option.map_some] at there
    have behind : '\r' ∉ rest := fun inside => plain (List.mem_append_right matched inside)
    rw [foldBreaks_found there, foldBreaks_found found,
      ih behind (afterBreak?_withReturns behind)]
  | keep c later none ih =>
    have other : c ≠ '\n' := by
      rintro rfl
      exact afterBreak?_eq_none_iff.mp none ['\n'] (List.prefix_append ['\n'] later) isBreak_feed
    have behind : '\r' ∉ later := fun inside => plain (List.mem_cons_of_mem c inside)
    rw [none, withReturns_cons other] at there
    rw [withReturns_cons other, foldBreaks_keep there, foldBreaks_keep none,
      ih behind (afterBreak?_withReturns behind)]

end ClassSketch.Text

namespace ClassSketch.Outline

open ClassSketch.Concrete ClassSketch.Model ClassSketch.Text

/-- The text of an expression is that of its node on one line: stripped, with a space for the
longest break wherever one starts. It holds no line feed and no white space at its ends, folding it
again changes nothing, and all but white space is kept. A text on one line is only stripped, and
carriage returns before the line feeds make no difference. -/
theorem expression_text_normal (text : String) :
    (∀ (source : List UInt8) (node : Node), node.text source = .ok text →
      expression source node = .ok ⟨node.type, foldExpression text⟩) ∧
    (∀ folded, Folds (stripChars text.toList) folded ↔ folded = (foldExpression text).toList) ∧
    '\n' ∉ (foldExpression text).toList ∧
    strip (foldExpression text) = foldExpression text ∧
    foldExpression (foldExpression text) = foldExpression text ∧
    solids (foldExpression text).toList = solids text.toList ∧
    ('\n' ∉ text.toList → foldExpression text = strip text) ∧
    ('\r' ∉ text.toList →
      foldExpression (String.ofList (withReturns text.toList)) = foldExpression text) := by
  have chars : (foldExpression text).toList = foldBreaks (stripChars text.toList) :=
    String.toList_ofList
  have single (other : String) (flat : '\n' ∉ other.toList) :
      foldExpression other = strip other := by
    rw [foldExpression, strip, foldBreaks_of_not_mem (not_mem_stripChars flat)]
  have stripped : strip (foldExpression text) = foldExpression text := stripped_foldExpression text
  refine ⟨?_, ?_, not_mem_foldExpression text, stripped, ?_, ?_, single text, ?_⟩
  · intro source node read
    rw [expression, read]
    rfl
  · intro folded
    rw [chars, folds_iff]
  · rw [single _ (not_mem_foldExpression text), stripped]
  · rw [chars, solids_foldBreaks, solids_stripChars]
  · intro plain
    rw [foldExpression, foldExpression, String.toList_ofList, stripChars_withReturns,
      foldBreaks_withReturns (not_mem_stripChars plain)]

/-- A sum that goes on behind a tab on another line, with a vertical tab before its second part. -/
def wrappedSum : String := " 1 +\t\n\x0b  2\n"

theorem wrappedSum_folds :
    expression wrappedSum.toUTF8.toList (.plain "binary_expression" none 0 11 []) =
        .ok ⟨"binary_expression", "1 + 2"⟩ ∧
      foldExpression (String.ofList (withReturns wrappedSum.toList)) = "1 + 2" ∧
      foldExpression " 1 + 2 " = strip " 1 + 2 " := by
  have folded : foldExpression wrappedSum = "1 + 2" := by decide +kernel
  have read : Node.text wrappedSum.toUTF8.toList (.plain "binary_expression" none 0 11 []) =
      .ok wrappedSum := by
    have slice : Utf8.slice wrappedSum.toUTF8.toList 0 11 = wrappedSum := by decide +kernel
    exact congrArg Except.ok slice
  obtain ⟨built, _, _, _, _, _, _, returns⟩ := expression_text_normal wrappedSum
  obtain ⟨_, _, _, _, _, _, single, _⟩ := expression_text_normal " 1 + 2 "
  refine ⟨?_, ?_, single (by decide)⟩
  · rw [built _ _ read, folded]
    rfl
  · rw [returns (by decide), folded]

end ClassSketch.Outline
