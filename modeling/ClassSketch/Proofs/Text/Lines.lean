import ClassSketch.Text.Lines

set_option autoImplicit false

namespace ClassSketch.Text

theorem isLineEnd_lineFeed : isLineEnd '\n' = true := by decide

theorem isLineEnd_return : isLineEnd '\r' = true := by decide

@[simp] theorem splitLineChars_nil : splitLineChars [] = [] := rfl

theorem splitLineChars_pair (rest : List Char) :
    splitLineChars ('\r' :: '\n' :: rest) = [] :: splitLineChars rest := by
  rw [splitLineChars]

/-- A line end that is no first half of a pair closes an empty line. -/
theorem splitLineChars_end (c : Char) (rest : List Char) (ends : isLineEnd c = true)
    (single : ¬ (c = '\r' ∧ rest.head? = some '\n')) :
    splitLineChars (c :: rest) = [] :: splitLineChars rest := by
  rw [splitLineChars]
  · simp only [ends, ↓reduceIte]
  · rintro later rfl rfl
    exact single ⟨rfl, rfl⟩

theorem splitLineChars_inner (c : Char) (rest : List Char) (inner : isLineEnd c = false) :
    splitLineChars (c :: rest) =
      (c :: (splitLineChars rest).headD []) :: (splitLineChars rest).tail := by
  rw [splitLineChars]
  · simp only [inner, Bool.false_eq_true, ↓reduceIte]
    split
    · rename_i empty
      simp [empty]
    · rename_i line others split
      simp [split]
  · rintro later rfl rfl
    rw [isLineEnd_return] at inner
    cases inner

/-- Induction over a text by what ends its lines: a pair, a single character, or nothing here. -/
theorem lines_induct {holds : List Char → Prop} (nil : holds [])
    (pair : ∀ rest, holds rest → holds ('\r' :: '\n' :: rest))
    (ending : ∀ c rest, isLineEnd c = true → ¬ (c = '\r' ∧ rest.head? = some '\n') → holds rest →
      holds (c :: rest))
    (inner : ∀ c rest, isLineEnd c = false → holds rest → holds (c :: rest)) (text : List Char) :
    holds text := by
  induction text using splitLineChars.induct with
  | case1 => exact nil
  | case2 rest ih => exact pair rest ih
  | case3 c rest unpaired ends ih =>
    refine ending c rest ends ?_ ih
    rintro ⟨same, starts⟩
    obtain ⟨later, whole⟩ := List.head?_eq_some_iff.mp starts
    exact unpaired later same whole
  | case4 c rest _ ends _ ih | case5 c rest _ ends _ _ _ ih =>
    exact inner c rest (by simpa using ends) ih

theorem splitLineChars_ne_nil (text : List Char) (filled : text ≠ []) :
    splitLineChars text ≠ [] := by
  induction text using lines_induct with
  | nil => exact absurd rfl filled
  | pair rest _ => simp [splitLineChars_pair]
  | ending c rest ends single _ => simp [splitLineChars_end c rest ends single]
  | inner c rest inner _ => simp [splitLineChars_inner c rest inner]

/-- A line feed separates whatever stands before it from what follows. -/
theorem splitLineChars_append (first second : List Char) :
    splitLineChars (first ++ '\n' :: second) =
      splitLineChars (first ++ ['\n']) ++ splitLineChars second := by
  induction first using lines_induct with
  | nil => simp [splitLineChars_end '\n' _ isLineEnd_lineFeed]
  | pair rest ih => simp only [List.cons_append, splitLineChars_pair, ih]
  | ending c rest ends single ih =>
    -- only a return at the very end makes a pair with the line feed
    by_cases last : c = '\r' ∧ rest = []
    · obtain ⟨rfl, rfl⟩ := last
      simp [splitLineChars_pair]
    · have alone (later : List Char) :
          ¬ (c = '\r' ∧ (rest ++ '\n' :: later).head? = some '\n') := by
        rintro ⟨same, starts⟩
        cases rest with
        | nil => exact last ⟨same, rfl⟩
        | cons next others => exact single ⟨same, starts⟩
      rw [List.cons_append, List.cons_append, splitLineChars_end c _ ends (alone second),
        splitLineChars_end c _ ends (alone []), ih, List.cons_append]
  | inner c rest inner ih =>
    rw [List.cons_append, List.cons_append, splitLineChars_inner c _ inner,
      splitLineChars_inner c _ inner, ih]
    cases lines : splitLineChars (rest ++ ['\n']) with
    | nil => exact absurd lines (splitLineChars_ne_nil _ (by simp))
    | cons line others => simp

/-- No character of the text ends a line. -/
def Unbroken (text : List Char) : Prop := ∀ c ∈ text, isLineEnd c = false

@[simp] theorem unbroken_nil : Unbroken [] := by
  intro c member
  cases member

@[simp] theorem unbroken_cons (c : Char) (rest : List Char) :
    Unbroken (c :: rest) ↔ isLineEnd c = false ∧ Unbroken rest := by
  simp only [Unbroken, List.mem_cons, forall_eq_or_imp]

@[simp] theorem unbroken_append (first second : List Char) :
    Unbroken (first ++ second) ↔ Unbroken first ∧ Unbroken second := by
  simp only [Unbroken, List.mem_append, or_imp, forall_and]

theorem splitLineChars_unbroken (line : List Char) (whole : Unbroken line) :
    splitLineChars (line ++ ['\n']) = [line] := by
  induction line with
  | nil => rfl
  | cons c rest ih =>
    rw [unbroken_cons] at whole
    rw [List.cons_append, splitLineChars_inner c _ whole.1, ih whole.2]
    rfl

theorem length_splitLineChars_pos (text : List Char) :
    0 < (splitLineChars (text ++ ['\n'])).length :=
  List.length_pos_iff.mpr (splitLineChars_ne_nil (text ++ ['\n']) (by simp))

/-- A written line stays one line exactly when nothing in it ends a line. A carriage return right
before the line feed would go unnoticed, so none may stand there. -/
theorem length_splitLineChars_eq_one_iff (line : List Char) (last : line.getLast? ≠ some '\r') :
    (splitLineChars (line ++ ['\n'])).length = 1 ↔ Unbroken line := by
  constructor
  · intro single
    induction line using lines_induct with
    | nil => exact unbroken_nil
    | pair rest _ =>
      have positive := length_splitLineChars_pos rest
      rw [List.cons_append, List.cons_append, splitLineChars_pair, List.length_cons] at single
      omega
    | ending c rest ends unpaired _ =>
      have alone : ¬ (c = '\r' ∧ (rest ++ ['\n']).head? = some '\n') := by
        rintro ⟨rfl, starts⟩
        cases rest with
        | nil => exact last rfl
        | cons next later => exact unpaired ⟨rfl, starts⟩
      have positive := length_splitLineChars_pos rest
      rw [List.cons_append, splitLineChars_end c _ ends alone, List.length_cons] at single
      omega
    | inner c rest inner ih =>
      rw [List.cons_append, splitLineChars_inner c _ inner, List.length_cons,
        List.length_tail] at single
      have positive := length_splitLineChars_pos rest
      refine (unbroken_cons c rest).mpr ⟨inner, ih ?_ (by omega)⟩
      intro ending
      apply last
      rw [List.getLast?_cons, ending]
      rfl
  · intro whole
    rw [splitLineChars_unbroken line whole]
    rfl

theorem splitLineChars_lines (lines : List (List Char)) (whole : ∀ line ∈ lines, Unbroken line) :
    splitLineChars (lines.flatMap fun line => line ++ ['\n']) = lines := by
  induction lines with
  | nil => rfl
  | cons first rest ih =>
    rw [List.forall_mem_cons] at whole
    rw [List.flatMap_cons, List.append_assoc, List.singleton_append, splitLineChars_append,
      splitLineChars_unbroken first whole.1, ih whole.2, List.singleton_append]

/-- Whatever follows written lines is split on its own. -/
theorem splitLineChars_lines_append (lines : List (List Char)) (second : List Char) :
    splitLineChars ((lines.flatMap fun line => line ++ ['\n']) ++ second) =
      splitLineChars (lines.flatMap fun line => line ++ ['\n']) ++ splitLineChars second := by
  induction lines with
  | nil => rfl
  | cons first rest ih =>
    rw [List.flatMap_cons, List.append_assoc, List.append_assoc, List.singleton_append,
      List.append_assoc, splitLineChars_append, List.singleton_append,
      splitLineChars_append first (rest.flatMap _), ih, List.append_assoc]

theorem length_le_splitLineChars (lines : List (List Char)) :
    lines.length ≤ (splitLineChars (lines.flatMap fun line => line ++ ['\n'])).length := by
  induction lines with
  | nil => exact Nat.zero_le _
  | cons first rest ih =>
    have positive := length_splitLineChars_pos first
    rw [List.flatMap_cons, List.append_assoc, List.singleton_append, splitLineChars_append,
      List.length_append, List.length_cons]
    omega

/-- Written lines stay as many as they were exactly when none of them is broken. -/
theorem length_splitLineChars_eq_iff (lines : List (List Char))
    (last : ∀ line ∈ lines, line.getLast? ≠ some '\r') :
    (splitLineChars (lines.flatMap fun line => line ++ ['\n'])).length = lines.length ↔
      ∀ line ∈ lines, Unbroken line := by
  induction lines with
  | nil => simp
  | cons first rest ih =>
    rw [List.forall_mem_cons] at last
    have positive := length_splitLineChars_pos first
    have atLeast := length_le_splitLineChars rest
    have single := length_splitLineChars_eq_one_iff first last.1
    have others := ih last.2
    rw [List.flatMap_cons, List.append_assoc, List.singleton_append, splitLineChars_append,
      List.length_append, List.length_cons, List.forall_mem_cons, ← single, ← others]
    omega

end ClassSketch.Text
