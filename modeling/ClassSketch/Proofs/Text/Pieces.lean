import ClassSketch.Text.Affix

set_option autoImplicit false

namespace ClassSketch.Text

variable {separator : Char}

theorem pieces_of_not_mem {text : List Char} (absent : separator ∉ text) :
    pieces separator text = [text] := by
  induction text with
  | nil => rfl
  | cons c rest ih =>
    rw [List.mem_cons, not_or] at absent
    rw [pieces, if_neg (Ne.symm absent.1), ih absent.2]

theorem pieces_ne_nil (separator : Char) (text : List Char) : pieces separator text ≠ [] := by
  cases text with
  | nil => simp [pieces]
  | cons c rest =>
    rw [pieces]
    split
    · simp
    · split <;> simp

/-- The pieces on both sides of a separator. -/
theorem pieces_append_cons (separator : Char) (front back : List Char) :
    pieces separator (front ++ separator :: back) =
      pieces separator front ++ pieces separator back := by
  induction front with
  | nil => simp [pieces]
  | cons c rest ih =>
    rw [List.cons_append, pieces, pieces, ih]
    split
    · rfl
    · obtain ⟨piece, others, split⟩ := List.exists_cons_of_ne_nil (pieces_ne_nil separator rest)
      rw [split]
      rfl

theorem not_mem_of_mem_pieces {text piece : List Char} (inside : piece ∈ pieces separator text) :
    separator ∉ piece := by
  induction text generalizing piece with
  | nil =>
    rw [pieces, List.mem_singleton] at inside
    subst inside
    exact List.not_mem_nil
  | cons c rest ih =>
    rw [pieces] at inside
    split at inside
    · rcases List.mem_cons.mp inside with rfl | behind
      · exact List.not_mem_nil
      · exact ih behind
    · rename_i other
      split at inside
      · rw [List.mem_singleton] at inside
        subst inside
        simpa using Ne.symm other
      · rename_i first others split
        rcases List.mem_cons.mp inside with rfl | behind
        · have absent := ih (split ▸ List.mem_cons_self)
          simpa [Ne.symm other] using absent
        · exact ih (split ▸ List.mem_cons_of_mem first behind)

/-- Texts without the separator are found again between its occurrences. -/
theorem pieces_joinWith {first : String} {rest : List String}
    (absent : ∀ text ∈ first :: rest, separator ∉ text.toList) :
    pieces separator (joinWith (String.ofList [separator]) (first :: rest)).toList =
      (first :: rest).map String.toList := by
  induction rest generalizing first with
  | nil =>
    rw [joinWith]
    exact pieces_of_not_mem (absent first (by simp))
  | cons second others ih =>
    rw [List.forall_mem_cons] at absent
    rw [joinWith, String.toList_append, String.toList_append, String.toList_ofList,
      List.append_assoc, List.singleton_append, pieces_append_cons, pieces_of_not_mem absent.1,
      ih absent.2]
    rfl

theorem joinWith_concat (separator : String) {front : List String} (filled : front ≠ [])
    (last : String) :
    joinWith separator (front ++ [last]) = joinWith separator front ++ separator ++ last := by
  induction front with
  | nil => exact absurd rfl filled
  | cons first rest ih =>
    cases rest with
    | nil => rfl
    | cons second others =>
      have later := ih (List.cons_ne_nil second others)
      rw [List.cons_append] at later ⊢
      rw [List.cons_append, joinWith, later, joinWith]
      simp only [String.append_assoc]

end ClassSketch.Text
