import ClassSketch.Command.Arguments
import ClassSketch.Proofs.Files.PathText

set_option autoImplicit false

namespace ClassSketch.Command

open ClassSketch.Files

variable {draft next : Draft} {flag : Flag} {value : String} {words : List Word}
  {options : Options}

theorem Draft.input_give (given : draft.give flag value = .ok next) :
    next.input = draft.input := by
  unfold Draft.give at given
  split at given
  · unfold Draft.giveIndent at given
    split at given
    · cases given
    · split at given
      · cases given
      · cases given
        rfl
  · unfold Draft.giveLevel at given
    split at given
    · cases given
      rfl
    · cases given
  · cases given

theorem Draft.input_set (done : draft.set flag = .ok next) : next.input = draft.input := by
  unfold Draft.set at done
  split at done
  · cases done
    rfl
  · unfold Draft.giveTab at done
    split at done
    · cases done
    · cases done
      rfl
  · cases done

theorem clusterEnding_ne_options (letters : List Char) (options : Options) :
    clusterEnding letters ≠ .options options := by
  fun_induction clusterEnding letters with
  | case1 | case2 | case4 => simp
  | case3 rest _ ih => exact ih

/-- Where an input has been read, it comes from a text. -/
def Draft.FromText (draft : Draft) : Prop :=
  ∀ input ∈ draft.input, ∃ text, input = Path.ofText text

theorem Draft.FromText.of_input_eq (fromText : draft.FromText) (same : next.input = draft.input) :
    next.FromText := by
  rwa [Draft.FromText, same]

theorem Draft.fromText_of_taken (text : String) (taken : draft.input = some (Path.ofText text)) :
    draft.FromText := by
  intro input isInput
  rw [taken, Option.mem_some_iff] at isInput
  exact ⟨text, isInput.symm⟩

theorem Draft.FromText.finish (fromText : draft.FromText)
    (accepted : draft.finish = .options options) : ∃ text, options.input = Path.ofText text := by
  unfold Draft.finish at accepted
  split at accepted
  · cases accepted
  · rename_i input isInput
    split at accepted
    · cases accepted
      exact fromText input isInput
    · cases accepted

/-- Each word leaves the input as it was, or takes it from a text of its own. -/
theorem Draft.FromText.read (fromText : draft.FromText)
    (accepted : read draft words = .options options) :
    ∃ text, options.input = Path.ofText text := by
  fun_induction Command.read draft words
  case case1 => exact fromText.finish accepted
  case case2 letters _ => exact absurd accepted (clusterEnding_ne_options letters options)
  case case4 given ih => exact ih (fromText.of_input_eq (input_give given)) accepted
  case case6 given ih => exact ih (fromText.of_input_eq (input_give given)) accepted
  case case9 done ih => exact ih (fromText.of_input_eq (input_set done)) accepted
  case case11 ih | case12 ih | case18 ih | case21 ih => exact ih fromText accepted
  case case13 ih | case14 ih | case16 ih | case17 ih | case20 ih =>
    exact ih (fromText_of_taken _ rfl) accepted
  case case15 text _ _ _ _ ih | case19 text _ _ _ _ ih =>
    refine ih (fromText_of_taken text ?_) accepted
    split <;> rfl
  all_goals cases accepted

end ClassSketch.Command
