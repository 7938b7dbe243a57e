import ClassSketch.Proofs.Concrete.Marking

set_option autoImplicit false

namespace ClassSketch.Concrete

/-- What can stop a reading: the text of the node at a position is taken, or a base that has to name
a type names none. -/
inductive Event where
  | take (position : List Nat)
  | missingBase
  deriving DecidableEq, Repr

def Event.failure? (marks : Marking) : Event → Option Failure
  | .take position => (marks position).map .unreadable
  | .missingBase => some .missingBase

def firstFailure (marks : Marking) (events : List Event) : Option Failure :=
  events.findSome? (Event.failure? marks)

variable {marks other : Marking} {events later : List Event} {α β : Type}

theorem firstFailure_append (marks : Marking) (events later : List Event) :
    firstFailure marks (events ++ later) =
      (firstFailure marks events).or (firstFailure marks later) :=
  List.findSome?_append

theorem firstFailure_take (marks : Marking) (position : List Nat) :
    firstFailure marks [.take position] = (marks position).map .unreadable := by
  rw [firstFailure, List.findSome?_singleton, Event.failure?]

/-- Only the marks of the positions where texts are taken matter. -/
theorem firstFailure_congr
    (same : ∀ position, .take position ∈ events → marks position = other position) :
    firstFailure marks events = firstFailure other events := by
  induction events with
  | nil => rfl
  | cons event rest ih =>
    have here : event.failure? marks = event.failure? other := by
      cases event with
      | take position => rw [Event.failure?, Event.failure?, same position List.mem_cons_self]
      | missingBase => rfl
    have behind := ih fun position inside => same position (List.mem_cons_of_mem event inside)
    rw [firstFailure, firstFailure] at behind ⊢
    rw [List.findSome?_cons, List.findSome?_cons, here, behind]

/-- A reading fails with the first event that fails, and reads as if nothing were marked when none
does. -/
structure Follows (reading : Marking → Read α) (events : List Event) : Prop where
  stops : ∀ marks failure, firstFailure marks events = some failure →
    reading marks = .error failure
  goes : ∀ marks, firstFailure marks events = none →
    ∃ value, reading marks = .ok value ∧ reading unmarked = .ok value

namespace Follows

variable {first reading : Marking → Read α}

theorem pure (value : α) : Follows (fun _ => .ok value) [] where
  stops _ _ stopped := by cases stopped
  goes _ _ := ⟨value, rfl, rfl⟩

theorem missing : Follows (fun _ => (.error .missingBase : Read α)) [.missingBase] where
  stops _ _ stopped := by
    cases stopped
    rfl
  goes _ none := by cases none

/-- The text of a node is taken. -/
theorem text (source : List UInt8) (here : Located) :
    Follows (fun marks => (here.marked marks).text source) [.take here.position] := by
  have mark (marks : Marking) : (here.marked marks).mark.unreadable = marks here.position := by
    rw [Located.marked, Node.mark_marked, List.append_nil]
  have spanned (marks : Marking) : (here.marked marks).mark.start = here.node.mark.start ∧
      (here.marked marks).mark.stop = here.node.mark.stop := by
    rw [Located.marked, Node.mark_marked]
    exact ⟨rfl, rfl⟩
  have readable (marks : Marking) (none : marks here.position = none) :
      (here.marked marks).text source =
        .ok (Text.Utf8.slice source here.node.mark.start here.node.mark.stop) := by
    rw [Node.text, mark, none, (spanned marks).1, (spanned marks).2]
  constructor
  case stops =>
    intro marks failure stopped
    rw [firstFailure_take, Option.map_eq_some_iff] at stopped
    obtain ⟨message, marked, rfl⟩ := stopped
    rw [Node.text, mark, marked]
  case goes =>
    intro marks none
    rw [firstFailure_take, Option.map_eq_none_iff] at none
    exact ⟨_, readable marks none, readable unmarked rfl⟩

/-- What comes behind may depend on what was read, as it is read without marks. -/
theorem bind {next : Marking → α → Read β} (start : Follows first events)
    (step : ∀ value, first unmarked = .ok value → Follows (fun marks => next marks value) later) :
    Follows (fun marks => first marks >>= next marks) (events ++ later) where
  stops marks failure stopped := by
    rw [firstFailure_append, Option.or_eq_some_iff] at stopped
    rcases stopped with stopped | ⟨none, stopped⟩
    · rw [start.stops marks failure stopped]
      rfl
    · obtain ⟨value, read, readClear⟩ := start.goes marks none
      rw [read]
      exact (step value readClear).stops marks failure stopped
  goes marks none := by
    rw [firstFailure_append, Option.or_eq_none_iff] at none
    obtain ⟨value, read, readClear⟩ := start.goes marks none.1
    obtain ⟨result, further, furtherClear⟩ := (step value readClear).goes marks none.2
    rw [read, readClear]
    exact ⟨result, further, furtherClear⟩

/-- What is only computed from what was read takes no more texts. -/
theorem map {result : α → β} (start : Follows first events) :
    Follows (fun marks => first marks >>= fun value => .ok (result value)) events := by
  have whole : Follows (fun marks => first marks >>= fun value => .ok (result value))
      (events ++ []) := start.bind fun value _ => .pure (result value)
  rwa [List.append_nil] at whole

theorem mapM {read : Node → Read β} {eventsOf : Located → List Event}
    (each : ∀ here, Follows (fun marks => read (here.marked marks)) (eventsOf here))
    (items : List Located) :
    Follows (fun marks => (items.map (Located.marked marks)).mapM read)
      (items.flatMap eventsOf) := by
  induction items with
  | nil => exact .pure []
  | cons item rest ih =>
    simp only [List.map_cons, List.mapM_cons, List.flatMap_cons]
    exact (each item).bind fun value _ => ih.map

/-- The reading under any marks, from the events and the reading without marks. -/
theorem eq (follows : Follows reading events) (marks : Marking) :
    reading marks = match firstFailure marks events with
      | some failure => .error failure
      | none => reading unmarked := by
  cases found : firstFailure marks events with
  | some failure => exact follows.stops marks failure found
  | none =>
    obtain ⟨value, read, readClear⟩ := follows.goes marks found
    exact read.trans readClear.symm

/-- Marks where no text is taken change nothing. -/
theorem congr (follows : Follows reading events)
    (same : ∀ position, .take position ∈ events → marks position = other position) :
    reading marks = reading other := by
  rw [follows.eq, follows.eq other, firstFailure_congr same]

end Follows

end ClassSketch.Concrete
