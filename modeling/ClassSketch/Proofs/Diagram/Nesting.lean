import ClassSketch.Diagram.Emitter
import Mathlib.Data.List.Forall2
import Mathlib.Data.List.Infix

set_option autoImplicit false

namespace ClassSketch.Diagram

namespace Request

def opens : Request → Bool
  | .enter => true
  | _ => false

/-- A block is left in order or by an exception. -/
def leaves : Request → Bool
  | .exit | .throw _ => true
  | _ => false

/-- What a request adds to the text where so many blocks are open. -/
def written (indent : String) (depth : Nat) : Request → String
  | .write line => Emitter.repeatText indent depth ++ line ++ "\n"
  | .writeFlush line => line ++ "\n"
  | .enter | .exit | .throw _ => ""

/-- The exception that comes out of the block. -/
def raised : Request → Option String
  | .throw message => some message
  | _ => none

def depthAfter (depth : Nat) : Request → Nat
  | .enter => depth + 1
  | .exit | .throw _ => depth - 1
  | .write _ | .writeFlush _ => depth

def depthBehind (depth : Nat) (requests : List Request) : Nat := requests.foldl depthAfter depth

theorem depthBehind_append (depth : Nat) (first second : List Request) :
    depthBehind depth (first ++ second) = depthBehind (depthBehind depth first) second :=
  List.foldl_append

/-- How many blocks are entered and not left. -/
def openBlocks (requests : List Request) : Nat := requests.countP opens - requests.countP leaves

/-- Where so many blocks are open, every exit and every exception has an open block to leave. -/
def PairedFrom (blocks : Nat) (requests : List Request) : Prop :=
  ∀ earlier, earlier <+: requests → earlier.countP leaves ≤ blocks + earlier.countP opens

def Paired (requests : List Request) : Prop :=
  ∀ earlier, earlier <+: requests → earlier.countP leaves ≤ earlier.countP opens

instance (requests : List Request) : Decidable (Paired requests) :=
  decidable_of_iff (∀ earlier ∈ requests.inits, earlier.countP leaves ≤ earlier.countP opens)
    (by simp only [List.mem_inits, Paired])

/-- Every block that is entered is left again, and no other one. -/
structure WellBracketed (requests : List Request) : Prop where
  paired : Paired requests
  closed : openBlocks requests = 0

variable {blocks : Nat} {requests : List Request}

theorem Paired.pairedFrom (paired : Paired requests) (blocks : Nat) : PairedFrom blocks requests :=
  fun earlier isPrefix => (paired earlier isPrefix).trans (Nat.le_add_left _ blocks)

theorem pairedFrom_zero : PairedFrom 0 requests ↔ Paired requests := by
  simp only [PairedFrom, Paired, Nat.zero_add]

theorem Paired.of_prefix {earlier : List Request} (paired : Paired requests)
    (isPrefix : earlier <+: requests) : Paired earlier :=
  fun _ further => paired _ (further.trans isPrefix)

theorem depthAfter_of_leaves {request : Request} (isLeave : request.leaves = true) (depth : Nat) :
    request.depthAfter depth = depth - 1 := by
  cases request with
  | write _ | writeFlush _ | enter => cases isLeave
  | exit | throw _ => rfl

/-- One request changes the number of open blocks as it changes the depth. -/
theorem depthAfter_add (request : Request) (has : request.leaves = true → 0 < blocks) :
    request.depthAfter blocks + [request].countP leaves = blocks + [request].countP opens := by
  cases request with
  | write _ | writeFlush _ | enter => rfl
  | exit | throw _ => exact Nat.sub_add_cancel (has rfl)

theorem pairedFrom_cons (request : Request) :
    PairedFrom blocks (request :: requests) ↔
      (request.leaves = true → 0 < blocks) ∧ PairedFrom (request.depthAfter blocks) requests := by
  have count (fits : Request → Bool) (earlier : List Request) :
      (request :: earlier).countP fits = [request].countP fits + earlier.countP fits := by
    rw [← List.singleton_append, List.countP_append]
  constructor
  · intro paired
    have has : request.leaves = true → 0 < blocks := by
      intro isLeave
      have here := paired [request] (List.prefix_append [request] requests)
      cases request with
      | write _ | writeFlush _ | enter => cases isLeave
      | exit | throw _ => exact here
    refine ⟨has, fun earlier isPrefix => ?_⟩
    have whole := paired (request :: earlier) (List.cons_prefix_cons.mpr ⟨rfl, isPrefix⟩)
    have here := depthAfter_add request has
    rw [count leaves, count opens] at whole
    omega
  · rintro ⟨has, later⟩ earlier isPrefix
    rcases List.prefix_cons_iff.mp isPrefix with rfl | ⟨rest, rfl, further⟩
    · exact Nat.zero_le _
    · have behind := later rest further
      have here := depthAfter_add request has
      rw [count leaves, count opens]
      omega

theorem pairedFrom_append {first second : List Request} :
    PairedFrom blocks (first ++ second) ↔
      PairedFrom blocks first ∧ PairedFrom (depthBehind blocks first) second := by
  induction first generalizing blocks with
  | nil =>
    have none : PairedFrom blocks [] := by
      intro earlier isPrefix
      rw [List.prefix_nil.mp isPrefix]
      exact Nat.zero_le _
    exact (and_iff_right none).symm
  | cons request rest ih =>
    rw [List.cons_append, pairedFrom_cons, pairedFrom_cons, ih, and_assoc]
    rfl

/-- The depth counts the blocks that are entered and not left. -/
theorem depthBehind_add (paired : PairedFrom blocks requests) :
    depthBehind blocks requests + requests.countP leaves = blocks + requests.countP opens := by
  induction requests generalizing blocks with
  | nil => rfl
  | cons request rest ih =>
    obtain ⟨has, later⟩ := (pairedFrom_cons request).mp paired
    have here := depthAfter_add request has
    have behind := ih later
    rw [depthBehind, List.foldl_cons, ← depthBehind, ← List.singleton_append, List.countP_append,
      List.countP_append]
    omega

theorem depthBehind_of_paired (paired : Paired requests) :
    depthBehind 0 requests = openBlocks requests := by
  have counted := depthBehind_add (paired.pairedFrom 0)
  rw [openBlocks]
  omega

theorem WellBracketed.depthBehind (closed : WellBracketed requests) (depth : Nat) :
    depthBehind depth requests = depth := by
  have counted := depthBehind_add (closed.paired.pairedFrom depth)
  have none := depthBehind_of_paired closed.paired
  have fresh := depthBehind_add (closed.paired.pairedFrom 0)
  rw [closed.closed] at none
  omega

/-- A well-bracketed part takes nothing away from the blocks around it. -/
theorem Paired.insert {earlier inserted later : List Request} (paired : Paired (earlier ++ later))
    (closed : WellBracketed inserted) : Paired (earlier ++ inserted ++ later) := by
  rw [← pairedFrom_zero, pairedFrom_append] at paired
  rw [← pairedFrom_zero, pairedFrom_append, pairedFrom_append, depthBehind_append,
    closed.depthBehind]
  exact ⟨⟨paired.1, closed.paired.pairedFrom _⟩, paired.2⟩

/-- The same request, or an exit in the place of an exception. -/
inductive CalmsTo : Request → Request → Prop
  | same (request : Request) : CalmsTo request request
  | exit (message : String) : CalmsTo (.throw message) .exit

end Request

open Request

/-- What a request shows when it is done: the depth, what it wrote and what it raised. -/
structure Reply where
  depth : Nat
  wrote : String
  raised : Option String
  deriving DecidableEq, Repr

namespace Emitter

theorem serve_eq (emitter : Emitter) (request : Request) :
    emitter.serve request =
      ({ emitter with
          depth := request.depthAfter emitter.depth
          text := emitter.text ++ request.written emitter.indent emitter.depth },
        request.raised) := by
  cases request with
  | write line => simp [serve, write, depthAfter, written, raised, String.append_assoc]
  | writeFlush line => simp [serve, writeFlush, depthAfter, written, raised, String.append_assoc]
  | enter | exit | throw _ => simp [serve, enter, exit, depthAfter, written, raised]

/-- The emitter behind some requests. -/
def serveAll (emitter : Emitter) (requests : List Request) : Emitter :=
  requests.foldl (fun current request => (current.serve request).1) emitter

theorem serveAll_concat (emitter : Emitter) (requests : List Request) (request : Request) :
    emitter.serveAll (requests ++ [request]) = ((emitter.serveAll requests).serve request).1 :=
  List.foldl_concat ..

theorem serveAll_cons (emitter : Emitter) (request : Request) (requests : List Request) :
    emitter.serveAll (request :: requests) = (emitter.serve request).1.serveAll requests := rfl

theorem indent_serveAll (emitter : Emitter) (requests : List Request) :
    (emitter.serveAll requests).indent = emitter.indent := by
  induction requests generalizing emitter with
  | nil => rfl
  | cons request rest ih => rw [serveAll_cons, ih, serve_eq]

theorem depth_serveAll (emitter : Emitter) (requests : List Request) :
    (emitter.serveAll requests).depth = depthBehind emitter.depth requests := by
  induction requests generalizing emitter with
  | nil => rfl
  | cons request rest ih =>
    rw [serveAll_cons, ih, serve_eq]
    rfl

/-- What each of some requests shows, in order. -/
def replies (emitter : Emitter) : List Request → List Reply
  | [] => []
  | request :: rest =>
    let next := (emitter.serve request).1
    ⟨next.depth, String.ofList (next.text.toList.drop emitter.text.length),
        (emitter.serve request).2⟩ :: next.replies rest

/-- What requests show where so many blocks are open. -/
def repliesFrom (indent : String) (depth : Nat) : List Request → List Reply
  | [] => []
  | request :: rest =>
    ⟨request.depthAfter depth, request.written indent depth, request.raised⟩ ::
      repliesFrom indent (request.depthAfter depth) rest

/-- The text that an emitter holds does not show in its replies. -/
theorem replies_eq (emitter : Emitter) (requests : List Request) :
    emitter.replies requests = repliesFrom emitter.indent emitter.depth requests := by
  induction requests generalizing emitter with
  | nil => rfl
  | cons request rest ih =>
    have added : (emitter.text ++ request.written emitter.indent emitter.depth).toList.drop
        emitter.text.length = (request.written emitter.indent emitter.depth).toList := by
      rw [String.toList_append, ← String.length_toList, List.drop_left]
    rw [replies, serve_eq, ih, added, String.ofList_toList, repliesFrom]

theorem replies_append (emitter : Emitter) (first second : List Request) :
    emitter.replies (first ++ second) =
      emitter.replies first ++ (emitter.serveAll first).replies second := by
  induction first generalizing emitter with
  | nil => rfl
  | cons request rest ih =>
    rw [List.cons_append, replies, ih, serveAll_cons, replies, List.cons_append]

theorem length_replies (emitter : Emitter) (requests : List Request) :
    (emitter.replies requests).length = requests.length := by
  induction requests generalizing emitter with
  | nil => rfl
  | cons request rest ih => rw [replies, List.length_cons, ih, List.length_cons]

/-- An exit in the place of an exception does the same to the emitter. -/
theorem serveAll_calm {requests calm : List Request} (calms : List.Forall₂ CalmsTo requests calm)
    (emitter : Emitter) : emitter.serveAll calm = emitter.serveAll requests := by
  induction calms generalizing emitter with
  | nil => rfl
  | cons here _ ih =>
    rw [serveAll_cons, serveAll_cons]
    cases here with
    | same request => exact ih _
    | exit message => exact ih emitter.exit

end Emitter

theorem Request.Paired.calm {requests calm : List Request} (paired : Paired requests)
    (calms : List.Forall₂ CalmsTo requests calm) : Paired calm := by
  rw [← pairedFrom_zero] at paired ⊢
  generalize 0 = blocks at paired ⊢
  induction calms generalizing blocks with
  | nil => exact paired
  | cons here _ ih =>
    rw [pairedFrom_cons] at paired ⊢
    cases here with
    | same request => exact ⟨paired.1, ih _ paired.2⟩
    | exit message => exact ⟨paired.1, ih _ paired.2⟩

/-- Where every exit and every exception has an open block to leave, the depth is at each point the
number of open blocks, a block is left alike in order and by an exception, which comes out of it,
and each request adds its own text only. Exits in the place of exceptions leave the same depth and
text at each point, and a well-bracketed part put in anywhere leaves the depth and changes nothing
that is shown behind it. -/
theorem emitter_follows_blocks {start : Emitter} (fresh : start.depth = 0)
    {requests : List Request} (paired : Paired requests) :
    (∀ earlier request later, requests = earlier ++ request :: later →
      let before := start.serveAll earlier
      let after := start.serveAll (earlier ++ [request])
      after.depth = openBlocks (earlier ++ [request]) ∧
      (request.leaves = true → after.depth + 1 = before.depth) ∧
      (before.serve request).2 = request.raised ∧
      after.text = before.text ++ request.written start.indent (openBlocks earlier)) ∧
    (∀ calm, List.Forall₂ CalmsTo requests calm →
      Paired calm ∧
      ∀ count, start.serveAll (calm.take count) = start.serveAll (requests.take count)) ∧
    ∀ earlier inserted later, requests = earlier ++ later → WellBracketed inserted →
      Paired (earlier ++ inserted ++ later) ∧
      (start.serveAll (earlier ++ inserted)).depth = (start.serveAll earlier).depth ∧
      (start.replies (earlier ++ inserted ++ later)).drop (earlier ++ inserted).length =
        (start.replies requests).drop earlier.length := by
  have depth {part : List Request} (isPrefix : part <+: requests) :
      (start.serveAll part).depth = openBlocks part := by
    rw [Emitter.depth_serveAll, fresh, depthBehind_of_paired (paired.of_prefix isPrefix)]
  refine ⟨?_, ?_, ?_⟩
  · intro earlier request later whole before after
    have isEarlier : earlier <+: requests := ⟨request :: later, whole.symm⟩
    have isBehind : earlier ++ [request] <+: requests := ⟨later, by simp [whole]⟩
    have step : after = (before.serve request).1 := Emitter.serveAll_concat start earlier request
    refine ⟨depth isBehind, ?_, ?_, ?_⟩
    · intro isLeave
      have parts := pairedFrom_zero.mpr paired
      rw [whole, pairedFrom_append, pairedFrom_cons] at parts
      have opened : 0 < before.depth := by
        rw [Emitter.depth_serveAll, fresh]
        exact parts.2.1 isLeave
      rw [step, Emitter.serve_eq, depthAfter_of_leaves isLeave]
      exact Nat.sub_add_cancel opened
    · rw [Emitter.serve_eq]
    · rw [step, Emitter.serve_eq, Emitter.indent_serveAll, depth isEarlier]
  · intro calm calms
    refine ⟨paired.calm calms, fun count => ?_⟩
    exact Emitter.serveAll_calm (List.forall₂_take count calms) start
  · rintro earlier inserted later rfl closed
    have same : (start.serveAll (earlier ++ inserted)).depth = (start.serveAll earlier).depth := by
      rw [Emitter.depth_serveAll, Emitter.depth_serveAll, depthBehind_append, closed.depthBehind]
    refine ⟨paired.insert closed, same, ?_⟩
    rw [Emitter.replies_append, List.drop_left' (Emitter.length_replies start _),
      Emitter.replies_append, List.drop_left' (Emitter.length_replies start _), Emitter.replies_eq,
      Emitter.replies_eq, same, Emitter.indent_serveAll, Emitter.indent_serveAll]

/-- A block in a block, left by an exception, and lines behind it. -/
def stumbling : List Request :=
  [.enter, .write "a", .enter, .throw "lost", .write "b", .exit, .writeFlush "c"]

/-- A block that is entered, written to and left by an exception of its own. -/
def detour : List Request := [.enter, .write "d", .throw "again"]

theorem stumbling_follows_blocks :
    let start : Emitter := ⟨"  ", 0, "@startuml\n"⟩
    let calm : List Request := stumbling.set 3 .exit
    Paired stumbling ∧ List.Forall₂ CalmsTo stumbling calm ∧ WellBracketed detour ∧
      (start.serveAll (stumbling.take 4)).depth = 1 ∧
      ((start.serveAll (stumbling.take 3)).serve (.throw "lost")).2 = some "lost" ∧
      start.serveAll (calm.take 5) = ⟨"  ", 1, "@startuml\n  a\n  b\n"⟩ ∧
      (start.serveAll (stumbling.take 3 ++ detour)).depth = 2 ∧
      (start.replies (stumbling.take 3 ++ detour ++ stumbling.drop 3)).drop 6 =
        [⟨1, "", some "lost"⟩, ⟨1, "  b\n", none⟩, ⟨0, "", none⟩, ⟨0, "c\n", none⟩] := by
  intro start calm
  have paired : Paired stumbling := by decide
  have calms : List.Forall₂ CalmsTo stumbling calm := by
    simp only [stumbling, calm, List.set, List.forall₂_cons, List.forall₂_nil_left_iff]
    exact ⟨.same _, .same _, .same _, .exit "lost", .same _, .same _, .same _, trivial⟩
  have closed : WellBracketed detour := ⟨by decide, rfl⟩
  obtain ⟨each, same, kept⟩ := emitter_follows_blocks (rfl : start.depth = 0) paired
  have thrown := each (stumbling.take 3) (.throw "lost") (stumbling.drop 4) rfl
  have calmed := (same calm calms).2 5
  have behind := (kept (stumbling.take 3) detour (stumbling.drop 3) rfl closed).2
  refine ⟨paired, calms, closed, thrown.1, thrown.2.2.1, calmed.trans ?_, behind.1.trans ?_,
    behind.2.trans ?_⟩
  · decide
  · decide
  · decide

end ClassSketch.Diagram
