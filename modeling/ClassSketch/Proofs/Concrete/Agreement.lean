import ClassSketch.Concrete.Node

set_option autoImplicit false

namespace ClassSketch.Concrete

variable {α β : Type}

/-- Readings that begin alike and give the same differ only in what comes behind. -/
theorem Read.bind_eq_ok_both {start : Read α} {next other : α → Read β} {result : β}
    (here : (start >>= next) = .ok result) (there : (start >>= other) = .ok result) :
    ∃ value, next value = .ok result ∧ other value = .ok result := by
  obtain ⟨value, read, here⟩ := Read.bind_eq_ok.mp here
  obtain ⟨change, readAgain, there⟩ := Read.bind_eq_ok.mp there
  rw [read] at readAgain
  cases readAgain
  exact ⟨value, here, there⟩

theorem Read.eq_of_pure_eq_ok {value change result : α}
    (here : (pure value : Read α) = .ok result) (there : (pure change : Read α) = .ok result) :
    value = change :=
  (Read.pure_eq_ok.mp here).trans (Read.pure_eq_ok.mp there).symm

/-- The second reading gives what the first one gives under a condition, and where the first one
succeeds, under no other. -/
structure AgreesWhen (condition : Prop) (first second : Read α) : Prop where
  same : condition → second = first
  needed : ∀ value, first = .ok value → second = .ok value → condition

namespace AgreesWhen

variable {condition inner : Prop} {first second : Read α}

theorem of_eq (same : second = first) : AgreesWhen True first second :=
  ⟨fun _ => same, fun _ _ _ => trivial⟩

theorem refl (reading : Read α) : AgreesWhen True reading reading := of_eq rfl

theorem self (first second : Read α) : AgreesWhen (first = second) first second := by
  refine ⟨Eq.symm, ?_⟩
  intro value here there
  rw [here, there]

theorem congr (agree : AgreesWhen condition first second) (same : condition ↔ inner) :
    AgreesWhen inner first second :=
  ⟨fun holds => agree.same (same.mpr holds),
    fun value here there => same.mp (agree.needed value here there)⟩

/-- A premise that holds may be added, and one that fails makes any agreement unconditional. -/
theorem under {premise : Prop} (holds : premise) (agree : AgreesWhen condition first second) :
    AgreesWhen (premise → condition) first second :=
  agree.congr ⟨fun condition _ => condition, fun all => all holds⟩

theorem vacuous {premise : Prop} (fails : ¬ premise) (same : second = first) :
    AgreesWhen (premise → condition) first second :=
  (of_eq same).congr (iff_of_true trivial (absurd · fails))

theorem bind {next other : α → Read β} (start : AgreesWhen condition first second)
    (step : ∀ value, AgreesWhen inner (next value) (other value))
    (shown : ∀ value change result, next value = .ok result → other change = .ok result →
      value = change) :
    AgreesWhen (condition ∧ inner) (first >>= next) (second >>= other) := by
  constructor
  · rintro ⟨outside, inside⟩
    rw [start.same outside]
    exact bind_congr fun value => (step value).same inside
  · intro result here there
    obtain ⟨value, read, here⟩ := Read.bind_eq_ok.mp here
    obtain ⟨change, readAgain, there⟩ := Read.bind_eq_ok.mp there
    cases shown value change result here there
    exact ⟨start.needed value read readAgain, (step value).needed result here there⟩

theorem bind_left {next : α → Read β} (start : AgreesWhen condition first second)
    (shown : ∀ value change result, next value = .ok result → next change = .ok result →
      value = change) :
    AgreesWhen condition (first >>= next) (second >>= next) :=
  (start.bind (fun value => refl (next value)) shown).congr (and_iff_left trivial)

theorem bind_right {next other : α → Read β}
    (step : ∀ value, AgreesWhen inner (next value) (other value)) :
    AgreesWhen inner (first >>= next) (first >>= other) := by
  constructor
  · intro inside
    exact bind_congr fun value => (step value).same inside
  · intro result here there
    obtain ⟨value, here, there⟩ := Read.bind_eq_ok_both here there
    exact (step value).needed result here there

/-- Lists that differ in one item are read the same exactly when the item is. -/
theorem mapM {read : α → Read β} {item change : α}
    (agree : AgreesWhen condition (read item) (read change)) (before after : List α) :
    AgreesWhen condition ((before ++ item :: after).mapM read)
      ((before ++ change :: after).mapM read) := by
  simp only [List.mapM_append, List.mapM_cons]
  refine bind_right fun front => bind_left (bind_left agree ?_) ?_
  · intro value other result here there
    obtain ⟨rest, _, here⟩ := Read.bind_eq_ok.mp here
    obtain ⟨more, _, there⟩ := Read.bind_eq_ok.mp there
    cases here
    cases there
    rfl
  · intro value other result here there
    cases here
    exact (List.append_cancel_left (Read.pure_eq_ok.mp there)).symm

end AgreesWhen

end ClassSketch.Concrete
