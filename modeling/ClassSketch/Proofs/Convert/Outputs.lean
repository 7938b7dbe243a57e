import ClassSketch.Proofs.Convert.Plan

set_option autoImplicit false

namespace ClassSketch.Convert

open ClassSketch.Files

/-- The components of the diagram of a source. -/
def diagramParts (parts : List String) : List String :=
  parts.dropLast ++ [Path.stemOf (parts.getLast?.getD "") ++ suffix]

theorem diagramParts_concat (folder : List String) (name : String) :
    diagramParts (folder ++ [name]) = folder ++ [Path.stemOf name ++ suffix] := by
  simp [diagramParts]

theorem diagramBeside_below (base : Path) {parts : List String} (named : parts ≠ []) :
    diagramBeside (base.below parts) = base.below (diagramParts parts) := by
  have split := List.dropLast_concat_getLast named
  rw [← split, diagramParts_concat]
  simp [diagramBeside, Path.below, Path.parent, Path.child, Path.name, ← List.append_assoc]

/-- Two sources of one folder whose names differ in the letter case of the extension only. -/
structure CaseTwins (first second : List String) : Prop where
  apart : first ≠ second
  alike : ∃ folder stem one other, stem ≠ "" ∧
    first = folder ++ [stem ++ one] ∧ Path.IsExtension one ∧
    second = folder ++ [stem ++ other] ∧ Path.IsExtension other

theorem CaseTwins.diagramParts_eq {first second : List String} (twins : CaseTwins first second) :
    diagramParts first = diagramParts second := by
  obtain ⟨folder, stem, one, other, filled, rfl, isOne, rfl, isOther⟩ := twins.alike
  rw [diagramParts_concat, diagramParts_concat, Path.stemOf_append filled isOne,
    Path.stemOf_append filled isOther]

theorem eq_or_caseTwins {first second : List String} (one : IsSource first)
    (two : IsSource second) (same : diagramParts first = diagramParts second) :
    first = second ∨ CaseTwins first second := by
  by_cases equal : first = second
  · exact .inl equal
  · obtain ⟨folder, name, rfl, source⟩ := one.last
    obtain ⟨_, other, rfl, source'⟩ := two.last
    have single : '/' ∉ name.toList := (one.plain name (by simp)).single
    have single' : '/' ∉ other.toList := (two.plain other (by simp)).single
    obtain ⟨filled, ending, split, isEnding⟩ := Path.exists_extension single source
    obtain ⟨_, ending', split', isEnding'⟩ := Path.exists_extension single' source'
    rw [diagramParts_concat, diagramParts_concat] at same
    obtain ⟨rfl, names⟩ := List.append_inj' same rfl
    have stems : Path.stemOf name = Path.stemOf other := by
      rw [List.cons.injEq] at names
      exact String.append_left_inj suffix |>.mp names.1
    refine .inr ⟨equal, folder, Path.stemOf name, ending, ending', filled, ?_, isEnding, ?_,
      isEnding'⟩
    · rw [← split]
    · rw [stems, ← split']

/-- No two of the sources are told apart by the letter case of their extensions only. -/
def Untwinned (sources : List (List String)) : Prop :=
  ∀ first ∈ sources, ∀ second ∈ sources, ¬ CaseTwins first second

theorem nodup_map_diagramParts {sources : List (List String)} (each : sources.Nodup)
    (isSource : ∀ parts ∈ sources, IsSource parts) :
    (sources.map diagramParts).Nodup ↔ Untwinned sources := by
  rw [List.nodup_map_iff_inj_on each]
  constructor
  · intro distinct first isFirst second isSecond twins
    exact twins.apart (distinct first isFirst second isSecond twins.diagramParts_eq)
  · intro untwinned first isFirst second isSecond same
    rcases eq_or_caseTwins (isSource first isFirst) (isSource second isSecond) same with
      equal | twins
    · exact equal
    · exact absurd twins (untwinned first isFirst second isSecond)

theorem map_output_sourceJob (input : Path) (output : Option Path) {sources : List (List String)}
    (isSource : ∀ parts ∈ sources, IsSource parts) :
    (sources.map (sourceJob input output)).map Job.output =
      (sources.map diagramParts).map (output.getD input).below := by
  rw [List.map_map, List.map_map, List.map_inj_left]
  intro parts source
  obtain ⟨folder, name, rfl, _⟩ := (isSource parts source).last
  exact diagramBeside_below _ (by simp)

/-- A diagram does not lead out of the folder of its source. -/
theorem ne_above_of_mem_diagramParts {parts : List String} (source : IsSource parts) :
    ∀ part ∈ diagramParts parts, part ≠ ".." := by
  obtain ⟨folder, name, rfl, _⟩ := source.last
  rw [diagramParts_concat, List.forall_mem_append]
  constructor
  · intro part inside
    exact (source.plain part (List.mem_append_left _ inside)).notAbove
  · rw [List.forall_mem_singleton]
    intro above
    have letters := congrArg (fun text : String => text.toList.getLast?) above
    simp [suffix] at letters

end ClassSketch.Convert
