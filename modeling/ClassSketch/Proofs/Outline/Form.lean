import ClassSketch.Outline.Unit

set_option autoImplicit false

namespace ClassSketch.Outline

open ClassSketch.Model

/-- The node types of a form. -/
def Form.Fits (type : String) : Form → Prop
  | .type kind => typeKind? type = some kind
  | .enum => type = "enum_declaration"
  | .namespaceBlock => type = "namespace_declaration"
  | .field => type = "field_declaration"
  | .property => type = "property_declaration"
  | .method => type = "method_declaration"
  | .constructor => type = "constructor_declaration"
  | .unsupported => Text.endsWith type "_declaration" = true

theorem Form.fits_of_ofType? {type : String} {form : Form} (found : ofType? type = some form) :
    form.Fits type := by
  unfold ofType? at found
  split at found
  · cases found
    assumption
  · repeat' split at found
    all_goals first
      | cases found; assumption
      | cases found

theorem declares_of_typeKind? {type : String} {kind : TypeKind}
    (found : typeKind? type = some kind) :
    Text.endsWith type "_declaration" = true := by
  unfold typeKind? at found
  repeat' split at found
  all_goals first
    | subst type; decide
    | cases found

/-- A node declares something exactly when its type says so. -/
theorem Form.isSome_ofType? (type : String) :
    (ofType? type).isSome = Text.endsWith type "_declaration" := by
  cases found : ofType? type with
  | some form =>
    have fits := fits_of_ofType? found
    cases form <;> simp only [Fits] at fits
    case type kind => simp [declares_of_typeKind? fits]
    case unsupported => simp [fits]
    all_goals subst type; decide
  | none =>
    symm
    rw [Option.isSome_none, ← Bool.not_eq_true]
    intro ends
    simp only [ofType?, ends, ↓reduceIte] at found
    repeat' split at found
    all_goals cases found

end ClassSketch.Outline
