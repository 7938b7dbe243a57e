import ClassSketch.Proofs.Outline.Drawing
import ClassSketch.Proofs.Outline.Parts

set_option autoImplicit false

namespace ClassSketch.Outline

open ClassSketch.Concrete ClassSketch.Model ClassSketch.Diagram

variable {source : List UInt8} {site : Site} {behind : List Stroke} {lines : List Line}

/-- The node that shows a base: one with constructor arguments is shown by its type, or else by the
first named node in it. -/
def shownBase? (node : Node) : Option Node :=
  if node.type = "primary_constructor_base_type" then
    (node.children.find? fun child => child.mark.field == some "type").or
      (node.children.find? fun child => child.mark.named)
  else some node

/-- The bases in the first base list. Notes, comments and lists of arguments are none. -/
def listedBases (node : Node) : List Node :=
  match node.children.find? fun child => child.type == "base_list" with
  | some list => list.children.filter fun child =>
      child.mark.named && !child.mark.extra && child.type != "argument_list" &&
        child.type != "comment"
  | none => []

/-- The texts of the bases, without the empty ones. -/
def shownBases (source : List UInt8) (node : Node) : Read (List String) := do
  let texts ← (listedBases node).mapM fun child =>
    match shownBase? child with
    | some base => do
      let text ← base.text source
      return Text.strip text
    | none => .error .missingBase
  return texts.filter (· ≠ "")

def Site.bases (source : List UInt8) (site : Site) : Read (List String) :=
  match site.writer with
  | .typeBlock _ node => shownBases source node
  | _ => .ok []

end ClassSketch.Outline
