import ClassSketch.Main
import ClassSketch.Proofs.Command.Run
import ClassSketch.Proofs.Diagram.Blocks
import ClassSketch.Proofs.Diagram.Composition
import ClassSketch.Proofs.Diagram.Hidden
import ClassSketch.Proofs.Files.Extension
import ClassSketch.Proofs.Outline.Drawing
import ClassSketch.Proofs.Outline.Commented
import ClassSketch.Proofs.Outline.Trimmed
import ClassSketch.Proofs.Files.Sources
import ClassSketch.Proofs.Convert.Outputs
import ClassSketch.Proofs.Command.Repetition
import ClassSketch.Proofs.Outline.Containment
import ClassSketch.Proofs.Outline.WellFormed
import ClassSketch.Proofs.Outline.NamespaceStyle
import ClassSketch.Proofs.Files.Reordering
import ClassSketch.Proofs.Convert.Naming
import ClassSketch.Proofs.Outline.ParameterList
import ClassSketch.Proofs.Outline.Inheritance
import ClassSketch.Proofs.Concrete.Search
import ClassSketch.Proofs.Outline.Folding
import ClassSketch.Proofs.Convert.Relative
import ClassSketch.Proofs.Model.Place
import ClassSketch.Proofs.Diagram.Written
import ClassSketch.Proofs.Diagram.Holding
import ClassSketch.Proofs.Model.Notation
import ClassSketch.Proofs.Diagram.Nesting
