import ClassSketch.Proofs.Outline.Events
import ClassSketch.Report

set_option autoImplicit false

namespace ClassSketch.Report

open ClassSketch.Concrete ClassSketch.Model ClassSketch.Outline

section Failures

variable (text filePath : String) (root : Node)

end Failures

variable {text filePath : String} {root : Node}

end ClassSketch.Report
