set_option autoImplicit false

namespace ClassSketch.Command

/-- The usage and the meaning of the arguments, for a screen of 80 columns. -/
def helpLines : List String := [
  "usage: classloom [-h] [--dir] [--indent N | --tab]",
  "                 [--log-level \x7bDEBUG,INFO,WARNING,ERROR\x7d]",
  "                 input [output]",
  "",
  "ClassLoom - PlantUML class diagrams from C# source",
  "",
  "positional arguments:",
  "  input                 C# source file, or a directory with --dir",
  "  output                Output .puml file or directory (defaults next to the",
  "                        input)",
  "",
  "options:",
  "  -h, --help            show this help message and exit",
  "  --dir                 Convert every .cs file under the input directory",
  "  --indent N            Spaces per nesting level (default 4, or",
  "                        $CLASSLOOM_INDENT_SIZE)",
  "  --tab                 Indent with tabs instead of spaces",
  "  --log-level \x7bDEBUG,INFO,WARNING,ERROR\x7d",
  "                        Logging level"]

def help : String := String.join (helpLines.map fun line => line ++ "\n")

end ClassSketch.Command
