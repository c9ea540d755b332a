/-
This file reads the docstrings of a source file straight from its text, without binding a
name or following an import.
-/

import Declarations.Build.Origin
import Declarations.Docstring.Index

namespace Declarations.Docstring

/-- The docstrings of a text, which stands in a file, by the names of what they describe. -/
def ofText (path : Path) (module text : String) : Except Problem (NameMap String) :=
  match Source.parse text with
  | .ok body => .ok (index module body)
  | .error line => .error (.analysis path (.syntaxError line))

/-- The docstrings of a file. -/
def ofFile (disk : Disk) (path : Path) (module : String) : Except Problem (NameMap String) := do
  ofText path module (← Origin.sourceText disk path)

end Declarations.Docstring
