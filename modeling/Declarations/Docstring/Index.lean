/-
This file collects the docstrings of a source file by the dotted names of what they
document. It looks into every block, those of loops and functions included, and binds
no name.
-/

import Declarations.NameMap
import Declarations.Outline.OfSource
import Declarations.Source.Statements

namespace Declarations.Docstring

open Source

/-- The docstring of a body under a name, unless it is missing or empty. -/
def entry (name : String) (body : List Stmt) : List (String × String) :=
  match docstring? body with
  | some text => if text.isEmpty then [] else [(name, text)]
  | none => []

mutual

/-- The docstrings of the definitions in a statement. -/
def entriesOf (scope : String) : Stmt → List (String × String)
  | .classDef header body =>
    let name := Dotted.below scope header.name
    entry name body ++ entriesOfBody name body
  | .function header body =>
    let name := Dotted.below scope header.name
    entry name body ++ entriesOfBody name body
  | .clauses blocks | .loop blocks => entriesOfBlocks scope blocks
  | _ => []

/-- The docstrings of the definitions in a body. -/
def entriesOfBody (scope : String) : List Stmt → List (String × String)
  | [] => []
  | statement :: rest => entriesOf scope statement ++ entriesOfBody scope rest

/-- The docstrings of the definitions in clauses. -/
def entriesOfBlocks (scope : String) : List (List Stmt) → List (String × String)
  | [] => []
  | block :: rest => entriesOfBody scope block ++ entriesOfBlocks scope rest

end

/-- The docstrings of a module, its own among them; of two definitions of one name the later
counts. -/
def index (module : String) (body : List Stmt) : NameMap String :=
  NameMap.ofList (entry module body ++ entriesOfBody module body)

end Declarations.Docstring
