/-
This file holds sets of modules, by name, and the search for a declaration in a set by
its fullname.
-/

import Declarations.Graph.Module
import Declarations.NameMap

namespace Declarations

/-- Modules by name, each under its own. -/
abbrev ModuleSet : Type :=
  NameMap Module fun name module => module.name = name

namespace ModuleSet

/-- Puts a module under its name; it replaces one of the same name. -/
def add (modules : ModuleSet) (module : Module) : ModuleSet :=
  modules.insert module.name module rfl

/-- The set of some modules; of two with one name the later counts. -/
def ofModules (modules : List Module) : ModuleSet :=
  modules.foldl add NameMap.empty

/-- The declaration that a target stands for. -/
def declaration? (modules : ModuleSet) : Target → Option Declaration
  | .declaration module index => (modules.get? module).bind fun found => found.declaration? index
  | .module _ => none

/-- The declaration that a reference was resolved to. -/
def resolve? (modules : ModuleSet) (reference : Reference) : Option Declaration :=
  reference.target?.bind (declaration? modules)

/-- The declaration of a fullname, in the module with the longest name in front of it that has
one. -/
def find? (modules : ModuleSet) (fullname : String) : Option Declaration :=
  (Dotted.fronts fullname).findSome? fun (front, _) =>
    (modules.get? front).bind fun module =>
      (module.lookup fullname).bind module.declaration?

/-- Whether two sets hold the same modules. -/
def same (modules others : ModuleSet) : Bool :=
  modules.names == others.names &&
    (modules.values.zip others.values).all fun (module, other) => module.same other

end ModuleSet

end Declarations
