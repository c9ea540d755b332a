/-
This file binds the names that a module imports. The statements are taken in order, and
a later one rebinds what an earlier one bound. Side by side it builds the table of
imports that other modules see, from which names of the standard library are left out.
-/

import Declarations.Graph.Module
import Declarations.Lowering.StandardLibrary
import Declarations.NameMap
import Declarations.Outline.Basic

namespace Declarations

/-- The absolute name of the module that an import names. A relative one starts from the
package: each dot after the first goes one level up, and going above the top leaves nothing. -/
def absoluteModule (current : String) (isPackage : Bool) (entry : Import) : String :=
  match entry.kind with
  | .direct | .origin => entry.origin
  | .relative level =>
    let parts := Dotted.parts current
    let dropped := if isPackage then level - 1 else level
    let kept := parts.take (parts.length - dropped)
    Dotted.join (if entry.origin.isEmpty then kept else kept ++ [entry.origin])

/-- What the imports of a module bind: the table that others see, the key of every local name,
and the modules all of whose names are imported. -/
structure ImportBindings where
  table : List ImportedSymbol
  keys : NameMap String
  wildcards : List String

namespace ImportBindings

/-- No imports. -/
def empty : ImportBindings :=
  ⟨[], NameMap.empty, []⟩

/-- Puts a name into the table in place of an earlier entry, unless it lies in the standard
library. -/
def rebind (table : List ImportedSymbol) (name key : String) : List ImportedSymbol :=
  let others := table.filter fun symbol => symbol.name != name
  if isStandard key then others else others ++ [⟨name, .pending key⟩]

/-- Binds a local name to a key. -/
def bind (bindings : ImportBindings) (name key : String) : ImportBindings :=
  { bindings with
    table := rebind bindings.table name key
    keys := bindings.keys.insert name key }

/-- Imports a module by its name. Without another name for it, its first part is bound, and
its full name stays reachable through the table. -/
def addModule (bindings : ImportBindings) (imported : ImportedName) : ImportBindings :=
  match imported.asName with
  | some other => bindings.bind other imported.name
  | none =>
    let top := Dotted.head imported.name
    let bindings :=
      if imported.name.toList.contains '.' ∧ !isStandard imported.name then
        { bindings with table := rebind bindings.table imported.name imported.name }
      else bindings
    bindings.bind top top

/-- Imports a name, or all names, from a module. -/
def addMember (bindings : ImportBindings) (base : String) (imported : ImportedName) :
    ImportBindings :=
  if imported.name = "*" then
    { bindings with
      table := if isStandard base then bindings.table else bindings.table ++ [⟨"*", .pending base⟩]
      wildcards := bindings.wildcards ++ [base] }
  else
    let key := if base.isEmpty then imported.name else Dotted.below base imported.name
    bindings.bind imported.used key

/-- Takes one import; one of future features binds nothing. -/
def add (current : String) (isPackage : Bool) (bindings : ImportBindings) (entry : Import) :
    ImportBindings :=
  if entry.origin = "__future__" then bindings
  else
    match entry.kind with
    | .direct => entry.names.foldl addModule bindings
    | .origin | .relative _ =>
      let base := absoluteModule current isPackage entry
      entry.names.foldl (fun bindings imported => bindings.addMember base imported) bindings

/-- Takes all imports of a module in order. -/
def ofImports (current : String) (isPackage : Bool) (entries : List Import) : ImportBindings :=
  entries.foldl (add current isPackage) empty

end ImportBindings

end Declarations
