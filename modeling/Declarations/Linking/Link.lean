/-
This file links modules: every reference that is not resolved yet is looked up in one index
of all names, which is made before the first is looked up. References that are resolved
stay as they are, so modules can be linked again when more modules are there.
-/

import Declarations.Linking.SymbolIndex

namespace Declarations

/-- A reference that was looked up in vain, with its module and what it stands in. -/
structure UnresolvedReference where
  module : String
  owner : String
  key : String
deriving DecidableEq, Repr, Inhabited

/-- The line that shows an unresolved reference. -/
def UnresolvedReference.text (reference : UnresolvedReference) : String :=
  s!"{reference.module}: {reference.owner} -> {reference.key}"

/-- What linking did. -/
structure LinkReport where
  /-- How many references it resolved. -/
  resolved : Nat
  unresolved : List UnresolvedReference
deriving DecidableEq, Repr, Inhabited

/-- Whether no reference is left. -/
def LinkReport.isComplete (report : LinkReport) : Bool :=
  report.unresolved.isEmpty

/-- A report of nothing. -/
def LinkReport.empty : LinkReport :=
  ⟨0, []⟩

/-- Two reports as one. -/
def LinkReport.append (first second : LinkReport) : LinkReport :=
  ⟨first.resolved + second.resolved, first.unresolved ++ second.unresolved⟩

/-- Looks a reference up, unless it is resolved, and reports what came of it. -/
def Reference.link (index : SymbolIndex) (module owner : String) (reference : Reference) :
    StateM LinkReport Reference :=
  if reference.isResolved then return reference
  else
    match index.lookup reference.key with
    | some target => do
      modify fun report => { report with resolved := report.resolved + 1 }
      return { reference with resolution := .resolved target }
    | none => do
      modify fun report =>
        { report with unresolved := report.unresolved ++ [⟨module, owner, reference.key⟩] }
      return { reference with resolution := .unresolved }

/-- Looks up the references of a module. -/
def Module.link (index : SymbolIndex) (module : Module) : Module × LinkReport :=
  let (linked, report) := (module.visitReferences (Reference.link index module.name)).run .empty
  ({ linked with state := .resolved }, report)

theorem Module.name_link (index : SymbolIndex) (module : Module) :
    (module.link index).1.name = module.name := rfl

/-- Links modules with each other and with earlier ones, which are not changed. -/
def ModuleSet.link (modules previous : ModuleSet) : ModuleSet × LinkReport :=
  let index := SymbolIndex.build modules previous
  let links : NameMap (Module × LinkReport) fun name link => link.1.name = name :=
    modules.alter (Module.link index) fun _ module named => (module.name_link index).trans named
  (links.alter Prod.fst fun _ _ named => named,
    (links.values.map (·.2)).foldl LinkReport.append .empty)

end Declarations
