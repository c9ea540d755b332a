/-
This file holds the entries of a snapshot: a module as a tree, in which every declaration
holds those declared in it. The tree has the same declarations as the module. Written from
a module it keeps their order, and read back it numbers them from the outside in and from
the top down, which is how they were numbered when the module was read from its source. Its
references are those of the module; how far they were resolved is lost when the entry is encoded.
-/

import Declarations.Graph.Module

namespace Declarations

/-- A declaration with those declared in it. -/
inductive DeclarationEntry where
  | node (body : DeclarationBody) (children : List DeclarationEntry)
deriving Repr, Inhabited

/-- A module as it stands in a snapshot. -/
structure ModuleEntry where
  /-- The tag that tells what the entry is. -/
  tag : String
  version : Nat
  name : String
  path : Path
  docstring : Option String
  isPackage : Bool
  imports : List ImportedSymbol
  definitions : List DeclarationEntry
deriving Repr, Inhabited

/-- Why an entry is not a module. -/
inductive EntryError where
  | wrongTag (tag : String)
  | wrongVersion (version : Nat)
deriving DecidableEq, Repr, Inhabited

/-- The tag of modules. -/
def ModuleEntry.moduleTag : String := "Module"

/-- The version of the entries that are written and read. -/
def ModuleEntry.currentVersion : Nat := 1

/-- The message of an error. -/
def EntryError.message : EntryError → String
  | .wrongTag tag => s!"expected .class '{ModuleEntry.moduleTag}', found '{tag}'"
  | .wrongVersion version => s!"unsupported format version {version}"

/-! ### From modules to entries -/

/-- The tree below a declaration. A declaration is always added after the one it is declared
in, so the trees below its children are smaller. -/
def Module.entryAt (module : Module) (index : Nat) : Option DeclarationEntry :=
  if inside : index < module.declarations.length then
    let declaration := module.declarations[index]
    some <| .node declaration.toDeclarationBody <|
      declaration.children.filterMap fun child =>
        if index < child then module.entryAt child else none
  else none
termination_by module.declarations.length - index

/-- The entry of a module. -/
def ModuleEntry.ofModule (module : Module) : ModuleEntry where
  tag := moduleTag
  version := currentVersion
  name := module.name
  path := module.path
  docstring := module.docstring
  isPackage := module.isPackage
  imports := module.imports
  definitions := module.roots.filterMap module.entryAt

/-! ### From entries to modules -/

mutual

/-- How many declarations an entry holds. -/
def DeclarationEntry.size : DeclarationEntry → Nat
  | .node _ children => sizeAll children + 1

/-- How many declarations entries hold. -/
def DeclarationEntry.sizeAll : List DeclarationEntry → Nat
  | [] => 0
  | first :: rest => first.size + sizeAll rest

end

theorem DeclarationEntry.sizeAll_append (first second : List DeclarationEntry) :
    sizeAll (first ++ second) = sizeAll first + sizeAll second := by
  induction first with
  | nil => simp [sizeAll]
  | cons entry rest hypothesis => simp [sizeAll, hypothesis, Nat.add_assoc]

/-- Adds what is on a stack, each declaration below the parent it comes with. Those declared in
a declaration go in front of the rest of the stack when it is added. -/
def Module.addStack (module : Module) : List (Option Nat × DeclarationEntry) → Module
  | [] => module
  | (parent, .node body children) :: rest =>
    (module.add parent body).addStack
      (children.map (fun child => (some module.declarations.length, child)) ++ rest)
termination_by stack => DeclarationEntry.sizeAll (stack.map (·.2))
decreasing_by
  simp only [List.map_append, List.map_map, List.map_cons, DeclarationEntry.sizeAll,
    DeclarationEntry.sizeAll_append, DeclarationEntry.size, Function.comp_def,
    List.attach_map_subtype_val]
  omega

/-- The module of an entry. -/
def ModuleEntry.toModule (entry : ModuleEntry) : Except EntryError Module :=
  if entry.tag ≠ moduleTag then .error (.wrongTag entry.tag)
  else if entry.version ≠ currentVersion then .error (.wrongVersion entry.version)
  else
    let start : Module :=
      { Module.skeleton entry.name entry.path with
        docstring := entry.docstring
        isPackage := entry.isPackage
        imports := entry.imports }
    .ok (start.addStack (entry.definitions.map fun definition => (none, definition)))

end Declarations
