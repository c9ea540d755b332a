/-
This file holds modules. The declarations of a module are a list to which declarations
are only ever added, so the index of one never changes; the tree of them is written in
their parents and children. Beside the list stands a map from fullnames to indices. Each
declaration that is added writes its index there, over that of an earlier one of the same
fullname, so the map gives the last index of a fullname.
-/

import Declarations.Disk.Path
import Declarations.Graph.Declaration
import Declarations.NameMap
import Declarations.Text.Dotted

namespace Declarations

/-- A name that a module imports. The name `*` stands for all names of a module. -/
structure ImportedSymbol where
  name : String
  target : Reference
deriving DecidableEq, Repr, Inhabited

/-- Whether the references of a module have been looked up. -/
inductive LoadState where
  | skeleton
  | resolved
deriving DecidableEq, Repr, Inhabited

/-! ### Lists of declarations -/

/-- Changing one value can wait until all values are mapped. -/
theorem map_modify {α β : Type} {f : α → β} {change : α → α} {changed : β → β}
    (commute : ∀ value, f (change value) = changed (f value)) (values : List α) (place : Nat) :
    (values.modify place change).map f = (values.map f).modify place changed := by
  induction values generalizing place with
  | nil => cases place <;> rfl
  | cons value rest hypothesis =>
    cases place with
    | zero => exact congrArg (· :: rest.map f) (commute value)
    | succ place => exact congrArg (f value :: ·) (hypothesis place)

namespace Declaration

/-- Puts indices behind the children of a declaration. -/
def adopt (indices : List Nat) (declaration : Declaration) : Declaration :=
  { declaration with children := declaration.children ++ indices }

/-- Puts indices behind the children of a parent, where there is one. -/
def adoptBelow (indices : List Nat) (declarations : List Declaration) :
    Option Nat → List Declaration
  | some parent => declarations.modify parent (adopt indices)
  | none => declarations

/-- A declaration that gets children keeps everything else. -/
theorem map_adoptBelow {α : Type} {view : Declaration → α} {indices : List Nat}
    (keeps : ∀ declaration, view (adopt indices declaration) = view declaration)
    (declarations : List Declaration) (parent : Option Nat) :
    (adoptBelow indices declarations parent).map view = declarations.map view := by
  cases parent with
  | none => rfl
  | some place => exact (map_modify keeps declarations place).trans (List.modify_id _ _)

theorem length_adoptBelow (indices : List Nat) (declarations : List Declaration)
    (parent : Option Nat) :
    (adoptBelow indices declarations parent).length = declarations.length := by
  cases parent with
  | none => rfl
  | some place => exact List.length_modify _ _ _

/-- Puts kinds in the places of those of declarations, one after the other. -/
def withKinds : List Declaration → List DeclarationKind → List Declaration
  | declaration :: rest, kind :: kinds =>
    { declaration with kind := kind } :: withKinds rest kinds
  | declarations, _ => declarations

theorem fullname_withKinds (declarations : List Declaration) (kinds : List DeclarationKind) :
    (withKinds declarations kinds).map (·.fullname) = declarations.map (·.fullname) := by
  induction declarations, kinds using withKinds.induct with
  | case1 declaration rest kind kinds hypothesis =>
    exact congrArg (declaration.fullname :: ·) hypothesis
  | case2 declarations kinds _ => rw [withKinds]; assumption

end Declaration

/-! ### The index of a fullname -/

/-- The last place in a list of declarations where a fullname stands, counting from `index`. -/
def Declaration.lastIndex (fullname : String) : Nat → List Declaration → Option Nat
  | _, [] => none
  | index, declaration :: rest =>
    match lastIndex fullname (index + 1) rest with
    | some later => some later
    | none => if declaration.fullname = fullname then some index else none

/-- Whether a map gives the last place of each fullname in a list of declarations. -/
def NameMap.Indexes (byName : NameMap Nat) (declarations : List Declaration) : Prop :=
  ∀ fullname, byName.get? fullname = Declaration.lastIndex fullname 0 declarations

namespace Declaration

theorem lastIndex_congr (fullname : String) {first second : List Declaration}
    (same : first.map (·.fullname) = second.map (·.fullname)) (start : Nat) :
    lastIndex fullname start first = lastIndex fullname start second := by
  induction first generalizing second start with
  | nil =>
    obtain rfl := List.map_eq_nil_iff.1 same.symm
    rfl
  | cons declaration rest hypothesis =>
    obtain ⟨other, others, rfl, named, sameRest⟩ := List.map_eq_cons_iff.1 same.symm
    rw [lastIndex, lastIndex, hypothesis sameRest.symm, named]

theorem lastIndex_append_singleton (fullname : String) (declarations : List Declaration)
    (declaration : Declaration) (start : Nat) :
    lastIndex fullname start (declarations ++ [declaration]) =
      if declaration.fullname = fullname then some (start + declarations.length)
      else lastIndex fullname start declarations := by
  induction declarations generalizing start with
  | nil => rfl
  | cons first rest hypothesis =>
    rw [List.cons_append, lastIndex, lastIndex, hypothesis, List.length_cons,
      Nat.add_right_comm start 1, Nat.add_assoc start]
    by_cases same : declaration.fullname = fullname
    · rw [if_pos same, if_pos same]
    · rw [if_neg same, if_neg same]

end Declaration

namespace NameMap.Indexes

variable {byName : NameMap Nat} {declarations others : List Declaration}

theorem empty : NameMap.empty.Indexes [] :=
  fun _ => rfl

/-- A change that keeps the fullnames keeps the indices. -/
theorem of_fullnames (indexes : byName.Indexes declarations)
    (same : others.map (·.fullname) = declarations.map (·.fullname)) : byName.Indexes others :=
  fun fullname => (indexes fullname).trans (Declaration.lastIndex_congr fullname same.symm 0)

/-- A declaration that is put behind the others writes its index over an earlier one. -/
theorem push (indexes : byName.Indexes declarations) (declaration : Declaration) {index : Nat}
    (last : declarations.length = index) :
    (byName.insert declaration.fullname index).Indexes (declarations ++ [declaration]) := by
  intro fullname
  rw [Declaration.lastIndex_append_singleton, Nat.zero_add, last]
  split
  next same =>
    subst same
    exact get?_insert_self byName _ _
  next different =>
    rw [get?_insert_other byName _ (Ne.symm different)]
    exact indexes fullname

end NameMap.Indexes

/-! ### Modules -/

/-- A module. -/
@[ext]
structure Module where
  name : String
  path : Path
  docstring : Option String
  isPackage : Bool
  imports : List ImportedSymbol
  roots : List Nat
  declarations : List Declaration
  /-- The index of each fullname. -/
  byName : NameMap Nat
  state : LoadState
  indexed : byName.Indexes declarations
deriving DecidableEq, Repr

namespace Module

/-- A module without declarations. -/
def skeleton (name : String) (path : Path) : Module where
  name := name
  path := path
  docstring := none
  isPackage := false
  imports := []
  roots := []
  declarations := []
  byName := NameMap.empty
  state := .skeleton
  indexed := NameMap.Indexes.empty

instance : Inhabited Module := ⟨skeleton default default⟩

/-- The declaration at an index. -/
def declaration? (module : Module) (index : Nat) : Option Declaration :=
  module.declarations[index]?

/-- Adds a declaration below a parent, or at the top when there is no such parent, and writes its
index under its fullname. -/
def add (module : Module) (parent : Option Nat) (body : DeclarationBody) : Module :=
  let index := module.declarations.length
  let isInside := parent.any fun place => place < index
  let added : Declaration := { body with parent := parent, children := [] }
  { module with
    roots := if isInside then module.roots else module.roots ++ [index]
    declarations := Declaration.adoptBelow [index] module.declarations parent ++ [added]
    byName := module.byName.insert body.fullname index
    indexed :=
      (module.indexed.of_fullnames (Declaration.map_adoptBelow (fun _ => rfl) _ parent)).push added
        (Declaration.length_adoptBelow _ _ parent) }

/-- The index of a fullname. -/
def lookup (module : Module) (fullname : String) : Option Nat :=
  module.byName.get? fullname

/-- The declaration of a name inside the module. -/
def get? (module : Module) (name : String) : Option Declaration :=
  (module.lookup (Dotted.below module.name name)).bind module.declaration?

/-- The first import under a name. -/
def imported? (module : Module) (name : String) : Option ImportedSymbol :=
  module.imports.find? fun symbol => symbol.name == name

/-- The references of a module with the fullname of what they stand in: those of its imports,
which stand in the module itself, and those of its declarations. -/
def references (module : Module) : List (String × Reference) :=
  module.imports.map (fun symbol => (module.name, symbol.target)) ++
    module.declarations.flatMap fun declaration =>
      declaration.kind.references.map fun reference => (declaration.fullname, reference)

/-- Changes every reference of a module. -/
def mapReferences (change : Reference → Reference) (module : Module) : Module :=
  { module with
    imports := module.imports.map fun symbol => { symbol with target := change symbol.target }
    declarations := module.declarations.map fun declaration =>
      { declaration with kind := declaration.kind.mapReferences change }
    indexed := module.indexed.of_fullnames List.map_map }

/-- Visits every reference of a module with the fullname of what it stands in, in the order of
`references`. -/
def visitReferences {m : Type → Type} [Monad m] (visit : String → Reference → m Reference)
    (module : Module) : m Module := do
  let imports ← module.imports.mapM fun symbol => do
    let target ← visit module.name symbol.target
    return { symbol with target := target }
  let kinds ← module.declarations.mapM fun declaration =>
    declaration.kind.visitReferences (visit declaration.fullname)
  return { module with
    imports := imports
    declarations := Declaration.withKinds module.declarations kinds
    indexed := module.indexed.of_fullnames (Declaration.fullname_withKinds _ _) }

/-- How many references were looked up in vain. -/
def unresolvedCount (module : Module) : Nat :=
  (module.references.filter fun (_, reference) => reference.isUnresolved).length

/-- How many references were not looked up yet. -/
def pendingCount (module : Module) : Nat :=
  (module.references.filter fun (_, reference) => reference.isPending).length

/-- Whether two modules are the same, their paths compared by the places they name. -/
def same (module other : Module) : Bool :=
  module.path.same other.path && decide ({ module with path := other.path } = other)

end Module

end Declarations
