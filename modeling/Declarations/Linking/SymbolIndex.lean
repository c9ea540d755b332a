/-
This file holds the index of all names that several modules give to declarations, modules
and imports. An import gives another name to what it imports, so looking a name up may lead
from name to name; the number of such steps is limited.
-/

import Declarations.Graph.ModuleSet

namespace Declarations

/-- What a name stands for. -/
inductive GraphSymbol where
  | declaration (module : String) (index : Nat)
  | module (name : String)
  /-- An imported name, which stands for what the key stands for. -/
  | imported (key : String)
deriving DecidableEq, Repr, Inhabited

namespace GraphSymbol

/-- The target of a name that was not imported. -/
def target? : GraphSymbol → Option Target
  | .declaration holder index => some (.declaration holder index)
  | .module name => some (.module name)
  | .imported _ => none

/-- Whether a name was imported. -/
def isImported : GraphSymbol → Bool
  | .imported _ => true
  | _ => false

end GraphSymbol

/-- All names with what they stand for. -/
abbrev SymbolIndex : Type :=
  NameMap GraphSymbol

namespace SymbolIndex

/-! ### Building -/

/-- Adds an imported name, unless a declaration or module has it. -/
def addImport (holder : String) (index : SymbolIndex) (symbol : ImportedSymbol) : SymbolIndex :=
  let name := Dotted.below holder symbol.name
  match index.get? name with
  | some (.declaration _ _) | some (.module _) => index
  | _ => index.insert name (.imported symbol.target.key)

/-- Adds declarations, the first of which has an index. -/
def addDeclarations (holder : String) : Nat → List Declaration → SymbolIndex → SymbolIndex
  | _, [], index => index
  | place, declaration :: rest, index =>
    addDeclarations holder (place + 1) rest
      (index.insert declaration.fullname (.declaration holder place))

/-- Adds the names of a module: its own, those it imports one by one, and those it declares. A
declaration hides an import of the same name. -/
def addModule (index : SymbolIndex) (module : Module) : SymbolIndex :=
  let index := index.insert module.name (.module module.name)
  let index := (module.imports.filter fun symbol => symbol.name != "*").foldl
    (addImport module.name) index
  addDeclarations module.name 0 module.declarations index

/-- The index of some modules and of earlier ones, which count only where there is no module of
the same name. -/
def build (modules previous : ModuleSet) : SymbolIndex :=
  let kept := previous.values.filter fun module => !modules.contains module.name
  (kept ++ modules.values).foldl addModule NameMap.empty

/-! ### Looking up -/

/-- What one step of looking up a key leads to. -/
inductive Step where
  | found (target : Target)
  | renamed (key : String)
  | stuck
deriving DecidableEq, Repr, Inhabited

/-- The key in which an imported front is replaced by what it was imported from; of several
fronts the longest counts. -/
def renameFront? (index : SymbolIndex) (key : String) : Option String :=
  (Dotted.fronts key).findSome? fun (front, rest) =>
    match index.get? front with
    | some (.imported source) => some (source ++ rest)
    | _ => none

/-- One step: a key is found, or stands for another key as a whole or by its front. -/
def step (index : SymbolIndex) (key : String) : Step :=
  let byFront : Step :=
    match index.renameFront? key with
    | some other => .renamed other
    | none => .stuck
  match index.get? key with
  | some (.declaration holder place) => .found (.declaration holder place)
  | some (.module name) => .found (.module name)
  | some (.imported other) => if other = key then byFront else .renamed other
  | none => byFront

/-- How many times a key may be renamed. -/
def renameLimit : Nat := 16

/-- The target of a key that is found after at most so many renamings. -/
def lookupWithin (index : SymbolIndex) : Nat → String → Option Target
  | count, key =>
    match index.step key, count with
    | .found target, _ => some target
    | .stuck, _ => none
    | .renamed _, 0 => none
    | .renamed other, count + 1 => index.lookupWithin count other

section

variable {index : SymbolIndex} {key other : String} {target : Target}

theorem lookupWithin_found (here : index.step key = .found target) (count : Nat) :
    index.lookupWithin count key = some target := by
  unfold lookupWithin
  rw [here]

theorem lookupWithin_stuck (here : index.step key = .stuck) (count : Nat) :
    index.lookupWithin count key = none := by
  unfold lookupWithin
  rw [here]

theorem lookupWithin_zero (here : index.step key = .renamed other) :
    index.lookupWithin 0 key = none := by
  unfold lookupWithin
  rw [here]

theorem lookupWithin_succ (here : index.step key = .renamed other) (count : Nat) :
    index.lookupWithin (count + 1) key = index.lookupWithin count other := by
  conv => lhs; unfold lookupWithin
  rw [here]

/-- What a look-up finds, it finds at the key itself or behind a renaming. -/
theorem lookupWithin_cases {count : Nat} (found : index.lookupWithin count key = some target) :
    index.step key = .found target ∨
      ∃ fewer other, count = fewer + 1 ∧ index.step key = .renamed other ∧
        index.lookupWithin fewer other = some target := by
  cases here : index.step key with
  | found other =>
    rw [lookupWithin_found here] at found
    exact .inl (congrArg Step.found (Option.some.inj found))
  | stuck =>
    rw [lookupWithin_stuck here] at found
    cases found
  | renamed other =>
    cases count with
    | zero =>
      rw [lookupWithin_zero here] at found
      cases found
    | succ fewer =>
      rw [lookupWithin_succ here] at found
      exact .inr ⟨fewer, other, rfl, rfl, found⟩

end

/-- The target of a key. -/
def lookup (index : SymbolIndex) (key : String) : Option Target :=
  index.lookupWithin renameLimit key

end SymbolIndex

end Declarations
