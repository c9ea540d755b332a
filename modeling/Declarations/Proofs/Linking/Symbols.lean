/-
This file proves what an index answers for a name. Adding a module puts one symbol after the
other under its name: the module itself, the names that it imports, and its declarations. What
stays under a name is the last declaration or module that was put there, or, where there is
none, the last import. No name matters to another, so what an index answers for a name can be
told from what the modules put there, and adding one more module is one more step of that.
-/

import Declarations.Linking.SymbolIndex

namespace Declarations

/-! ### Under one name -/

namespace GraphSymbol

/-- What stays under a name when something is put there after what stood there: an import does
not replace a declaration or a module. -/
def stays : Option GraphSymbol → Option GraphSymbol → Option GraphSymbol
  | stored, none => stored
  | some (.declaration holder place), some (.imported _) => some (.declaration holder place)
  | some (.module name), some (.imported _) => some (.module name)
  | _, some later => some later

theorem stays_none_left (later : Option GraphSymbol) : stays none later = later := by
  rcases later with - | later
  · rfl
  · cases later <;> rfl

theorem stays_eq_or (stored later : Option GraphSymbol) :
    stays stored later = stored ∨ stays stored later = later := by
  unfold stays
  split
  · exact Or.inl rfl
  · exact Or.inl rfl
  · exact Or.inl rfl
  · exact Or.inr rfl

theorem stays_eq_none_iff {stored later : Option GraphSymbol} :
    stays stored later = none ↔ stored = none ∧ later = none := by
  rcases stored with - | stored
  · rw [stays_none_left, and_iff_right rfl]
  · rcases later with - | later
    · simp [stays]
    · cases stored <;> cases later <;> simp [stays]

theorem stays_assoc (first second third : Option GraphSymbol) :
    stays (stays first second) third = stays first (stays second third) := by
  rcases first with - | first
  · rw [stays_none_left, stays_none_left]
  · rcases second with - | second
    · rw [stays_none_left]
      rfl
    · rcases third with - | third
      · rfl
      · cases first <;> cases second <;> cases third <;> rfl

/-- Of an import and something else it does not matter which is put first. -/
theorem stays_comm {first second : Option GraphSymbol}
    (apart : ∀ one ∈ first, ∀ other ∈ second, one.isImported ≠ other.isImported)
    (stored : Option GraphSymbol) :
    stays (stays stored first) second = stays (stays stored second) first := by
  rcases first with - | first
  · rfl
  · rcases second with - | second
    · rfl
    -- One of the two is an import, and the other one stays, whatever was stored.
    · have different := apart first rfl second rfl
      rcases stored with - | stored
      · cases first <;> cases second <;> first | rfl | exact absurd rfl different
      · cases first <;> cases second <;> first | cases stored <;> rfl | exact absurd rfl different

end GraphSymbol

namespace SymbolIndex

open GraphSymbol (stays stays_none_left stays_assoc stays_eq_or stays_eq_none_iff)

/-- Puts a symbol under a name; an import does not replace a declaration or a module. -/
def put (index : SymbolIndex) (entry : String × GraphSymbol) : SymbolIndex :=
  match entry.2, index.get? entry.1 with
  | .imported _, some (.declaration _ _) | .imported _, some (.module _) => index
  | symbol, _ => index.insert entry.1 symbol

/-- What stays under a name of all that is put into an index one after the other. -/
def standing (name : String) : List (String × GraphSymbol) → Option GraphSymbol
  | [] => none
  | entry :: rest => stays (if entry.1 = name then some entry.2 else none) (standing name rest)

theorem get?_put_self (index : SymbolIndex) (name : String) (symbol : GraphSymbol) :
    (index.put (name, symbol)).get? name = stays (index.get? name) (some symbol) := by
  rcases stored : index.get? name with - | other
  · rw [stays_none_left]
    cases symbol <;> simp only [put, stored, NameMap.get?_insert_self]
  · cases symbol <;> cases other <;> simp only [put, stored, NameMap.get?_insert_self, stays]

theorem get?_put_other (index : SymbolIndex) {name other : String} (symbol : GraphSymbol)
    (different : other ≠ name) : (index.put (name, symbol)).get? other = index.get? other := by
  unfold put
  split
  · rfl
  · rfl
  · exact NameMap.get?_insert_other _ _ different

theorem get?_put (index : SymbolIndex) (entry : String × GraphSymbol) (name : String) :
    (index.put entry).get? name =
      stays (index.get? name) (if entry.1 = name then some entry.2 else none) := by
  split
  next same =>
    subst same
    exact get?_put_self index entry.1 entry.2
  next different => exact get?_put_other index entry.2 fun same => different same.symm

theorem get?_foldl_put (entries : List (String × GraphSymbol)) (index : SymbolIndex)
    (name : String) :
    (entries.foldl put index).get? name = stays (index.get? name) (standing name entries) := by
  induction entries generalizing index with
  | nil => rfl
  | cons entry rest hypothesis =>
    rw [List.foldl_cons, hypothesis, get?_put, stays_assoc]
    rfl

/-! ### What is put under a name -/

section

variable {name : String} {entries : List (String × GraphSymbol)}

theorem standing_append (name : String) (first second : List (String × GraphSymbol)) :
    standing name (first ++ second) = stays (standing name first) (standing name second) := by
  induction first with
  | nil => exact (stays_none_left _).symm
  | cons entry rest hypothesis =>
    rw [List.cons_append, standing, hypothesis, ← stays_assoc]
    rfl

theorem mem_of_standing {symbol : GraphSymbol} (found : standing name entries = some symbol) :
    (name, symbol) ∈ entries := by
  induction entries with
  | nil => cases found
  | cons entry rest hypothesis =>
    rw [standing] at found
    rcases stays_eq_or (if entry.1 = name then some entry.2 else none) (standing name rest)
      with here | later
    · rw [here] at found
      split at found
      next same => exact List.mem_cons.2 (Or.inl (Prod.ext same.symm (Option.some.inj found).symm))
      next => cases found
    · exact List.mem_cons_of_mem _ (hypothesis (later.symm.trans found))

theorem standing_eq_none (unnamed : ∀ entry ∈ entries, entry.1 ≠ name) :
    standing name entries = none := by
  cases found : standing name entries with
  | none => rfl
  | some symbol => exact absurd rfl (unnamed _ (mem_of_standing found))

theorem ne_of_standing_eq_none (nothing : standing name entries = none) :
    ∀ entry ∈ entries, entry.1 ≠ name := by
  induction entries with
  | nil => exact nofun
  | cons entry rest hypothesis =>
    rw [standing, stays_eq_none_iff] at nothing
    refine List.forall_mem_cons.2 ⟨fun same => ?_, hypothesis nothing.2⟩
    rw [if_pos same] at nothing
    cases nothing.1

/-- Where a name is put once, that stays, or the same is put there again. -/
theorem standing_eq_some {symbol : GraphSymbol} (member : (name, symbol) ∈ entries)
    (only : ∀ other, (name, other) ∈ entries → other = symbol) :
    standing name entries = some symbol := by
  cases found : standing name entries with
  | none => exact absurd rfl (ne_of_standing_eq_none found _ member)
  | some other => rw [only other (mem_of_standing found)]

end

end SymbolIndex

/-! ### Modules -/

/-- What a module puts into an index, in this order: itself, its imports and its declarations. -/
def Module.symbols (module : Module) : List (String × GraphSymbol) :=
  (module.name, .module module.name) ::
    ((module.imports.filter fun symbol => symbol.name != "*").map fun symbol =>
      (Dotted.below module.name symbol.name, GraphSymbol.imported symbol.target.key)) ++
    (module.declarations.zipIdx.map fun (declaration, place) =>
      (declaration.fullname, GraphSymbol.declaration module.name place))

namespace SymbolIndex

open GraphSymbol (stays)

theorem addImport_eq (holder : String) (index : SymbolIndex) (symbol : ImportedSymbol) :
    addImport holder index symbol =
      index.put (Dotted.below holder symbol.name, .imported symbol.target.key) := by
  unfold addImport put
  dsimp only
  rcases index.get? (Dotted.below holder symbol.name) with - | stored
  · rfl
  · cases stored <;> rfl

theorem addDeclarations_eq (holder : String) (place : Nat) (declarations : List Declaration)
    (index : SymbolIndex) :
    addDeclarations holder place declarations index =
      ((declarations.zipIdx place).map fun (declaration, place) =>
        (declaration.fullname, GraphSymbol.declaration holder place)).foldl put index := by
  induction declarations generalizing place index with
  | nil => rfl
  | cons declaration rest hypothesis =>
    rw [addDeclarations, hypothesis]
    rfl

theorem addModule_eq (index : SymbolIndex) (module : Module) :
    index.addModule module = module.symbols.foldl put index := by
  rw [addModule, addDeclarations_eq, Module.symbols, List.cons_append, List.foldl_cons,
    List.foldl_append]
  refine congrArg (List.foldl put · _) ?_
  rw [List.foldl_map, ← funext fun index => funext (addImport_eq module.name index)]
  rfl

/-- What an index answers after a module is added. -/
theorem get?_addModule (index : SymbolIndex) (module : Module) (name : String) :
    (index.addModule module).get? name =
      stays (index.get? name) (standing name module.symbols) := by
  rw [addModule_eq, get?_foldl_put]

/-- What an index answers that is made from modules. -/
theorem get?_foldl_addModule (modules : List Module) (name : String) :
    (modules.foldl addModule NameMap.empty).get? name =
      standing name (modules.flatMap Module.symbols) := by
  have added : modules.foldl addModule NameMap.empty =
      (modules.flatMap Module.symbols).foldl put NameMap.empty := by
    rw [List.foldl_flatMap, ← funext fun index => funext (addModule_eq index)]
  rw [added, get?_foldl_put, NameMap.get?_empty, GraphSymbol.stays_none_left]

end SymbolIndex

end Declarations
