/-
This file proves that a set of modules and its index find the same declaration under a fullname.
The set goes through the fronts of the fullname, the longest first, and in a module counts the
last declaration of the name; in the index stays what is put there last, and the modules are put
there in the order of their names. Both mean the same module, because a front of a name comes
before every longer front.
-/

import Declarations.Proofs.Graph.Arena
import Declarations.Proofs.Linking.Growth

namespace Declarations

/-! ### In one module -/

namespace Module

/-- What a module with declarations only below its name has under a name, stands below. -/
theorem Rooted.below_of_lookup {module : Module} (rooted : module.Rooted) {fullname : String}
    {index : Nat} (found : module.lookup fullname = some index) :
    ∃ name, fullname = Dotted.below module.name name := by
  obtain ⟨declaration, here, named⟩ := (isGreatest_of_lookup found).1
  rw [← named]
  exact rooted declaration (List.mem_of_getElem? here)

/-- What a module has under a name besides imports: a declaration, or else itself. -/
def target? (module : Module) (name : String) : Option Target :=
  ((module.lookup name).map (Target.declaration module.name)).or
    (if module.name = name then some (.module name) else none)

theorem Rooted.target?_cases {module : Module} (rooted : module.Rooted) {name : String}
    {target : Target} (found : module.target? name = some target) :
    (module.name = name ∧ target = .module name) ∨
      ∃ tail index, name = Dotted.below module.name tail ∧ module.lookup name = some index ∧
        target = .declaration module.name index := by
  rw [target?, Option.or_eq_some_iff, Option.map_eq_some_iff] at found
  rcases found with ⟨index, looked, rfl⟩ | ⟨-, itself⟩
  · obtain ⟨tail, below⟩ := rooted.below_of_lookup looked
    exact .inr ⟨tail, index, below, looked, rfl⟩
  · obtain ⟨same, here⟩ := Option.ite_none_right_eq_some.1 itself
    exact .inl ⟨same, (Option.some.inj here).symm⟩

theorem Rooted.target?_name {module : Module} (rooted : module.Rooted) :
    module.target? module.name = some (.module module.name) := by
  have absent : module.lookup module.name = none := by
    refine Option.eq_none_iff_forall_ne_some.2 fun index found => ?_
    obtain ⟨tail, below⟩ := rooted.below_of_lookup found
    exact Dotted.below_ne _ _ below.symm
  rw [target?, absent, if_pos rfl]
  rfl

theorem target?_of_lookup {module : Module} {name : String} {index : Nat}
    (found : module.lookup name = some index) :
    module.target? name = some (.declaration module.name index) := by
  rw [target?, found]
  rfl

end Module

/-! ### In the index -/

/-- An import counts for nothing where it meets something else. -/
theorem GraphSymbol.bind_target?_stays (stored later : Option GraphSymbol) :
    (stays stored later).bind target? = (later.bind target?).or (stored.bind target?) := by
  rcases later with - | later
  · rfl
  · cases later <;> rcases stored with - | stored <;> first | rfl | cases stored <;> rfl

namespace SymbolIndex

open GraphSymbol (stays bind_target?_stays)

theorem standing_declarations (holder name : String) (place : Nat)
    (declarations : List Declaration) :
    standing name ((declarations.zipIdx place).map fun (declaration, place) =>
        (declaration.fullname, GraphSymbol.declaration holder place)) =
      (Declaration.lastIndex name place declarations).map (GraphSymbol.declaration holder) := by
  induction declarations generalizing place with
  | nil => rfl
  | cons first rest hypothesis =>
    rw [List.zipIdx_cons, List.map_cons, standing, hypothesis, Declaration.lastIndex]
    cases Declaration.lastIndex name (place + 1) rest with
    | some later =>
      dsimp only
      split <;> rfl
    | none =>
      dsimp only
      split <;> rfl

theorem standing_imports (holder name : String) (imports : List ImportedSymbol) :
    (standing name (imports.map fun symbol =>
      (Dotted.below holder symbol.name, GraphSymbol.imported symbol.target.key))).bind
        GraphSymbol.target? = none := by
  induction imports with
  | nil => rfl
  | cons first rest hypothesis =>
    rw [List.map_cons, standing, bind_target?_stays, hypothesis]
    split <;> rfl

theorem standing_symbols (module : Module) (name : String) :
    (standing name module.symbols).bind GraphSymbol.target? = module.target? name := by
  have declared : ((module.lookup name).map (GraphSymbol.declaration module.name)).bind
      GraphSymbol.target? = (module.lookup name).map (Target.declaration module.name) := by
    cases module.lookup name <;> rfl
  rw [Module.symbols, standing_append, standing, bind_target?_stays, bind_target?_stays,
    standing_imports, standing_declarations, ← Module.lookup_eq_lastIndex, Option.none_or,
    Module.target?]
  refine congr (congrArg Option.or declared) ?_
  dsimp only
  split
  next same => rw [same]; rfl
  next => rfl

theorem standing_modules (modules : List Module) (name : String) :
    (standing name (modules.flatMap Module.symbols)).bind GraphSymbol.target? =
      modules.reverse.findSome? fun module => module.target? name := by
  induction modules with
  | nil => rfl
  | cons module rest hypothesis =>
    rw [List.flatMap_cons, standing_append, bind_target?_stays, hypothesis, standing_symbols,
      List.reverse_cons, List.findSome?_append, List.findSome?_singleton]

/-- What an index has under a key besides imports, it answers at once. -/
theorem lookup_of_target? {index : SymbolIndex} {key : String} {target : Target}
    (stored : (index.get? key).bind GraphSymbol.target? = some target) :
    index.lookup key = some target := by
  obtain ⟨symbol, here, same⟩ := Option.bind_eq_some_iff.1 stored
  refine lookupWithin_found ?_ _
  rw [step, here]
  cases symbol with
  | declaration holder index =>
    obtain rfl := Option.some.inj same
    rfl
  | module name =>
    obtain rfl := Option.some.inj same
    rfl
  | imported other => cases same

end SymbolIndex

/-! ### In a set -/

section

variable {α β : Type} {before : α → α → Prop} {items : List α} {find : α → Option β}

theorem findSome?_of_pairwise (ordered : items.Pairwise before) {item : α} {found : β}
    (member : item ∈ items) (here : find item = some found)
    (others : ∀ other ∈ items, before other item → find other = none) :
    items.findSome? find = some found := by
  induction items with
  | nil => cases member
  | cons first rest hypothesis =>
    obtain ⟨least, restOrdered⟩ := List.pairwise_cons.1 ordered
    rw [List.findSome?_cons]
    rcases List.mem_cons.1 member with rfl | later
    · rw [here]
    · rw [others first List.mem_cons_self (least item later)]
      exact hypothesis restOrdered later fun other inside =>
        others other (List.mem_cons_of_mem _ inside)

theorem findSome?_bind {γ : Type} {change : β → Option γ}
    (filled : ∀ item ∈ items, ∀ found, find item = some found → (change found).isSome) :
    items.findSome? (fun item => (find item).bind change) =
      (items.findSome? find).bind change := by
  induction items with
  | nil => rfl
  | cons first rest hypothesis =>
    have others := hypothesis fun item member => filled item (List.mem_cons_of_mem _ member)
    rw [List.findSome?_cons, List.findSome?_cons]
    cases here : find first with
    | none => exact others
    | some found =>
      obtain ⟨value, changed⟩ := Option.isSome_iff_exists.1 (filled first List.mem_cons_self _ here)
      rw [Option.bind_some, changed]

end

namespace ModuleSet

/-- The place of the declaration that is found under a fullname. -/
def place? (modules : ModuleSet) (fullname : String) : Option Target :=
  (Dotted.fronts fullname).findSome? fun cut =>
    (modules.get? cut.1).bind fun module =>
      (module.lookup fullname).map (Target.declaration cut.1)

theorem isSome_declaration? {modules : ModuleSet} {front fullname : String} {place : Target}
    (found : ((modules.get? front).bind fun module =>
      (module.lookup fullname).map (Target.declaration front)) = some place) :
    (modules.declaration? place).isSome := by
  obtain ⟨module, stored, looked⟩ := Option.bind_eq_some_iff.1 found
  obtain ⟨index, here, rfl⟩ := Option.map_eq_some_iff.1 looked
  obtain ⟨declaration, declared, -⟩ := (Module.isGreatest_of_lookup here).1
  rw [declaration?, stored, Option.bind_some, declared]
  rfl

theorem find?_eq_bind (modules : ModuleSet) (fullname : String) :
    modules.find? fullname = (modules.place? fullname).bind modules.declaration? := by
  rw [place?, ← findSome?_bind fun _ _ _ => isSome_declaration?, find?]
  refine SymbolIndex.findSome?_congr fun cut _ => ?_
  dsimp only
  cases stored : modules.get? cut.1 with
  | none => rfl
  | some module =>
    cases looked : module.lookup fullname with
    | none => rw [Option.bind_some, Option.bind_some, looked]; rfl
    | some index =>
      rw [Option.bind_some, Option.bind_some, looked, Option.map_some, Option.bind_some,
        Option.bind_some, declaration?, stored, Option.bind_some]

variable {modules : ModuleSet}

theorem exists_declaration_of_place? {fullname : String} {place : Target}
    (found : modules.place? fullname = some place) :
    ∃ declaration, modules.declaration? place = some declaration := by
  obtain ⟨cut, -, here⟩ := List.exists_of_findSome?_eq_some found
  exact Option.isSome_iff_exists.1 (isSome_declaration? here)

theorem pairwise_values (modules : ModuleSet) :
    modules.values.reverse.Pairwise fun first second => second.name < first.name := by
  refine List.pairwise_reverse.2 (List.pairwise_map.2 ?_)
  refine modules.ascending.imp_of_mem fun {first second} inFirst inSecond below => ?_
  rwa [modules.fits first inFirst, modules.fits second inSecond]

section

variable (rooted : ∀ module ∈ modules.values, module.Rooted)

include rooted

/-- A module that has a name itself comes behind all that have declarations of this name. -/
theorem findSome?_target?_of_contains {name : String} (contained : modules.contains name) :
    modules.values.reverse.findSome? (fun module => module.target? name) =
      some (.module name) := by
  obtain ⟨module, stored⟩ := Option.isSome_iff_exists.1 contained
  have member := NameMap.mem_values_of_get? stored
  have itself := (rooted module member).target?_name
  obtain rfl := modules.fits_of_get? stored
  refine findSome?_of_pairwise (pairwise_values modules) (List.mem_reverse.2 member) itself
    fun other inside after => ?_
  refine Option.eq_none_iff_forall_ne_some.2 fun target found => ?_
  rcases (rooted other (List.mem_reverse.1 inside)).target?_cases found
    with ⟨same, -⟩ | ⟨tail, index, below, -, -⟩
  · exact String.lt_irrefl _ (same ▸ after)
  · rw [below] at after
    exact String.lt_irrefl _ (String.lt_trans after (Dotted.lt_below _ _))

/-- The longest front that leads to a declaration is the last module that has one. -/
theorem findSome?_target?_of_place? {name : String} (absent : ¬ modules.contains name)
    {place : Target} (found : modules.place? name = some place) :
    modules.values.reverse.findSome? (fun module => module.target? name) = some place := by
  obtain ⟨longer, ⟨front, rest⟩, shorter, split, here, none⟩ := List.findSome?_eq_some_iff.1 found
  obtain ⟨module, stored, looked⟩ := Option.bind_eq_some_iff.1 here
  obtain ⟨index, lookedUp, rfl⟩ := Option.map_eq_some_iff.1 looked
  obtain rfl := modules.fits_of_get? stored
  have member := NameMap.mem_values_of_get? stored
  refine findSome?_of_pairwise (pairwise_values modules) (List.mem_reverse.2 member)
    (Module.target?_of_lookup lookedUp) fun other inside after => ?_
  have otherStored := get?_name (List.mem_reverse.1 inside)
  refine Option.eq_none_iff_forall_ne_some.2 fun target otherFound => ?_
  rcases (rooted other (List.mem_reverse.1 inside)).target?_cases otherFound
    with ⟨same, -⟩ | ⟨tail, otherIndex, below, otherLooked, -⟩
  · exact absent (same ▸ Option.isSome_iff_exists.2 ⟨other, otherStored⟩)
  -- The other module stands at a front as well, and not at a longer one.
  · obtain ⟨otherRest, member⟩ := Dotted.mem_fronts_below other.name tail
    have ordered := Dotted.pairwise_fronts name
    rw [← below, split] at member
    rw [split] at ordered
    rcases List.mem_append.1 member with isLonger | behind
    · have vain := none _ isLonger
      rw [otherStored, Option.bind_some, otherLooked] at vain
      cases vain
    · rcases List.mem_cons.1 behind with same | isShorter
      · rw [(Prod.mk.inj same).1] at after
        exact String.lt_irrefl _ after
      · have before := (List.pairwise_cons.1 (List.pairwise_append.1 ordered).2.1).1 _ isShorter
        exact String.lt_irrefl _ (String.lt_trans after before)

theorem findSome?_target?_of_none {name : String} (absent : ¬ modules.contains name)
    (vain : modules.place? name = none) :
    modules.values.reverse.findSome? (fun module => module.target? name) = none := by
  refine List.findSome?_eq_none_iff.2 fun module inside => ?_
  have stored := get?_name (List.mem_reverse.1 inside)
  refine Option.eq_none_iff_forall_ne_some.2 fun target found => ?_
  rcases (rooted module (List.mem_reverse.1 inside)).target?_cases found
    with ⟨same, -⟩ | ⟨tail, index, below, looked, -⟩
  · exact absent (same ▸ Option.isSome_iff_exists.2 ⟨module, stored⟩)
  · obtain ⟨rest, member⟩ := Dotted.mem_fronts_below module.name tail
    rw [← below] at member
    have here := List.findSome?_eq_none_iff.1 vain _ member
    rw [stored, Option.bind_some, looked] at here
    cases here

/-- What the index of a set has under a key besides imports: a module of the set, or else the
declaration that the set finds. -/
theorem get?_build_target? (key : String) :
    ((SymbolIndex.build modules NameMap.empty).get? key).bind GraphSymbol.target? =
      if modules.contains key then some (.module key) else modules.place? key := by
  rw [SymbolIndex.get?_build, show NameMap.values (α := Module) NameMap.empty = [] from rfl,
    List.filter_nil, List.flatMap_nil, SymbolIndex.standing, GraphSymbol.stays_none_left,
    SymbolIndex.standing_modules]
  split
  next contained => exact findSome?_target?_of_contains rooted contained
  next absent =>
    cases found : modules.place? key with
    | none => exact findSome?_target?_of_none rooted absent found
    | some place => exact findSome?_target?_of_place? rooted absent found

end

/-- A set and its index look a key up alike: the index answers with the module of the name, or
else with the place where the set finds a declaration, and holds no declaration under a name for
which the set finds none. -/
theorem lookup_build_eq_find? {modules : ModuleSet}
    (rooted : ∀ module ∈ modules.values, module.Rooted) (key : String) :
    let index := SymbolIndex.build modules NameMap.empty
    (modules.contains key → index.lookup key = some (.module key)) ∧
      (¬ modules.contains key → ∀ declaration, modules.find? key = some declaration →
        ∃ holder place, modules.place? key = some (.declaration holder place) ∧
          index.lookup key = some (.declaration holder place) ∧
          modules.declaration? (.declaration holder place) = some declaration) ∧
      (modules.find? key = none → ∀ holder place,
        index.get? key ≠ some (.declaration holder place)) := by
  intro index
  have stored := get?_build_target? rooted key
  refine ⟨fun contained => ?_, fun absent declaration found => ?_, fun vain holder place here => ?_⟩
  · rw [if_pos contained] at stored
    exact SymbolIndex.lookup_of_target? stored
  · rw [if_neg absent] at stored
    rw [find?_eq_bind, Option.bind_eq_some_iff] at found
    obtain ⟨target, placed, declared⟩ := found
    cases target with
    | declaration holder place =>
      exact ⟨holder, place, placed, SymbolIndex.lookup_of_target? (stored.trans placed), declared⟩
    | module name => cases declared
  · rw [show (SymbolIndex.build modules NameMap.empty).get? key = _ from here] at stored
    split at stored
    next => cases stored
    next absent =>
      have placed : modules.place? key = some (.declaration holder place) := stored.symm
      obtain ⟨declaration, declared⟩ := exists_declaration_of_place? placed
      rw [find?_eq_bind, placed, Option.bind_some, declared] at vain
      cases vain

/-- A package declares a class of the name of a submodule, with a member of the name of what the
submodule declares twice. -/
theorem lookup_build_eq_find?_shelf :
    let classBody (name fullname : String) : DeclarationBody :=
      ⟨name, fullname, .classDef ⟨[], none, []⟩, none, none⟩
    let package := ((Module.skeleton "shelf" ⟨"shelf/__init__.py"⟩).add none
        (classBody "book" "shelf.book")).add (some 0) (classBody "Page" "shelf.book.Page")
    let submodule := ((Module.skeleton "shelf.book" ⟨"shelf/book.py"⟩).add none
        (classBody "Page" "shelf.book.Page")).add none (classBody "Page" "shelf.book.Page")
    let modules := ofModules [package, submodule]
    let index := SymbolIndex.build modules NameMap.empty
    (∀ module ∈ modules.values, module.Rooted) ∧
      index.lookup "shelf.book" = some (.module "shelf.book") ∧
      index.lookup "shelf.book.Page" = some (.declaration "shelf.book" 1) ∧
      ∀ holder place, index.get? "shelf.Page" ≠ some (.declaration holder place) := by
  intro classBody package submodule modules index
  have rooted : ∀ module ∈ modules.values, module.Rooted := by
    intro module member declaration inside
    rcases mem_values_add member with rfl | earlier
    · rcases List.mem_cons.1 inside with rfl | second
      · exact ⟨"Page", rfl⟩
      · obtain rfl := List.mem_singleton.1 second
        exact ⟨"Page", rfl⟩
    · obtain rfl := List.mem_singleton.1 earlier
      rcases List.mem_cons.1 inside with rfl | second
      · exact ⟨"book", rfl⟩
      · obtain rfl := List.mem_singleton.1 second
        exact ⟨"book.Page", rfl⟩
  have placed : modules.place? "shelf.book.Page" = some (.declaration "shelf.book" 1) := by
    decide +kernel
  obtain ⟨declaration, found⟩ := exists_declaration_of_place? placed
  have foundBySet : modules.find? "shelf.book.Page" = some declaration := by
    rw [find?_eq_bind, placed, Option.bind_some, found]
  obtain ⟨holder, place, placedAgain, looked, -⟩ :=
    (lookup_build_eq_find? rooted "shelf.book.Page").2.1 (by decide +kernel) declaration
      foundBySet
  refine ⟨rooted, (lookup_build_eq_find? rooted "shelf.book").1 (by decide +kernel),
    ?_, (lookup_build_eq_find? rooted "shelf.Page").2.2 (by decide +kernel)⟩
  rw [looked, ← placedAgain, placed]

end ModuleSet

end Declarations
