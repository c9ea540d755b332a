/-
This file proves that no target dangles. Every name in an index is there because of a module
that counts: one of the modules that are linked, or an earlier one whose name none of them
has. A declaration in the index stands in that module under the very name, so a look-up,
which only leads from name to name before it finds, ends at a declaration that has the name
at which it ended. An earlier module that was replaced leaves no trace.
-/

import Declarations.Proofs.Graph.ModuleSet
import Mathlib.Logic.Relation

namespace Declarations

/-- The module of a name when modules are linked after earlier ones. -/
def ModuleSet.counting? (modules previous : ModuleSet) (name : String) : Option Module :=
  (modules.get? name).or (previous.get? name)

namespace SymbolIndex

variable {modules previous : ModuleSet}

/-! ### What stands in an index -/

/-- What is true of a symbol that stands in an index under a name: a declaration is one of a
module that counts and has the name, and a module is one that counts. -/
def Meant (modules previous : ModuleSet) (name : String) : GraphSymbol → Prop
  | .declaration holder place => ∃ module declaration,
      modules.counting? previous holder = some module ∧
        module.declaration? place = some declaration ∧ declaration.fullname = name
  | .module other => (modules.counting? previous other).isSome
  | .imported _ => True

/-- Whether every symbol of an index is meant by a module that counts. -/
def Sound (modules previous : ModuleSet) (index : SymbolIndex) : Prop :=
  ∀ name symbol, index.get? name = some symbol → Meant modules previous name symbol

theorem sound_empty : Sound modules previous NameMap.empty :=
  fun _ _ found => by cases found

theorem sound_insert {index : SymbolIndex} (sound : Sound modules previous index) {name : String}
    {symbol : GraphSymbol} (meant : Meant modules previous name symbol) :
    Sound modules previous (index.insert name symbol) := by
  intro other found looked
  by_cases same : other = name
  · subst same
    rw [NameMap.get?_insert_self] at looked
    exact Option.some.inj looked ▸ meant
  · rw [NameMap.get?_insert_other _ _ same] at looked
    exact sound other found looked

theorem sound_addImport {index : SymbolIndex} (sound : Sound modules previous index)
    (holder : String) (symbol : ImportedSymbol) :
    Sound modules previous (addImport holder index symbol) := by
  unfold addImport
  dsimp only
  split
  · exact sound
  · exact sound
  · exact sound_insert sound trivial

theorem sound_addDeclarations {holder : Module}
    (counts : modules.counting? previous holder.name = some holder) (place : Nat)
    (rest : List Declaration) (here : holder.declarations.drop place = rest)
    {index : SymbolIndex} (sound : Sound modules previous index) :
    Sound modules previous (addDeclarations holder.name place rest index) := by
  induction rest generalizing place index with
  | nil => exact sound
  | cons declaration rest hypothesis =>
    have found : holder.declaration? place = some declaration := by
      have first := congrArg List.head? here
      rwa [List.head?_drop] at first
    refine hypothesis (place + 1) ?_ (sound_insert sound ⟨holder, declaration, counts, found, rfl⟩)
    rw [← List.tail_drop, here]
    rfl

/-- Adding a module that counts keeps an index sound. -/
theorem sound_addModule {index : SymbolIndex} (sound : Sound modules previous index)
    {module : Module} (counts : modules.counting? previous module.name = some module) :
    Sound modules previous (index.addModule module) := by
  refine sound_addDeclarations counts 0 _ List.drop_zero ?_
  have named : Sound modules previous (index.insert module.name (.module module.name)) :=
    sound_insert sound (by rw [Meant, counts]; rfl)
  exact List.foldlRecOn _ _ named fun index sound symbol _ => sound_addImport sound _ symbol

/-- The index that modules are linked with is sound: every module that is added counts. -/
theorem sound_build : Sound modules previous (build modules previous) := by
  refine List.foldlRecOn _ _ sound_empty fun index sound module member => ?_
  refine sound_addModule sound ?_
  rw [ModuleSet.counting?]
  rcases List.mem_append.1 member with kept | current
  · obtain ⟨earlier, absent⟩ := List.mem_filter.1 kept
    have unnamed : modules.get? module.name = none := by
      simpa [NameMap.contains] using absent
    rw [unnamed, Option.none_or, ModuleSet.get?_name earlier]
  · rw [ModuleSet.get?_name current]
    rfl

/-! ### What a look-up finds -/

/-- Whether looking a name up leads to another name, which may be the same. -/
def Leads (index : SymbolIndex) : String → String → Prop :=
  Relation.ReflTransGen fun name other => index.step name = .renamed other

theorem get?_of_step {index : SymbolIndex} {name : String} {target : Target}
    (found : index.step name = .found target) :
    (index.get? name).bind GraphSymbol.target? = some target := by
  unfold step at found
  dsimp only at found
  split at found
  next looked => rw [looked]; cases found; rfl
  next looked => rw [looked]; cases found; rfl
  next looked =>
    split at found
    · cases front : index.renameFront? name <;> rw [front] at found <;> cases found
    · cases found
  next looked => cases front : index.renameFront? name <;> rw [front] at found <;> cases found

/-- What a look-up finds stands in the index under a name to which the key leads. -/
theorem leads_of_lookupWithin {index : SymbolIndex} {count : Nat} {key : String}
    {target : Target} (found : index.lookupWithin count key = some target) :
    ∃ last, index.Leads key last ∧ index.step last = .found target := by
  rcases lookupWithin_cases found with here | ⟨fewer, other, rfl, here, behind⟩
  · exact ⟨key, .refl, here⟩
  · obtain ⟨last, leads, there⟩ := leads_of_lookupWithin behind
    exact ⟨last, leads.head here, there⟩

theorem meant_of_step {index : SymbolIndex} (sound : Sound modules previous index) {name : String}
    {target : Target} (found : index.step name = .found target) :
    ∃ symbol, symbol.target? = some target ∧ Meant modules previous name symbol := by
  obtain ⟨symbol, stored, meant⟩ := Option.bind_eq_some_iff.1 (get?_of_step found)
  exact ⟨symbol, meant, sound name symbol stored⟩

end SymbolIndex

/-! ### What linking resolves -/

/-- Whether a target is there in a set: a declaration, or a whole module. -/
def ModuleSet.Holds (modules : ModuleSet) : Target → Prop
  | .declaration holder place => (modules.declaration? (.declaration holder place)).isSome
  | .module name => modules.contains name

theorem Module.declaration?_link (index : SymbolIndex) (module : Module) (place : Nat) :
    (module.link index).1.declaration? place =
      (module.declaration? place).map fun declaration =>
        { declaration with kind := declaration.kind.mapReferences (Reference.settle index) } := by
  rw [link_eq]
  exact List.getElem?_map

namespace Reference

/-- What linking gave a target is a target of the index. -/
theorem Settled.lookup {index : SymbolIndex} {before after : Reference}
    (settled : before.Settled index after) (opened : ¬ before.isResolved) {target : Target}
    (given : after.target? = some target) : index.lookup before.key = some target := by
  refine (settled.found opened target).1 ?_
  unfold target? at given
  split at given
  next resolved => rw [resolved, Option.some.inj given]
  next => cases given

end Reference

namespace ModuleSet

variable {modules previous : ModuleSet}

/-- What counts when modules are linked is what the merged set holds afterwards, linked where
it is one of them. -/
theorem get?_merge_link (name : String) :
    (previous.merge (modules.link previous).1).get? name =
      ((modules.get? name).map fun module =>
        (module.link (SymbolIndex.build modules previous)).1).or (previous.get? name) := by
  rw [NameMap.get?_merge, get?_link]

theorem holds_module {name : String} (counts : (modules.counting? previous name).isSome) :
    Holds (previous.merge (modules.link previous).1) (.module name) := by
  rw [Holds, NameMap.contains, get?_merge_link]
  rw [counting?] at counts
  cases found : modules.get? name with
  | none => rwa [found] at counts
  | some module => rfl

theorem holds_declaration {holder : String} {place : Nat} {module : Module}
    {declaration : Declaration} (counts : modules.counting? previous holder = some module)
    (here : module.declaration? place = some declaration) :
    Holds (previous.merge (modules.link previous).1) (.declaration holder place) := by
  rw [Holds, declaration?, get?_merge_link]
  rw [counting?] at counts
  cases found : modules.get? holder with
  | none =>
    rw [found, Option.none_or] at counts
    rw [Option.map_none, Option.none_or, counts, Option.bind_some, here]
    rfl
  | some current =>
    rw [found] at counts
    obtain rfl : current = module := Option.some.inj counts
    rw [Option.map_some, Option.some_or, Option.bind_some, Module.declaration?_link, here]
    rfl

/-- What a look-up finds stands under a name to which the key leads, with what it means. -/
theorem meant_of_lookup {key : String} {target : Target}
    (found : (SymbolIndex.build modules previous).lookup key = some target) :
    ∃ last symbol, (SymbolIndex.build modules previous).Leads key last ∧
      (SymbolIndex.build modules previous).step last = .found target ∧
      symbol.target? = some target ∧ SymbolIndex.Meant modules previous last symbol := by
  obtain ⟨last, leads, there⟩ := SymbolIndex.leads_of_lookupWithin found
  obtain ⟨symbol, stored, meant⟩ := SymbolIndex.meant_of_step SymbolIndex.sound_build there
  exact ⟨last, symbol, leads, there, stored, meant⟩

theorem holds_of_lookup {key : String} {target : Target}
    (found : (SymbolIndex.build modules previous).lookup key = some target) :
    Holds (previous.merge (modules.link previous).1) target := by
  obtain ⟨last, symbol, -, -, stored, meant⟩ := meant_of_lookup found
  cases symbol with
  | declaration holder place =>
    obtain ⟨module, declaration, counts, here, -⟩ := meant
    cases stored
    exact holds_declaration counts here
  | module name =>
    cases stored
    exact holds_module meant
  | imported other => cases stored

/-- No target dangles. A declaration that a look-up finds stands at its place in the module of
its name that counts, which is one of the linked modules where these have the name, and
it has the fullname at which the look-up ended; a module that is found is there. So all that
linking resolves is there in the merged set. -/
theorem lookup_build_holds (modules previous : ModuleSet) :
    (∀ key holder place,
      (SymbolIndex.build modules previous).lookup key = some (.declaration holder place) →
        ∃ module declaration last,
          (modules.get? holder).or (previous.get? holder) = some module ∧
          module.declaration? place = some declaration ∧
          (SymbolIndex.build modules previous).Leads key last ∧
          (SymbolIndex.build modules previous).step last = .found (.declaration holder place) ∧
          declaration.fullname = last) ∧
    (∀ key name, (SymbolIndex.build modules previous).lookup key = some (.module name) →
      modules.contains name ∨ previous.contains name) ∧
    ∀ name before after, modules.get? name = some before →
      (modules.link previous).1.get? name = some after →
        List.Forall₂ (fun earlier later => ¬ earlier.2.isResolved →
            ∀ target, later.2.target? = some target →
              Holds (previous.merge (modules.link previous).1) target)
          before.references after.references := by
  refine ⟨fun key holder place found => ?_, fun key name found => ?_,
    fun name before after current linked => ?_⟩
  · obtain ⟨last, symbol, leads, there, stored, meant⟩ := meant_of_lookup found
    cases symbol with
    | declaration holder' place' =>
      obtain ⟨module, declaration, counts, here, named⟩ := meant
      cases stored
      exact ⟨module, declaration, last, counts, here, leads, there, named⟩
    | module name => cases stored
    | imported other => cases stored
  · obtain ⟨last, symbol, -, -, stored, meant⟩ := meant_of_lookup found
    cases symbol with
    | declaration holder place => cases stored
    | module name' =>
      cases stored
      rw [SymbolIndex.Meant, counting?, Option.isSome_or, Bool.or_eq_true] at meant
      exact meant
    | imported other => cases stored
  · rw [get?_link, current] at linked
    obtain rfl := Option.some.inj linked
    refine (before.linked_link _).references.imp fun earlier later settled opened target given => ?_
    exact holds_of_lookup (settled.2.lookup opened given)

/-- A variable of an earlier module, and a later module that imports it under another name. -/
theorem lookup_build_holds_imported :
    let variableBody : DeclarationBody :=
      ⟨"width", "page.width", .variable ⟨none, false, false, none⟩, none, none⟩
    let previous := add NameMap.empty ((Module.skeleton "page" ⟨"page.py"⟩).add none variableBody)
    let modules := add NameMap.empty { Module.skeleton "book" ⟨"book.py"⟩ with
      imports := [⟨"breadth", .pending "page.width"⟩] }
    (SymbolIndex.build modules previous).lookup "book.breadth" = some (.declaration "page" 0) ∧
      ∃ module declaration last,
        (modules.get? "page").or (previous.get? "page") = some module ∧
        module.declaration? 0 = some declaration ∧
        (SymbolIndex.build modules previous).Leads "book.breadth" last ∧
        (SymbolIndex.build modules previous).step last = .found (.declaration "page" 0) ∧
        declaration.fullname = last := by
  intro variableBody previous modules
  have found : (SymbolIndex.build modules previous).lookup "book.breadth" =
      some (.declaration "page" 0) := by
    decide
  exact ⟨found, (lookup_build_holds modules previous).1 "book.breadth" "page" 0 found⟩

end ModuleSet

end Declarations
