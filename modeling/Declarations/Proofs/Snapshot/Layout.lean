/-
This file proves that a module whose declarations stand in pre-order is the same again after
it was written as an entry and read back. The declarations of a forest are laid out from the
outside in and from the top down; adding a stack of entries appends their layout, and the
entry at the place of a laid out tree is that tree.
-/

import Declarations.Proofs.Graph.NameIndex
import Declarations.Proofs.Graph.References
import Mathlib.Data.List.Basic

namespace Declarations

/-! ### Laying out a forest -/

namespace DeclarationEntry

/-- The places of declarations that stand next to each other, each after all that is declared
in the one before; the first place is given. -/
def places (place : Nat) : List DeclarationEntry → List Nat
  | [] => []
  | first :: rest => place :: places (place + first.size) rest

mutual

/-- The declarations of an entry in pre-order, the first of which is at a place. -/
def layout (parent : Option Nat) (place : Nat) : DeclarationEntry → List Declaration
  | .node body children =>
    { body with parent := parent, children := places (place + 1) children } ::
      layoutAll (some place) (place + 1) children

/-- The declarations of entries in pre-order, the first of which is at a place. -/
def layoutAll (parent : Option Nat) (place : Nat) : List DeclarationEntry → List Declaration
  | [] => []
  | first :: rest => first.layout parent place ++ layoutAll parent (place + first.size) rest

end

mutual

theorem length_layout (parent : Option Nat) (place : Nat) : (entry : DeclarationEntry) →
    (entry.layout parent place).length = entry.size
  | .node _ children => by
    rw [layout, size, List.length_cons, length_layoutAll (some place) (place + 1) children]

theorem length_layoutAll (parent : Option Nat) (place : Nat) :
    (entries : List DeclarationEntry) →
      (layoutAll parent place entries).length = sizeAll entries
  | [] => rfl
  | first :: rest => by
    rw [layoutAll, sizeAll, List.length_append, length_layout parent place first,
      length_layoutAll parent (place + first.size) rest]

end

theorem le_of_mem_places {place : Nat} {entries : List DeclarationEntry} {other : Nat}
    (member : other ∈ places place entries) : place ≤ other := by
  induction entries generalizing place with
  | nil => cases member
  | cons first rest hypothesis =>
    rcases List.mem_cons.1 member with same | later
    · exact Nat.le_of_eq same.symm
    · exact Nat.le_trans (Nat.le_add_right _ _) (hypothesis later)

end DeclarationEntry

/-- Induction over a forest: over what is declared in its first tree, and over the other trees. -/
@[elab_as_elim]
theorem DeclarationEntry.forestInduction {motive : List DeclarationEntry → Prop}
    (nil : motive [])
    (node : ∀ body children rest, motive children → motive rest →
      motive (.node body children :: rest))
    (entries : List DeclarationEntry) : motive entries := by
  match entries with
  | [] => exact nil
  | .node body children :: rest =>
    exact node body children rest (forestInduction nil node children)
      (forestInduction nil node rest)
termination_by DeclarationEntry.sizeAll entries
decreasing_by
  all_goals
    simp only [DeclarationEntry.sizeAll, DeclarationEntry.size]
    omega

/-- Whether the declarations of a module are those of a forest in pre-order, as they are when
each is added before those declared in it, and these before its next sibling. -/
def Module.PreOrder (module : Module) : Prop :=
  ∃ forest, module.roots = DeclarationEntry.places 0 forest ∧
    module.declarations = DeclarationEntry.layoutAll none 0 forest

/-! ### Adding a stack -/

section

variable {α : Type} (change : α → α)

theorem modify_append_of_lt {first : List α} {place : Nat} (below : place < first.length)
    (second : List α) :
    (first ++ second).modify place change = first.modify place change ++ second := by
  induction first generalizing place with
  | nil => cases below
  | cons item rest hypothesis =>
    cases place with
    | zero => rfl
    | succ place =>
      rw [List.cons_append, List.modify_succ_cons, List.modify_succ_cons,
        hypothesis (Nat.lt_of_succ_lt_succ below), List.cons_append]

theorem modify_append_length (first : List α) (item : α) (second : List α) :
    (first ++ item :: second).modify first.length change = first ++ change item :: second := by
  induction first with
  | nil => rfl
  | cons other rest hypothesis =>
    rw [List.cons_append, List.length_cons, List.modify_succ_cons, hypothesis, List.cons_append]

end

/-- Writes the indices of some declarations under their fullnames, the first of which is given. -/
def NameMap.indexAll (byName : NameMap Nat) (index : Nat) : List Declaration → NameMap Nat
  | [] => byName
  | declaration :: rest =>
    indexAll (byName.insert declaration.fullname index) (index + 1) rest

theorem NameMap.Indexes.pushAll {byName : NameMap Nat} {declarations : List Declaration}
    (indexes : byName.Indexes declarations) (added : List Declaration) {index : Nat}
    (last : declarations.length = index) :
    (byName.indexAll index added).Indexes (declarations ++ added) := by
  induction added generalizing byName declarations index with
  | nil => rwa [List.append_nil]
  | cons declaration rest hypothesis =>
    have longer : (declarations ++ [declaration]).length = index + 1 :=
      List.length_append.trans (congrArg (· + 1) last)
    have next := hypothesis (indexes.push declaration last) longer
    rwa [List.append_assoc] at next

namespace Module

/-- Whether a module has a parent that declarations are added below. The top is always there. -/
def HasParent (module : Module) (parent : Option Nat) : Prop :=
  ∀ place ∈ parent, place < module.declarations.length

/-- Puts places behind those of a parent, or behind those at the top. -/
def hang (module : Module) (places : List Nat) : Option Nat → Module
  | some parent =>
    { module with
      declarations := module.declarations.modify parent (Declaration.adopt places)
      indexed := module.indexed.of_fullnames
        (Declaration.map_adoptBelow (fun _ => rfl) module.declarations (some parent)) }
  | none => { module with roots := module.roots ++ places }

/-- Puts declarations behind all others. -/
def append (module : Module) (added : List Declaration) : Module :=
  { module with
    declarations := module.declarations ++ added
    byName := module.byName.indexAll module.declarations.length added
    indexed := module.indexed.pushAll added rfl }

/-- Adds entries below a parent with all that is declared in them. -/
def extend (module : Module) (parent : Option Nat) (entries : List DeclarationEntry) : Module :=
  (module.hang (DeclarationEntry.places module.declarations.length entries) parent).append
    (DeclarationEntry.layoutAll parent module.declarations.length entries)

theorem length_hang (module : Module) (places : List Nat) (parent : Option Nat) :
    (module.hang places parent).declarations.length = module.declarations.length := by
  cases parent with
  | none => rfl
  | some parent => exact List.length_modify _ _ _

theorem hang_nil (module : Module) (parent : Option Nat) : module.hang [] parent = module := by
  cases parent with
  | none => exact ext_of_declarations rfl rfl rfl rfl rfl (List.append_nil _) rfl rfl
  | some parent =>
    have same : Declaration.adopt [] = id := by
      funext declaration
      rw [Declaration.adopt, List.append_nil]
      rfl
    have kept := (congrArg (module.declarations.modify parent) same).trans (List.modify_id _ _)
    exact ext_of_declarations rfl rfl rfl rfl rfl rfl kept rfl

theorem hang_hang (module : Module) (first second : List Nat) (parent : Option Nat) :
    (module.hang first parent).hang second parent = module.hang (first ++ second) parent := by
  cases parent with
  | none => exact ext_of_declarations rfl rfl rfl rfl rfl (List.append_assoc _ _ _) rfl rfl
  | some parent =>
    have same : Declaration.adopt second ∘ Declaration.adopt first =
        Declaration.adopt (first ++ second) := by
      funext declaration
      rw [Function.comp_apply, Declaration.adopt, Declaration.adopt, Declaration.adopt,
        List.append_assoc]
    have joined := (List.modify_modify_eq _ _ parent module.declarations).trans
      (congrArg (module.declarations.modify parent) same)
    exact ext_of_declarations rfl rfl rfl rfl rfl rfl joined rfl

theorem append_append (module : Module) (first second : List Declaration) :
    (module.append first).append second = module.append (first ++ second) :=
  ext_of_declarations rfl rfl rfl rfl rfl rfl (List.append_assoc _ _ _) rfl

/-- Below a parent that was there before, it does not matter what was added behind. -/
theorem hang_append {module : Module} {parent : Option Nat} (there : module.HasParent parent)
    (places : List Nat) (added : List Declaration) :
    (module.append added).hang places parent = (module.hang places parent).append added := by
  cases parent with
  | none => exact ext_of_declarations rfl rfl rfl rfl rfl rfl rfl rfl
  | some parent =>
    have below : parent < module.declarations.length := there parent rfl
    exact ext_of_declarations rfl rfl rfl rfl rfl rfl (modify_append_of_lt _ below _) rfl

theorem add_eq {module : Module} {parent : Option Nat} (there : module.HasParent parent)
    (body : DeclarationBody) :
    module.add parent body = (module.hang [module.declarations.length] parent).append
      [{ body with parent := parent, children := [] }] := by
  cases parent with
  | none => exact ext_of_declarations rfl rfl rfl rfl rfl rfl rfl rfl
  | some parent =>
    have below : parent < module.declarations.length := there parent rfl
    refine ext_of_declarations rfl rfl rfl rfl rfl ?_ rfl rfl
    simp [add, hang, append, below]

theorem length_add {module : Module} {parent : Option Nat} (there : module.HasParent parent)
    (body : DeclarationBody) :
    (module.add parent body).declarations.length = module.declarations.length + 1 := by
  rw [add_eq there, append, List.length_append, length_hang]
  rfl

theorem hang_append_length (module : Module) (declaration : Declaration) (places : List Nat)
    (rest : List Declaration) :
    (module.append (declaration :: rest)).hang places (some module.declarations.length) =
      module.append
        ({ declaration with children := declaration.children ++ places } :: rest) :=
  ext_of_declarations rfl rfl rfl rfl rfl rfl (modify_append_length _ _ _ _) rfl

/-- Adding a declaration and then what is declared in it is adding it with all of that. -/
theorem extend_cons {module : Module} {parent : Option Nat} (there : module.HasParent parent)
    (body : DeclarationBody) (children rest : List DeclarationEntry) :
    ((module.add parent body).extend (some module.declarations.length) children).extend parent
        rest =
      module.extend parent (.node body children :: rest) := by
  have inner : (module.add parent body).extend (some module.declarations.length) children =
      (module.hang [module.declarations.length] parent).append
        (DeclarationEntry.layout parent module.declarations.length (.node body children)) := by
    rw [extend, length_add there, add_eq there]
    have start := hang_append_length (module.hang [module.declarations.length] parent)
      { body with parent := parent, children := [] }
      (DeclarationEntry.places (module.declarations.length + 1) children) []
    rw [length_hang] at start
    rw [start, append_append]
    rfl
  have size : ((module.hang [module.declarations.length] parent).append
      (DeclarationEntry.layout parent module.declarations.length
        (.node body children))).declarations.length =
      module.declarations.length + (DeclarationEntry.node body children).size := by
    rw [append, List.length_append, length_hang, DeclarationEntry.length_layout]
  have stillThere : (module.hang [module.declarations.length] parent).HasParent parent := by
    intro place member
    rw [length_hang]
    exact there place member
  rw [inner, extend, size, hang_append stillThere, hang_hang, append_append]
  rfl

theorem roots_extend_none (module : Module) (entries : List DeclarationEntry) :
    (module.extend none entries).roots =
      module.roots ++ DeclarationEntry.places module.declarations.length entries := rfl

theorem declarations_extend_none (module : Module) (entries : List DeclarationEntry) :
    (module.extend none entries).declarations = module.declarations ++
      DeclarationEntry.layoutAll none module.declarations.length entries := rfl

theorem length_extend (module : Module) (parent : Option Nat) (entries : List DeclarationEntry) :
    (module.extend parent entries).declarations.length =
      module.declarations.length + DeclarationEntry.sizeAll entries := by
  rw [extend, append, List.length_append, length_hang, DeclarationEntry.length_layoutAll]

theorem extend_nil (module : Module) (parent : Option Nat) : module.extend parent [] = module := by
  rw [extend, DeclarationEntry.places, hang_nil]
  exact ext_of_declarations rfl rfl rfl rfl rfl rfl (List.append_nil _) rfl

/-- Working off entries that lie on top of a stack appends their layout. -/
theorem addStack_append (module : Module) (parent : Option Nat)
    (there : module.HasParent parent) (entries : List DeclarationEntry)
    (rest : List (Option Nat × DeclarationEntry)) :
    module.addStack (entries.map (fun entry => (parent, entry)) ++ rest) =
      (module.extend parent entries).addStack rest := by
  match entries with
  | [] => rw [extend_nil, List.map_nil, List.nil_append]
  | .node body children :: entries =>
    have inside : (module.add parent body).HasParent (some module.declarations.length) := by
      rintro place ⟨⟩
      rw [length_add there]
      exact Nat.lt_succ_self _
    have outside : ((module.add parent body).extend (some module.declarations.length)
        children).HasParent parent := by
      intro place member
      rw [length_extend, length_add there]
      exact Nat.lt_of_lt_of_le (there place member) (by omega)
    rw [List.map_cons, List.cons_append, addStack, addStack_append _ _ inside children,
      addStack_append _ _ outside entries, extend_cons there]
termination_by DeclarationEntry.sizeAll entries
decreasing_by
  all_goals
    simp only [DeclarationEntry.sizeAll, DeclarationEntry.size]
    omega

end Module

/-! ### Reading a forest off -/

namespace DeclarationEntry

mutual

/-- Changes every reference in an entry. -/
def mapReferences (change : Reference → Reference) : DeclarationEntry → DeclarationEntry
  | .node body children =>
    .node { body with kind := body.kind.mapReferences change } (mapReferencesAll change children)

/-- Changes every reference in entries. -/
def mapReferencesAll (change : Reference → Reference) :
    List DeclarationEntry → List DeclarationEntry
  | [] => []
  | first :: rest => first.mapReferences change :: mapReferencesAll change rest

end

variable (change other : Reference → Reference)

mutual

theorem mapReferences_mapReferences : (entry : DeclarationEntry) →
    (entry.mapReferences other).mapReferences change =
      entry.mapReferences fun reference => change (other reference)
  | .node body children => by
    rw [mapReferences, mapReferences, mapReferences, DeclarationKind.mapReferences_mapReferences,
      mapReferencesAll_mapReferencesAll children]

theorem mapReferencesAll_mapReferencesAll : (entries : List DeclarationEntry) →
    mapReferencesAll change (mapReferencesAll other entries) =
      mapReferencesAll (fun reference => change (other reference)) entries
  | [] => rfl
  | first :: rest => by
    rw [mapReferencesAll, mapReferencesAll, mapReferencesAll, mapReferences_mapReferences first,
      mapReferencesAll_mapReferencesAll rest]

end

mutual

theorem size_mapReferences : (entry : DeclarationEntry) →
    (entry.mapReferences change).size = entry.size
  | .node _ children => by rw [mapReferences, size, size, sizeAll_mapReferencesAll children]

theorem sizeAll_mapReferencesAll : (entries : List DeclarationEntry) →
    sizeAll (mapReferencesAll change entries) = sizeAll entries
  | [] => rfl
  | first :: rest => by
    rw [mapReferencesAll, sizeAll, sizeAll, size_mapReferences first,
      sizeAll_mapReferencesAll rest]

end

theorem places_mapReferencesAll (place : Nat) (entries : List DeclarationEntry) :
    places place (mapReferencesAll change entries) = places place entries := by
  induction entries generalizing place with
  | nil => rfl
  | cons first rest hypothesis =>
    rw [mapReferencesAll, places, places, size_mapReferences, hypothesis]

mutual

theorem layout_mapReferences (parent : Option Nat) (place : Nat) : (entry : DeclarationEntry) →
    (entry.mapReferences change).layout parent place =
      (entry.layout parent place).map fun declaration =>
        { declaration with kind := declaration.kind.mapReferences change }
  | .node body children => by
    rw [mapReferences, layout, layout, List.map_cons, places_mapReferencesAll,
      layoutAll_mapReferencesAll (some place) (place + 1) children]

theorem layoutAll_mapReferencesAll (parent : Option Nat) (place : Nat) :
    (entries : List DeclarationEntry) →
      layoutAll parent place (mapReferencesAll change entries) =
        (layoutAll parent place entries).map fun declaration =>
          { declaration with kind := declaration.kind.mapReferences change }
  | [] => rfl
  | first :: rest => by
    rw [mapReferencesAll, layoutAll, layoutAll, List.map_append, size_mapReferences,
      layout_mapReferences parent place first,
      layoutAll_mapReferencesAll parent (place + first.size) rest]

end

end DeclarationEntry

namespace Module

/-- Changing references leaves the declarations where they are. -/
theorem PreOrder.mapReferences {module : Module} (ordered : module.PreOrder)
    (change : Reference → Reference) : (module.mapReferences change).PreOrder := by
  obtain ⟨forest, roots, declarations⟩ := ordered
  refine ⟨DeclarationEntry.mapReferencesAll change forest, ?_, ?_⟩
  · rw [DeclarationEntry.places_mapReferencesAll]
    exact roots
  · rw [DeclarationEntry.layoutAll_mapReferencesAll, ← declarations]
    rfl

theorem entryAt_eq {module : Module} {place : Nat} {declaration : Declaration}
    (here : module.declarations[place]? = some declaration)
    (later : ∀ child ∈ declaration.children, place < child) :
    module.entryAt place = some (.node declaration.toDeclarationBody
      (declaration.children.filterMap module.entryAt)) := by
  obtain ⟨inside, rfl⟩ := List.getElem?_eq_some_iff.1 here
  rw [entryAt, dif_pos inside]
  dsimp only
  rw [List.filterMap_congr fun child member => if_pos (later child member)]

/-- Whether a forest is laid out in a module from a place on. -/
def LaidOut (module : Module) (parent : Option Nat) (place : Nat)
    (entries : List DeclarationEntry) : Prop :=
  DeclarationEntry.layoutAll parent place entries <+: module.declarations.drop place

theorem laidOut_of_eq {module : Module} {forest : List DeclarationEntry}
    (declarations : module.declarations = DeclarationEntry.layoutAll none 0 forest) :
    module.LaidOut none 0 forest := by
  rw [LaidOut, List.drop_zero]
  exact declarations ▸ List.prefix_rfl

/-- Where a forest is laid out stand its first declaration, what is declared in that, and the
other trees. -/
theorem LaidOut.cons {module : Module} {parent : Option Nat} {place : Nat} {body : DeclarationBody}
    {children rest : List DeclarationEntry}
    (laidOut : module.LaidOut parent place (.node body children :: rest)) :
    module.declaration? place = some { body with
      parent := parent, children := DeclarationEntry.places (place + 1) children } ∧
      module.LaidOut (some place) (place + 1) children ∧
      module.LaidOut parent (place + (DeclarationEntry.node body children).size) rest := by
  obtain ⟨others, all⟩ := laidOut
  rw [DeclarationEntry.layoutAll, DeclarationEntry.layout, List.cons_append, List.cons_append,
    List.append_assoc] at all
  have here := congrArg List.head? all
  rw [List.head?_cons, List.head?_drop] at here
  have inner := congrArg List.tail all
  rw [List.tail_cons, List.tail_drop] at inner
  have after := congrArg (List.drop (DeclarationEntry.sizeAll children)) inner
  rw [List.drop_drop, ← DeclarationEntry.length_layoutAll (some place) (place + 1) children,
    List.drop_left, DeclarationEntry.length_layoutAll] at after
  have size : place + 1 + DeclarationEntry.sizeAll children =
      place + (DeclarationEntry.node body children).size := by
    rw [DeclarationEntry.size]
    omega
  rw [size] at after
  exact ⟨here.symm, ⟨_, inner⟩, ⟨_, after⟩⟩

/-- The entries at the places of a laid out forest are those of the forest. -/
theorem filterMap_entryAt {module : Module} (parent : Option Nat) (place : Nat)
    (entries : List DeclarationEntry) (laidOut : module.LaidOut parent place entries) :
    (DeclarationEntry.places place entries).filterMap module.entryAt = entries := by
  induction entries using DeclarationEntry.forestInduction generalizing parent place with
  | nil => rfl
  | node body children rest inner after =>
    obtain ⟨here, laidOutInner, laidOutAfter⟩ := laidOut.cons
    have below : ∀ child ∈ DeclarationEntry.places (place + 1) children, place < child :=
      fun child member => DeclarationEntry.le_of_mem_places member
    rw [DeclarationEntry.places, List.filterMap_cons, entryAt_eq here below,
      inner _ _ laidOutInner, after _ _ laidOutAfter]

end Module

namespace Module

/-- The module without what looking its references up added to it. -/
def reset (module : Module) : Module :=
  { module.mapReferences Reference.forget with state := .skeleton }

/-- A forest that is added to a module without declarations stands in pre-order. -/
theorem preOrder_extend {module : Module} (roots : module.roots = [])
    (declarations : module.declarations = []) (forest : List DeclarationEntry) :
    (module.extend none forest).roots = DeclarationEntry.places 0 forest ∧
      (module.extend none forest).declarations = DeclarationEntry.layoutAll none 0 forest := by
  rw [roots_extend_none, declarations_extend_none, roots, declarations]
  exact ⟨rfl, rfl⟩

/-- Whether a module is as it was when it was read: its declarations stand in pre-order, and none
of its references was looked up. -/
structure Fresh (module : Module) : Prop where
  state : module.state = .skeleton
  ordered : module.PreOrder
  pending : ∀ entry ∈ module.references, entry.2.isPending

theorem Fresh.reset_eq {module : Module} (fresh : module.Fresh) : module.reset = module := by
  have kept : ∀ entry ∈ module.references, entry.2.forget = entry.2 := fun entry member =>
    Reference.forget_of_isPending (fresh.pending entry member)
  rw [reset, mapReferences_of_fixed kept, ← fresh.state]

end Module

namespace ModuleEntry

/-- The module of an entry before its declarations are added. -/
def opened (entry : ModuleEntry) : Module :=
  { Module.skeleton entry.name entry.path with
    docstring := entry.docstring
    isPackage := entry.isPackage
    imports := entry.imports }

/-- An entry of the right tag and version is made into a module by laying out its forest. -/
theorem toModule_eq_ok_iff {entry : ModuleEntry} {module : Module} :
    entry.toModule = .ok module ↔ entry.tag = moduleTag ∧ entry.version = currentVersion ∧
      entry.opened.extend none entry.definitions = module := by
  have added := entry.opened.addStack_append none (fun _ member => nomatch member)
    entry.definitions []
  rw [List.append_nil, Module.addStack] at added
  rw [toModule, ← added]
  split
  next wrong =>
    refine ⟨fun made => ?_, fun facts => absurd facts.1 wrong⟩
    cases made
  next right =>
    split
    next wrong =>
      refine ⟨fun made => ?_, fun facts => absurd facts.2.1 wrong⟩
      cases made
    next rightVersion =>
      exact ⟨fun made => ⟨not_not.1 right, not_not.1 rightVersion, Except.ok.inj made⟩,
        fun facts => congrArg Except.ok facts.2.2⟩

theorem imports_of_toModule {entry : ModuleEntry} {module : Module}
    (made : entry.toModule = .ok module) : module.imports = entry.imports := by
  obtain ⟨-, -, rfl⟩ := toModule_eq_ok_iff.1 made
  rfl

/-- Changes every reference in a module as it stands in a snapshot. -/
def mapReferences (change : Reference → Reference) (entry : ModuleEntry) : ModuleEntry :=
  { entry with
    imports := entry.imports.map fun symbol => { symbol with target := change symbol.target }
    definitions := DeclarationEntry.mapReferencesAll change entry.definitions }

/-- The references of an entry become those of the module that is made from it. -/
theorem toModule_mapReferences (change : Reference → Reference) {entry : ModuleEntry}
    {module : Module} (made : entry.toModule = .ok module) :
    (entry.mapReferences change).toModule = .ok (module.mapReferences change) := by
  obtain ⟨tag, version, rfl⟩ := toModule_eq_ok_iff.1 made
  exact toModule_eq_ok_iff.2 ⟨tag, version, Module.ext_of_declarations rfl rfl rfl rfl rfl
    (DeclarationEntry.places_mapReferencesAll _ _ _)
    (DeclarationEntry.layoutAll_mapReferencesAll _ _ _ _) rfl⟩

theorem definitions_ofModule {module : Module} {forest : List DeclarationEntry}
    (roots : module.roots = DeclarationEntry.places 0 forest)
    (declarations : module.declarations = DeclarationEntry.layoutAll none 0 forest) :
    (ofModule module).definitions = forest := by
  rw [ofModule, roots]
  exact Module.filterMap_entryAt none 0 forest (Module.laidOut_of_eq declarations)

/-- A module whose declarations stand in pre-order comes back from its entry, as a skeleton. -/
theorem toModule_ofModule {module : Module} (ordered : module.PreOrder) :
    (ofModule module).toModule = .ok { module with state := .skeleton } := by
  obtain ⟨forest, roots, declarations⟩ := ordered
  refine toModule_eq_ok_iff.2 ⟨rfl, rfl, ?_⟩
  rw [definitions_ofModule roots declarations]
  exact Module.ext_of_declarations rfl rfl rfl rfl rfl roots.symm declarations.symm rfl

/-- Where the resolutions are lost in between, it comes back as it was before it was linked. -/
theorem toModule_forget_ofModule {module : Module} (ordered : module.PreOrder) :
    ((ofModule module).mapReferences Reference.forget).toModule = .ok module.reset :=
  toModule_mapReferences Reference.forget (toModule_ofModule ordered)

end ModuleEntry

end Declarations
