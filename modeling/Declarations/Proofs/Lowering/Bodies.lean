/-
This file proves which declarations the items of a file become. The items of a file, and those of
each class in it, become declarations one by one in the order they are written; only an
assignment to a name that was assigned before in the same body declares nothing. The fullname of
a declaration is its name below the fullname of what it is declared in.
-/

import Declarations.Proofs.Graph.Arena
import Declarations.Proofs.Lowering.Fresh

namespace Declarations

/-! ### The items that declare something -/

namespace Item

/-- Whether an item assigns to a name. -/
def assigns (name : String) : Item → Bool
  | .assignment outline => outline.target == name
  | _ => false

/-- Whether an item assigns to a name that earlier items assign to. -/
def repeats (earlier : List Item) : Item → Bool
  | .assignment outline => earlier.any (assigns outline.target)
  | _ => false

/-- The items that declare something, where they follow on earlier ones in the same body. -/
def declaring (earlier items : List Item) : List Item :=
  (items.zipIdx.filter fun place => !place.1.repeats (earlier ++ items.take place.2)).map (·.1)

/-- The items in an item. -/
def inner : Item → List Item
  | .classDef _ body => body
  | _ => []

theorem declaring_cons (earlier : List Item) (item : Item) (rest : List Item) :
    declaring earlier (item :: rest) =
      if item.repeats earlier then declaring (earlier ++ [item]) rest
      else item :: declaring (earlier ++ [item]) rest := by
  have others : (((rest.zipIdx 1).filter fun place =>
      !place.1.repeats (earlier ++ (item :: rest).take place.2)).map (·.1)) =
        declaring (earlier ++ [item]) rest := by
    rw [List.zipIdx_succ, List.filter_map, List.map_map, declaring]
    simp only [Function.comp_def, List.take_succ_cons, List.append_assoc, List.cons_append,
      List.nil_append]
  rw [declaring, List.zipIdx_cons, List.filter_cons, Nat.zero_add, ← others]
  simp only [List.take_zero, List.append_nil]
  cases item.repeats earlier <;> rfl

end Item

/-! ### The entries of items -/

/-- Whether entries are what items become in a scope. -/
inductive Item.Becomes : String → List Item → List DeclarationEntry → Prop where
  | nil {scope : String} : Becomes scope [] []
  | cons {scope : String} {item : Item} {items : List Item} {body : DeclarationBody}
      {children rest : List DeclarationEntry} :
      body.name = item.name → body.fullname = Dotted.below scope body.name →
        Becomes body.fullname (declaring [] item.inner) children → Becomes scope items rest →
          Becomes scope (item :: items) (.node body children :: rest)

namespace Module

open Item (Becomes declaring declaring_cons assigns repeats)

theorem contains_of_repeats {assigned : List String} {earlier : List Item}
    (known : ∀ name, assigned.contains name = earlier.any (assigns name))
    (outline : AssignmentOutline) :
    (Item.assignment outline).repeats earlier = assigned.contains outline.target :=
  (known outline.target).symm

mutual

/-- An item becomes one entry. -/
theorem addItem_extends : (item : Item) → (context : LoweringContext) → (scope : String) →
    (module : Module) → (parent : Option Nat) → module.HasParent parent →
      ∃ body children, body.name = item.name ∧ body.fullname = Dotted.below scope body.name ∧
        Becomes body.fullname (declaring [] item.inner) children ∧
        addItem context parent scope item module =
          (module.add parent body).extend (some module.declarations.length) children
  | .classDef header inner, context, scope, module, parent, there => by
    obtain ⟨children, becomes, same⟩ := addItems_extends inner
      (context.enter (Scope.ofItems (context.classHeading scope header).fullname inner))
      (context.classHeading scope header).fullname [] [] _ _ (fun _ => rfl)
      (hasParent_add there (context.classHeading scope header))
    refine ⟨context.classHeading scope header, children, rfl, rfl, becomes, ?_⟩
    rw [addItem, same]
  | .function outline, context, scope, module, parent, _ => by
    refine ⟨context.function scope outline, [], rfl, rfl, .nil, ?_⟩
    rw [addItem, extend_nil]
  | .assignment outline, context, scope, module, parent, _ => by
    refine ⟨context.assignment parent.isNone scope outline, [], rfl, rfl, .nil, ?_⟩
    rw [addItem, extend_nil]
  | .typeAlias name value line, context, scope, module, parent, _ => by
    refine ⟨context.typeAlias scope name value line, [], rfl, rfl, .nil, ?_⟩
    rw [addItem, extend_nil]

/-- The items of a body that declare something become a forest. -/
theorem addItems_extends : (items : List Item) → (context : LoweringContext) → (scope : String) →
    (assigned : List String) → (earlier : List Item) → (module : Module) → (parent : Option Nat) →
      (∀ name, assigned.contains name = earlier.any (assigns name)) → module.HasParent parent →
        ∃ entries, Becomes scope (declaring earlier items) entries ∧
          addItems context parent scope assigned items module = module.extend parent entries
  | [], context, scope, assigned, earlier, module, parent, known, there => by
    refine ⟨[], .nil, ?_⟩
    rw [addItems, extend_nil]
  | item :: rest, context, scope, assigned, earlier, module, parent, known, there => by
    obtain ⟨body, children, named, below, inner, added⟩ :=
      addItem_extends item context scope module parent there
    have stillThere : (addItem context parent scope item module).HasParent parent := by
      intro place member
      rw [added, length_extend]
      exact Nat.lt_of_lt_of_le (hasParent_of_add there body place member) (Nat.le_add_right _ _)
    -- What follows an item that is not left out.
    have kept (assigned : List String)
        (known : ∀ name, assigned.contains name = (earlier ++ [item]).any (assigns name)) :
        ∃ entries, Becomes scope (item :: declaring (earlier ++ [item]) rest) entries ∧
          addItems context parent scope assigned rest
            (addItem context parent scope item module) = module.extend parent entries := by
      obtain ⟨entries, becomes, same⟩ := addItems_extends rest context scope assigned
        (earlier ++ [item]) _ parent known stillThere
      refine ⟨.node body children :: entries, .cons named below inner becomes, ?_⟩
      rw [same, added, extend_cons there]
    have grown (name : String) :
        (earlier ++ [item]).any (assigns name) = (assigned.contains name || item.assigns name) := by
      rw [List.any_append, known, List.any_cons, List.any_nil, Bool.or_false]
    rw [declaring_cons]
    cases item with
    | assignment outline =>
      rw [contains_of_repeats known, addItems]
      split
      next again =>
        refine addItems_extends rest context scope assigned _ module parent (fun name => ?_) there
        rw [grown, assigns]
        by_cases same : outline.target = name
        · rw [← same, again]
          rfl
        · rw [beq_eq_false_iff_ne.2 same, Bool.or_false]
      next =>
        refine kept _ fun name => ?_
        rw [grown, assigns, List.contains_cons, Bool.or_comm, Bool.beq_comm]
    | classDef _ _ | function _ | typeAlias _ _ _ =>
      unfold addItems
      refine kept assigned fun name => ?_
      rw [grown]
      exact (Bool.or_false _).symm

end

/-! ### The declarations of items -/

/-- Whether the declarations at some places are those of items, and so are, in each of them, those
of the items in it that declare something. -/
inductive Declares (module : Module) : List Nat → List Item → Prop where
  | nil : Declares module [] []
  | cons {place : Nat} {declaration : Declaration} {places : List Nat} {item : Item}
      {items : List Item} :
      module.declaration? place = some declaration → declaration.name = item.name →
        Declares module declaration.children (declaring [] item.inner) →
          Declares module places items → Declares module (place :: places) (item :: items)

section

variable {module : Module} {scope : String} {items : List Item} {entries : List DeclarationEntry}
  {parent : Option Nat} {place : Nat}

theorem LaidOut.declares (laidOut : module.LaidOut parent place entries)
    (becomes : Becomes scope items entries) :
    module.Declares (DeclarationEntry.places place entries) items := by
  induction becomes generalizing parent place with
  | nil => exact .nil
  | cons named _ _ _ inner after =>
    obtain ⟨here, laidOutInner, laidOutAfter⟩ := laidOut.cons
    exact .cons here named (inner laidOutInner) (after laidOutAfter)

theorem LaidOut.scoped (laidOut : module.LaidOut parent place entries)
    (becomes : Becomes scope items entries) {other : Nat} (least : place ≤ other)
    (inside : other < place + DeclarationEntry.sizeAll entries) :
    ∃ declaration, module.declaration? other = some declaration ∧
      ((declaration.parent = parent ∧
          declaration.fullname = Dotted.below scope declaration.name) ∨
        ∃ above holder, declaration.parent = some above ∧
          module.declaration? above = some holder ∧
          declaration.fullname = Dotted.below holder.fullname declaration.name) := by
  induction becomes generalizing parent place with
  | nil => exact absurd inside (Nat.not_lt_of_le least)
  | cons _ below _ _ inner after =>
    obtain ⟨here, laidOutInner, laidOutAfter⟩ := laidOut.cons
    rcases DeclarationEntry.place_cases least inside with rfl | ⟨behind, within⟩ | ⟨later, within⟩
    · exact ⟨_, here, .inl ⟨rfl, below⟩⟩
    · obtain ⟨declaration, found, itsChild | deeper⟩ := inner laidOutInner behind within
      · exact ⟨declaration, found, .inr ⟨place, _, itsChild.1, here, itsChild.2⟩⟩
      · exact ⟨declaration, found, .inr deeper⟩
    · exact after laidOutAfter later within

end

/-- The fullname of what a declaration is declared in. -/
def scope? (module : Module) (declaration : Declaration) : Option String :=
  match declaration.parent with
  | some parent => (module.declaration? parent).map (·.fullname)
  | none => some module.name

/-- Lowering a file and reading an entry both number declarations as a tree is gone through. The
declarations of a file are those of its items, each below what it is declared in. -/
theorem arena_of_ofOutline_or_toModule :
    (∀ (options : LoweringOptions) (name : String) (path : Path) (outline : Outline),
      let module := ofOutline options name path outline
      module.Arena ∧
        (∀ index declaration, module.declaration? index = some declaration →
          ∃ scope, module.scope? declaration = some scope ∧
            declaration.fullname = Dotted.below scope declaration.name) ∧
        module.Declares module.roots (declaring [] outline.items)) ∧
      ∀ (entry : ModuleEntry) (module : Module), entry.toModule = .ok module → module.Arena := by
  constructor
  · intro options name path outline module
    have named : module.name = name := name_ofOutline options name path outline
    obtain ⟨start, forest, same, startRoots, startDeclarations, becomes⟩ :
        ∃ (start : Module) (forest : List DeclarationEntry), module = start.extend none forest ∧
          start.roots = [] ∧ start.declarations = [] ∧
          Becomes name (declaring [] outline.items) forest := by
      obtain ⟨forest, becomes, same⟩ := addItems_extends outline.items _ name [] [] _ none
        (fun _ => rfl) (fun _ member => nomatch member)
      exact ⟨_, forest, same, rfl, rfl, becomes⟩
    obtain ⟨roots, declarations⟩ := preOrder_extend startRoots startDeclarations forest
    rw [← same] at roots declarations
    have laidOut := laidOut_of_eq declarations
    refine ⟨PreOrder.arena ⟨forest, roots, declarations⟩, fun index declaration found => ?_, ?_⟩
    · have inside := (List.getElem?_eq_some_iff.1 found).1
      rw [declarations, DeclarationEntry.length_layoutAll] at inside
      obtain ⟨again, foundAgain, cases⟩ :=
        laidOut.scoped becomes (Nat.zero_le index) (by rwa [Nat.zero_add])
      obtain rfl := Option.some.inj (found.symm.trans foundAgain)
      rcases cases with ⟨atTop, below⟩ | ⟨above, holder, inHolder, holderFound, below⟩
      · exact ⟨name, by rw [scope?, atTop, named], below⟩
      · refine ⟨holder.fullname, ?_, below⟩
        rw [scope?, inHolder]
        exact congrArg (Option.map _) holderFound
    · rw [roots]
      exact laidOut.declares becomes
  · intro entry module made
    obtain ⟨-, -, rfl⟩ := ModuleEntry.toModule_eq_ok_iff.1 made
    exact PreOrder.arena ⟨entry.definitions, preOrder_extend rfl rfl entry.definitions⟩

/-- A class that assigns to a name twice and has a method of this name, and the entry of a module
with a class in a class. -/
theorem arena_of_ofOutline_or_toModule_shelf :
    let width : Item := .assignment ⟨"width", none, some "3", none, 2⟩
    let method : Item := .function ⟨"width", none, [], none, [], false, 4, 4⟩
    let shelf : Item := .classDef ⟨"Shelf", none, [], [], [], 1, 4⟩ [width, width, method]
    let outline : Outline := ⟨none, [], [shelf, width]⟩
    let module := ofOutline ⟨true, true, true⟩ "room" ⟨"room.py"⟩ outline
    let classBody (name fullname : String) : DeclarationBody :=
      ⟨name, fullname, .classDef ⟨[], none, []⟩, none, none⟩
    let entry : ModuleEntry := ⟨"Module", 1, "room", ⟨"room.py"⟩, none, false, [],
      [.node (classBody "Shelf" "room.Shelf") [.node (classBody "Board" "room.Shelf.Board") []]]⟩
    module.Arena ∧ module.Declares module.roots [shelf, width] ∧
      (declaring [] shelf.inner).map Item.name = ["width", "width"] ∧
      entry.toModule = .ok (entry.opened.extend none entry.definitions) ∧
      (entry.opened.extend none entry.definitions).Arena := by
  intro width method shelf outline module classBody entry
  obtain ⟨arena, -, declares⟩ :=
    arena_of_ofOutline_or_toModule.1 ⟨true, true, true⟩ "room" ⟨"room.py"⟩ outline
  have made : entry.toModule = .ok (entry.opened.extend none entry.definitions) :=
    ModuleEntry.toModule_eq_ok_iff.2 ⟨rfl, rfl, rfl⟩
  exact ⟨arena, declares, rfl, made, arena_of_ofOutline_or_toModule.2 entry _ made⟩

end Module

end Declarations
