/-
This file proves that a module that was just lowered is fresh: its declarations stand in
pre-order, and none of its references was looked up. An item is added with all that is
declared in it before the next one, so a body adds the layout of a forest.
-/

import Declarations.Proofs.Lowering.Pending
import Declarations.Proofs.Snapshot.Layout

namespace Declarations

namespace DeclarationEntry

mutual

/-- The references in an entry. -/
def references : DeclarationEntry → List Reference
  | .node body children => body.kind.references ++ referencesAll children

/-- The references in entries. -/
def referencesAll : List DeclarationEntry → List Reference
  | [] => []
  | first :: rest => first.references ++ referencesAll rest

end

mutual

theorem references_layout (parent : Option Nat) (place : Nat) : (entry : DeclarationEntry) →
    (entry.layout parent place).flatMap (fun declaration => declaration.kind.references) =
      entry.references
  | .node _ children => by
    rw [layout, List.flatMap_cons, references,
      references_layoutAll (some place) (place + 1) children]

theorem references_layoutAll (parent : Option Nat) (place : Nat) :
    (entries : List DeclarationEntry) →
      (layoutAll parent place entries).flatMap (fun declaration => declaration.kind.references) =
        referencesAll entries
  | [] => rfl
  | first :: rest => by
    rw [layoutAll, List.flatMap_append, referencesAll, references_layout parent place first,
      references_layoutAll parent (place + first.size) rest]

end

end DeclarationEntry

namespace Module

/-- Whether a module comes from another by adding a forest below a parent, none of whose
references was looked up. -/
def Grown (parent : Option Nat) (before after : Module) : Prop :=
  ∃ entries, after = before.extend parent entries ∧
    AllPending (DeclarationEntry.referencesAll entries)

variable {module : Module} {parent : Option Nat}

theorem Grown.refl : Grown parent module module :=
  ⟨[], (extend_nil module parent).symm, allPending_nil⟩

/-- A declaration is added, then what is declared in it, then what follows next to it. -/
theorem Grown.cons (there : module.HasParent parent) {body : DeclarationBody}
    (pending : body.kind.Pending) {inner after : Module}
    (below : Grown (some module.declarations.length) (module.add parent body) inner)
    (beside : Grown parent inner after) : Grown parent module after := by
  obtain ⟨children, rfl, childrenPending⟩ := below
  obtain ⟨rest, rfl, restPending⟩ := beside
  refine ⟨.node body children :: rest, extend_cons there body children rest, ?_⟩
  exact (pending.append childrenPending).append restPending

theorem Grown.name_eq {after : Module} (grown : Grown parent module after) :
    after.name = module.name := by
  obtain ⟨entries, rfl, -⟩ := grown
  cases parent <;> rfl

theorem Grown.hasParent {above : Option Nat} {after : Module} (grown : Grown above module after)
    (there : module.HasParent parent) : after.HasParent parent := by
  obtain ⟨entries, rfl, -⟩ := grown
  intro place member
  rw [length_extend]
  exact Nat.lt_of_lt_of_le (there place member) (Nat.le_add_right _ _)

theorem hasParent_add (there : module.HasParent parent) (body : DeclarationBody) :
    (module.add parent body).HasParent (some module.declarations.length) := by
  rintro place ⟨⟩
  rw [length_add there]
  exact Nat.lt_succ_self _

theorem hasParent_of_add (there : module.HasParent parent) (body : DeclarationBody) :
    (module.add parent body).HasParent parent := by
  intro place member
  rw [length_add there]
  exact Nat.lt_succ_of_lt (there place member)

mutual

/-- An item adds one declaration with what is declared in it. -/
theorem grown_addItem : (item : Item) → (context : LoweringContext) → (scope : String) →
    (module : Module) → (parent : Option Nat) → module.HasParent parent →
      ∃ body, body.kind.Pending ∧ Grown (some module.declarations.length) (module.add parent body)
        (addItem context parent scope item module)
  | .classDef header inner, context, scope, module, parent, there => by
    refine ⟨context.classHeading scope header, context.pending_classHeading scope header, ?_⟩
    rw [addItem]
    exact grown_addItems inner _ _ _ _ _ (hasParent_add there _)
  | .function outline, context, scope, module, parent, there => by
    refine ⟨context.function scope outline, context.pending_function scope outline, ?_⟩
    rw [addItem]
    exact .refl
  | .assignment outline, context, scope, module, parent, there => by
    refine ⟨context.assignment parent.isNone scope outline,
      context.pending_assignment _ scope outline, ?_⟩
    rw [addItem]
    exact .refl
  | .typeAlias name value line, context, scope, module, parent, there => by
    refine ⟨context.typeAlias scope name value line,
      context.pending_typeAlias scope name value line, ?_⟩
    rw [addItem]
    exact .refl

/-- A body adds a forest. -/
theorem grown_addItems : (items : List Item) → (context : LoweringContext) → (scope : String) →
    (assigned : List String) → (module : Module) → (parent : Option Nat) →
      module.HasParent parent →
        Grown parent module (addItems context parent scope assigned items module)
  | [], context, scope, assigned, module, parent, there => by
    rw [addItems]
    exact .refl
  | item :: rest, context, scope, assigned, module, parent, there => by
    obtain ⟨body, pending, below⟩ := grown_addItem item context scope module parent there
    have stillThere := below.hasParent (hasParent_of_add there body)
    have added (assigned : List String) := Grown.cons there pending below
      (grown_addItems rest context scope assigned _ parent stillThere)
    unfold addItems
    split
    · split
      · exact grown_addItems rest context scope assigned module parent there
      · exact added _
    · exact added _

end

/-- Adding a forest to a module without declarations gives a fresh one. -/
theorem Grown.fresh {before after : Module} (grown : Grown none before after)
    (state : before.state = .skeleton) (roots : before.roots = [])
    (declarations : before.declarations = [])
    (imports : ImportBindings.Pending before.imports) : after.Fresh := by
  obtain ⟨entries, rfl, pending⟩ := grown
  have laidOut := preOrder_extend roots declarations entries
  refine ⟨state, ⟨entries, laidOut⟩, fun entry member => ?_⟩
  rcases List.mem_append.1 member with inImports | inDeclarations
  · obtain ⟨symbol, imported, rfl⟩ := List.mem_map.1 inImports
    exact imports symbol imported
  · obtain ⟨declaration, added, inside⟩ := List.mem_flatMap.1 inDeclarations
    obtain ⟨reference, isIts, rfl⟩ := List.mem_map.1 inside
    refine pending reference ?_
    rw [← DeclarationEntry.references_layoutAll none 0, ← laidOut.2]
    exact List.mem_flatMap.2 ⟨declaration, added, isIts⟩

/-- A module that was just lowered is fresh. -/
theorem fresh_ofOutline (options : LoweringOptions) (name : String) (path : Path)
    (outline : Outline) : (ofOutline options name path outline).Fresh := by
  unfold ofOutline
  refine (grown_addItems _ _ _ _ _ none (fun _ member => nomatch member)).fresh rfl rfl rfl ?_
  exact ImportBindings.pending_ofImports _ _ _

theorem Grown.imports_eq {after : Module} (grown : Grown parent module after) :
    after.imports = module.imports := by
  obtain ⟨entries, rfl, -⟩ := grown
  cases parent <;> rfl

/-- The imports of a module are those that its file binds. -/
theorem imports_ofOutline (options : LoweringOptions) (name : String) (path : Path)
    (outline : Outline) : (ofOutline options name path outline).imports =
      (ImportBindings.ofImports name (path.stem? == some "__init__") outline.imports).table := by
  unfold ofOutline
  exact (grown_addItems _ _ _ _ _ none (fun _ member => nomatch member)).imports_eq

theorem name_ofOutline (options : LoweringOptions) (name : String) (path : Path)
    (outline : Outline) : (ofOutline options name path outline).name = name := by
  unfold ofOutline
  exact (grown_addItems _ _ _ _ _ none (fun _ member => nomatch member)).name_eq

theorem Grown.path_eq {after : Module} (grown : Grown parent module after) :
    after.path = module.path := by
  obtain ⟨entries, rfl, -⟩ := grown
  cases parent <;> rfl

theorem path_ofOutline (options : LoweringOptions) (name : String) (path : Path)
    (outline : Outline) : (ofOutline options name path outline).path = path := by
  unfold ofOutline
  exact (grown_addItems _ _ _ _ _ none (fun _ member => nomatch member)).path_eq

theorem Grown.docstring_eq {after : Module} (grown : Grown parent module after) :
    after.docstring = module.docstring := by
  obtain ⟨entries, rfl, -⟩ := grown
  cases parent <;> rfl

/-- The docstring of a module is that of its file, where docstrings are kept. -/
theorem docstring_ofOutline (options : LoweringOptions) (name : String) (path : Path)
    (outline : Outline) : (ofOutline options name path outline).docstring =
      if options.includeDocstrings then outline.docstring else none := by
  unfold ofOutline
  exact (grown_addItems _ _ _ _ _ none (fun _ member => nomatch member)).docstring_eq

end Module

end Declarations
