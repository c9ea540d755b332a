/-
This file says where the items of a file stand that become declarations, and proves that the
declarations of a module are made one by one from the items at these sites, in their order.
What one of them looks like depends on its item and on the scopes around it, not on what was
declared before.
-/

import Declarations.Lowering.Module

namespace Declarations

/-! ### Single declarations -/

namespace LoweringContext

/-- The declaration of an item by itself. -/
def declaration (context : LoweringContext) (isTop : Bool) (scope : String) :
    Item → DeclarationBody
  | .classDef header _ => context.classHeading scope header
  | .function outline => context.function scope outline
  | .assignment outline => context.assignment isTop scope outline
  | .typeAlias name value line => context.typeAlias scope name value line

theorem fullname_declaration (context : LoweringContext) (isTop : Bool) (scope : String)
    (item : Item) :
    (context.declaration isTop scope item).fullname = Dotted.below scope item.name := by
  cases item <;> rfl

/-- Whether the hint of a variable says that it is a type alias. -/
def declaresAlias (context : LoweringContext) (hint : Option TypeHint) : Bool :=
  match hint with
  | some (.name name) => context.bind name == .special "TypeAlias"
  | _ => false

theorem kind_assignment (context : LoweringContext) (isTop : Bool) (scope : String)
    (outline : AssignmentOutline) :
    (context.assignment isTop scope outline).kind =
      if context.declaresAlias outline.hint then
        .typeAlias
          (match outline.valueType with
            | some target => context.typeOf target
            | none => .unknown (outline.value.getD ""))
      else
        match outline.hint, outline.valueType with
        | some hint, _ =>
          .variable (context.variableOf (context.preserved outline.value) hint)
        | none, some target =>
          if isTop ∧ context.looksLikeAlias target then .typeAlias (context.typeOf target)
          else .variable ⟨none, false, false, context.preserved outline.value⟩
        | none, none => .variable ⟨none, false, false, context.preserved outline.value⟩ :=
  rfl

end LoweringContext

/-! ### Repeated assignments -/

namespace Item

/-- Whether an item assigns to one of some names. -/
def reassigns (assigned : List String) : Item → Bool
  | .assignment outline => assigned.contains outline.target
  | _ => false

/-- The names that were assigned after an item. -/
def assignedAfter (assigned : List String) : Item → List String
  | .assignment outline => outline.target :: assigned
  | _ => assigned

theorem name_mem_of_reassigns {assigned : List String} {item : Item}
    (again : item.reassigns assigned = true) : item.name ∈ assigned := by
  cases item with
  | assignment outline => exact List.contains_iff_mem.1 again
  | classDef _ _ | function _ | typeAlias _ _ _ => cases again

theorem mem_assignedAfter_cases {assigned : List String} {item : Item} {name : String}
    (member : name ∈ item.assignedAfter assigned) : name = item.name ∨ name ∈ assigned := by
  cases item with
  | assignment outline => exact List.mem_cons.1 member
  | classDef _ _ | function _ | typeAlias _ _ _ => exact .inr member

end Item

/-- An item is left out of a body where it assigns to a name again. -/
theorem Module.addItems_cons (context : LoweringContext) (parent : Option Nat) (scope : String)
    (assigned : List String) (item : Item) (rest : List Item) (module : Module) :
    addItems context parent scope assigned (item :: rest) module =
      if item.reassigns assigned then addItems context parent scope assigned rest module
      else
        addItems context parent scope (item.assignedAfter assigned) rest
          (addItem context parent scope item module) := by
  cases item with
  | assignment outline => rw [addItems]; rfl
  | classDef _ _ | function _ | typeAlias _ _ _ =>
    rw [addItems]
    · rfl
    · exact nofun

/-! ### Sites -/

/-- An item that becomes a declaration, and the scopes around it. -/
structure Site where
  item : Item
  /-- The scope of the body that holds the item. -/
  own : Scope
  /-- The scopes around that body, the innermost first. -/
  outer : List Scope

namespace Site

/-- The scopes around a site, the innermost first. -/
def scopes (site : Site) : List Scope :=
  site.own :: site.outer

/-- The name of a site below that of its scope. -/
def fullname (site : Site) : String :=
  Dotted.below site.own.path site.item.name

mutual

/-- The sites of an item and of all that is declared in it. -/
def ofItem (own : Scope) (outer : List Scope) : Item → List Site
  | .classDef header body =>
    ⟨.classDef header body, own, outer⟩ ::
      ofItems (Scope.ofItems (Dotted.below own.path header.name) body) (own :: outer) [] body
  | .function outline => [⟨.function outline, own, outer⟩]
  | .assignment outline => [⟨.assignment outline, own, outer⟩]
  | .typeAlias name value line => [⟨.typeAlias name value line, own, outer⟩]

/-- The sites of a body in order. An assignment to one of the names assigned before has none. -/
def ofItems (own : Scope) (outer : List Scope) (assigned : List String) : List Item → List Site
  | [] => []
  | item :: rest =>
    if item.reassigns assigned then ofItems own outer assigned rest
    else ofItem own outer item ++ ofItems own outer (item.assignedAfter assigned) rest

end

/-- The sites of a file that is read as the module of a name. -/
def ofOutline (name : String) (outline : Outline) : List Site :=
  ofItems (Scope.ofItems name outline.items) [] [] outline.items

section

variable {own : Scope} {outer : List Scope} {site : Site}

/-- The sites of an item begin with its own. -/
theorem mem_ofItem_self (own : Scope) (outer : List Scope) (item : Item) :
    ⟨item, own, outer⟩ ∈ ofItem own outer item := by
  cases item <;> exact List.mem_cons_self

/-- A site of a body belongs to one of its items. -/
theorem mem_ofItem_of_mem_ofItems {assigned : List String} {items : List Item}
    (member : site ∈ ofItems own outer assigned items) :
    ∃ item ∈ items, site ∈ ofItem own outer item := by
  induction items generalizing assigned with
  | nil => cases member
  | cons item rest hypothesis =>
    have later {known : List String} (member : site ∈ ofItems own outer known rest) :
        ∃ other ∈ item :: rest, site ∈ ofItem own outer other := by
      obtain ⟨other, among, inside⟩ := hypothesis member
      exact ⟨other, List.mem_cons_of_mem _ among, inside⟩
    unfold ofItems at member
    split at member
    · exact later member
    · rcases List.mem_append.1 member with here | there
      · exact ⟨item, List.mem_cons_self, here⟩
      · exact later there

/-- Every name of a body that was not assigned before has a site there. -/
theorem exists_mem_ofItems {assigned : List String} {items : List Item} {item : Item}
    (member : item ∈ items) (new : item.name ∉ assigned) :
    ∃ site ∈ ofItems own outer assigned items, site.own = own ∧ site.item.name = item.name := by
  induction items generalizing assigned with
  | nil => cases member
  | cons first rest hypothesis =>
    unfold ofItems
    split
    next again =>
      rcases List.mem_cons.1 member with rfl | later
      · exact absurd (Item.name_mem_of_reassigns again) new
      · exact hypothesis later new
    next =>
      by_cases named : first.name = item.name
      · exact ⟨_, List.mem_append_left _ (mem_ofItem_self own outer first), rfl, named⟩
      · have later : item ∈ rest := by
          rcases List.mem_cons.1 member with rfl | later
          · exact absurd rfl named
          · exact later
        have stillNew : item.name ∉ first.assignedAfter assigned := fun inside =>
          (Item.mem_assignedAfter_cases inside).elim (fun same => named same.symm) new
        obtain ⟨site, inside, itsOwn, itsName⟩ := hypothesis later stillNew
        exact ⟨site, List.mem_append_right _ inside, itsOwn, itsName⟩

end

/-- Whether a property of scopes passes on to those of the classes among some sites. -/
def Passes (property : Scope → Prop) (sites : List Site) : Prop :=
  ∀ site ∈ sites, ∀ header body, site.item = .classDef header body → property site.own →
    property (Scope.ofItems (Dotted.below site.own.path header.name) body)

section

variable {property : Scope → Prop}

mutual

/-- A property that passes on to classes holds of all scopes around a site, where it holds of those
around its item. -/
theorem forall_scopes_of_mem_ofItem : (item : Item) → (own : Scope) → (outer : List Scope) →
    (∀ scope ∈ own :: outer, property scope) → Passes property (ofItem own outer item) →
      ∀ site ∈ ofItem own outer item, ∀ scope ∈ site.scopes, property scope
  | .classDef header body, own, outer, around, passes, site, member => by
    rw [ofItem] at member passes
    rcases List.mem_cons.1 member with rfl | within
    · exact around
    · have inner : property (Scope.ofItems (Dotted.below own.path header.name) body) :=
        passes _ List.mem_cons_self header body rfl (around own List.mem_cons_self)
      exact forall_scopes_of_mem_ofItems body _ (own :: outer) []
        (List.forall_mem_cons.2 ⟨inner, around⟩)
        (fun other among => passes other (List.mem_cons_of_mem _ among)) site within
  | .function outline, own, outer, around, passes, site, member => by
    rw [ofItem, List.mem_singleton] at member
    exact member ▸ around
  | .assignment outline, own, outer, around, passes, site, member => by
    rw [ofItem, List.mem_singleton] at member
    exact member ▸ around
  | .typeAlias name value line, own, outer, around, passes, site, member => by
    rw [ofItem, List.mem_singleton] at member
    exact member ▸ around

theorem forall_scopes_of_mem_ofItems : (items : List Item) → (own : Scope) →
    (outer : List Scope) → (assigned : List String) →
      (∀ scope ∈ own :: outer, property scope) →
        Passes property (ofItems own outer assigned items) →
          ∀ site ∈ ofItems own outer assigned items, ∀ scope ∈ site.scopes, property scope
  | [], own, outer, assigned, around, passes, site, member => nomatch member
  | item :: rest, own, outer, assigned, around, passes, site, member => by
    unfold ofItems at member passes
    split at member
    next again =>
      rw [if_pos again] at passes
      exact forall_scopes_of_mem_ofItems rest own outer assigned around passes site member
    next new =>
      rw [if_neg new] at passes
      rcases List.mem_append.1 member with here | later
      · exact forall_scopes_of_mem_ofItem item own outer around
          (fun inner inside => passes inner (List.mem_append_left _ inside)) site here
      · exact forall_scopes_of_mem_ofItems rest own outer _ around
          (fun inner inside => passes inner (List.mem_append_right _ inside)) site later

end

/-- A property that passes on from the scope of a file holds of all scopes around its sites. -/
theorem forall_scopes_ofOutline {name : String} {outline : Outline}
    (property : Scope → Prop) (top : property (Scope.ofItems name outline.items))
    (passes : Passes property (ofOutline name outline)) {site : Site}
    (member : site ∈ ofOutline name outline) {scope : Scope} (around : scope ∈ site.scopes) :
    property scope :=
  forall_scopes_of_mem_ofItems outline.items _ [] [] (List.forall_mem_singleton.2 top) passes site
    member scope around

end

end Site

/-! ### The declarations of a module -/

namespace LoweringContext

/-- The context in which the item at a site is lowered. -/
def within (context : LoweringContext) (site : Site) : LoweringContext :=
  { context with scopes := site.scopes }

/-- The declaration at a site. -/
def declared (context : LoweringContext) (site : Site) : DeclarationBody :=
  (context.within site).declaration site.outer.isEmpty site.own.path site.item

theorem fullname_declared (context : LoweringContext) (site : Site) :
    (context.declared site).fullname = site.fullname :=
  fullname_declaration _ _ _ _

end LoweringContext

namespace Module

/-- The declarations of a module apart from their places. -/
def bodies (module : Module) : List DeclarationBody :=
  module.declarations.map (·.toDeclarationBody)

theorem bodies_add (module : Module) (parent : Option Nat) (body : DeclarationBody) :
    (module.add parent body).bodies = module.bodies ++ [body] :=
  List.map_append.trans (congrArg (· ++ [body]) (Declaration.map_adoptBelow (fun _ => rfl) _ _))

mutual

/-- An item adds the declarations at its sites. -/
theorem bodies_addItem : (item : Item) → (context : LoweringContext) → (own : Scope) →
    (outer : List Scope) → (parent : Option Nat) → (module : Module) →
      context.scopes = own :: outer → parent.isNone = outer.isEmpty →
        (addItem context parent own.path item module).bodies =
          module.bodies ++ (Site.ofItem own outer item).map context.declared
  | .classDef header inner, context, own, outer, parent, module, around, top => by
    have here : context.declared ⟨.classDef header inner, own, outer⟩ =
        context.classHeading own.path header := by
      rw [LoweringContext.declared, LoweringContext.within, Site.scopes, ← around]
      rfl
    have within := bodies_addItems inner
      (context.enter (Scope.ofItems (context.classHeading own.path header).fullname inner))
      (Scope.ofItems (context.classHeading own.path header).fullname inner) (own :: outer) []
      (some module.declarations.length) (module.add parent (context.classHeading own.path header))
      (congrArg _ around) rfl
    rw [addItem, Site.ofItem, List.map_cons, here]
    refine within.trans ?_
    rw [bodies_add, List.append_assoc]
    rfl
  | .function outline, context, own, outer, parent, module, around, top => by
    rw [addItem, bodies_add, Site.ofItem, List.map_singleton, LoweringContext.declared,
      LoweringContext.within, Site.scopes, ← around]
    rfl
  | .assignment outline, context, own, outer, parent, module, around, top => by
    rw [addItem, bodies_add, Site.ofItem, List.map_singleton, LoweringContext.declared,
      LoweringContext.within, Site.scopes, ← around, ← top]
    rfl
  | .typeAlias name value line, context, own, outer, parent, module, around, top => by
    rw [addItem, bodies_add, Site.ofItem, List.map_singleton, LoweringContext.declared,
      LoweringContext.within, Site.scopes, ← around]
    rfl

/-- A body adds the declarations at its sites. -/
theorem bodies_addItems : (items : List Item) → (context : LoweringContext) → (own : Scope) →
    (outer : List Scope) → (assigned : List String) → (parent : Option Nat) →
      (module : Module) → context.scopes = own :: outer → parent.isNone = outer.isEmpty →
        (addItems context parent own.path assigned items module).bodies =
          module.bodies ++ (Site.ofItems own outer assigned items).map context.declared
  | [], context, own, outer, assigned, parent, module, around, top => by
    rw [addItems, Site.ofItems, List.map_nil, List.append_nil]
  | item :: rest, context, own, outer, assigned, parent, module, around, top => by
    rw [addItems_cons, Site.ofItems]
    split
    · exact bodies_addItems rest context own outer assigned parent module around top
    · rw [bodies_addItems rest context own outer _ parent _ around top,
        bodies_addItem item context own outer parent module around top, List.map_append,
        List.append_assoc]

end

/-- The context at the top of a file. -/
def contextOf (options : LoweringOptions) (name : String) (path : Path) (outline : Outline) :
    LoweringContext :=
  ⟨options, ImportBindings.ofImports name (path.stem? == some "__init__") outline.imports,
    [Scope.ofItems name outline.items]⟩

/-- The declarations of a module that was just lowered are those at the sites of its file. -/
theorem bodies_ofOutline (options : LoweringOptions) (name : String) (path : Path)
    (outline : Outline) :
    (ofOutline options name path outline).bodies =
      (Site.ofOutline name outline).map (contextOf options name path outline).declared := by
  unfold ofOutline
  exact bodies_addItems outline.items (contextOf options name path outline)
    (Scope.ofItems name outline.items) [] [] none _ rfl rfl

theorem exists_site_of_mem {options : LoweringOptions} {name : String} {path : Path}
    {outline : Outline} {declaration : Declaration}
    (member : declaration ∈ (ofOutline options name path outline).declarations) :
    ∃ site ∈ Site.ofOutline name outline,
      (contextOf options name path outline).declared site = declaration.toDeclarationBody := by
  have body : declaration.toDeclarationBody ∈ (ofOutline options name path outline).bodies :=
    List.mem_map_of_mem member
  rw [bodies_ofOutline] at body
  exact List.mem_map.1 body

theorem exists_declaration_of_site {options : LoweringOptions} {name : String} {path : Path}
    {outline : Outline} {site : Site} (member : site ∈ Site.ofOutline name outline) :
    ∃ declaration ∈ (ofOutline options name path outline).declarations,
      declaration.toDeclarationBody = (contextOf options name path outline).declared site := by
  have body : (contextOf options name path outline).declared site ∈
      (ofOutline options name path outline).bodies := by
    rw [bodies_ofOutline]
    exact List.mem_map_of_mem member
  exact List.mem_map.1 body

end Module

end Declarations
