/-
This file proves that the names a file declares can be relied on in its types. A scope lists the
names of a body before anything in the body is lowered, and of several assignments to a name
only the first is lowered; still every name of every scope becomes a declaration. So a name that
is bound to a scope is bound to a declaration of the module, which linking finds whatever other
modules there are.
-/

import Declarations.Proofs.Linking.Fullnames
import Declarations.Proofs.Lowering.Fresh
import Declarations.Proofs.Lowering.Names

namespace Declarations

/-! ### Scopes -/

/-- Whether every name of a scope is that of one of some sites. -/
def Scope.IsCovered (scope : Scope) (sites : List Site) : Prop :=
  ∀ name ∈ scope.names, ∃ site ∈ sites, site.fullname = Dotted.below scope.path name

namespace Site

/-- The sites of a body have all names of its scope. -/
theorem isCovered_ofItems {path : String} {items : List Item} {outer : List Scope}
    {sites : List Site} (inside : ofItems (Scope.ofItems path items) outer [] items ⊆ sites) :
    (Scope.ofItems path items).IsCovered sites := by
  intro name named
  obtain ⟨item, member, rfl⟩ := List.mem_map.1 named
  have there : ∃ site ∈ ofItems (Scope.ofItems path items) outer [] items,
      site.own = Scope.ofItems path items ∧ site.item.name = item.name :=
    exists_mem_ofItems member List.not_mem_nil
  obtain ⟨site, among, itsOwn, itsName⟩ := there
  refine ⟨site, inside among, ?_⟩
  rw [fullname, itsOwn, itsName]

variable {sites : List Site}

mutual

/-- All scopes around a site are covered, where those around its item are. -/
theorem isCovered_of_mem_ofItem : (item : Item) → (own : Scope) → (outer : List Scope) →
    (∀ scope ∈ own :: outer, scope.IsCovered sites) → ofItem own outer item ⊆ sites →
      ∀ site ∈ ofItem own outer item, ∀ scope ∈ site.scopes, scope.IsCovered sites
  | .classDef header body, own, outer, around, inside, site, member => by
    rw [ofItem, List.mem_cons] at member
    rw [ofItem, List.cons_subset] at inside
    rcases member with rfl | within
    · exact around
    · refine isCovered_of_mem_ofItems body _ _ [] ?_ inside.2 site within
      exact List.forall_mem_cons.2 ⟨isCovered_ofItems inside.2, around⟩
  | .function outline, own, outer, around, inside, site, member => by
    rw [ofItem, List.mem_singleton] at member
    exact member ▸ around
  | .assignment outline, own, outer, around, inside, site, member => by
    rw [ofItem, List.mem_singleton] at member
    exact member ▸ around
  | .typeAlias name value line, own, outer, around, inside, site, member => by
    rw [ofItem, List.mem_singleton] at member
    exact member ▸ around

theorem isCovered_of_mem_ofItems : (items : List Item) → (own : Scope) → (outer : List Scope) →
    (assigned : List String) → (∀ scope ∈ own :: outer, scope.IsCovered sites) →
      ofItems own outer assigned items ⊆ sites →
        ∀ site ∈ ofItems own outer assigned items, ∀ scope ∈ site.scopes, scope.IsCovered sites
  | [], own, outer, assigned, around, inside, site, member => nomatch member
  | item :: rest, own, outer, assigned, around, inside, site, member => by
    unfold ofItems at member inside
    split at member
    next again =>
      rw [if_pos again] at inside
      exact isCovered_of_mem_ofItems rest own outer assigned around inside site member
    next new =>
      rw [if_neg new, List.append_subset] at inside
      rcases List.mem_append.1 member with here | later
      · exact isCovered_of_mem_ofItem item own outer around inside.1 site here
      · exact isCovered_of_mem_ofItems rest own outer _ around inside.2 site later

end

/-- All names of all scopes around the sites of a file are declared in it. -/
theorem isCovered_ofOutline {name : String} {outline : Outline} {site : Site}
    (member : site ∈ ofOutline name outline) {scope : Scope} (around : scope ∈ site.scopes) :
    scope.IsCovered (ofOutline name outline) := by
  refine isCovered_of_mem_ofItems outline.items _ _ [] ?_ (List.Subset.refl _) site member scope
    around
  exact List.forall_mem_cons.2 ⟨isCovered_ofItems (List.Subset.refl _), nofun⟩

end Site

namespace LoweringContext

/-- The names that lowering meets in the types at a site. -/
def namesAt (context : LoweringContext) (site : Site) : List String :=
  (context.within site).namesOf site.outer.isEmpty site.item

/-- The references in the declaration at a site are made from the names met there. -/
theorem mem_references_declared (context : LoweringContext) (site : Site)
    (reference : Reference) :
    reference ∈ (context.declared site).kind.references ↔
      (context.within site).Makes (context.namesAt site) reference :=
  mem_references_declaration _ _ _ _

/-- A name without dots that a scope declares is bound to the innermost such scope. -/
theorem bind_of_declared (context : LoweringContext) {name : String}
    (undotted : '.' ∉ name.toList) (declared : ∃ scope ∈ context.scopes, name ∈ scope.names) :
    ∃ scope, context.scopes.find? (fun scope => scope.names.contains name) = some scope ∧
      context.bind name = .key (Dotted.below scope.path name) := by
  obtain ⟨first, inScopes, inNames⟩ := declared
  have some : (context.scopes.find? fun scope => scope.names.contains name).isSome :=
    List.find?_isSome.2 ⟨first, inScopes, List.contains_iff_mem.2 inNames⟩
  obtain ⟨scope, found⟩ := Option.isSome_iff_exists.1 some
  refine ⟨scope, found, ?_⟩
  unfold bind
  rw [Dotted.head_of_undotted undotted]
  dsimp only
  rw [found]

end LoweringContext

/-! ### Linking -/

/-- Whatever other modules there are, the fullname of a declaration of a linked module stands for
something: a later module may take the name, but no import does. -/
theorem SymbolIndex.exists_lookup_of_declaration {modules : ModuleSet} (previous : ModuleSet)
    {held : String} {module : Module} {declaration : Declaration}
    (current : modules.get? held = some module) (member : declaration ∈ module.declarations) :
    ∃ target, (build modules previous).lookup declaration.fullname = some target := by
  have named : (module.lookup declaration.fullname).isSome := by
    rw [Option.isSome_iff_ne_none]
    exact fun vain => Module.ne_of_lookup_eq_none vain declaration member rfl
  obtain ⟨place, looked⟩ := Option.isSome_iff_exists.1 named
  have standing : (modules.values.reverse.findSome? fun module =>
      module.target? declaration.fullname).isSome := by
    rw [List.findSome?_isSome_iff]
    refine ⟨module, List.mem_reverse.2 (NameMap.mem_values_of_get? current), ?_⟩
    rw [Module.target?_of_lookup looked]
    rfl
  obtain ⟨target, stands⟩ := Option.isSome_iff_exists.1 standing
  refine ⟨target, lookup_of_target? ?_⟩
  rw [get?_build, GraphSymbol.bind_target?_stays, standing_modules, stands]
  rfl

theorem Module.references_link (index : SymbolIndex) (module : Module) :
    (module.link index).1.references =
      module.references.map fun (owner, reference) => (owner, reference.settle index) := by
  rw [link_eq]
  exact references_mapReferences _ module

theorem Reference.settle_pending {index : SymbolIndex} {key : String} {target : Target}
    (found : index.lookup key = some target) :
    (Reference.pending key).settle index = ⟨key, .resolved target⟩ := by
  simp [Reference.settle, Reference.pending, Reference.isResolved, Reference.target?, found]

namespace Module

/-- A name without dots that lowering meets in a type, and that the file or a class around it
declares, becomes a reference to the declaration of that name in the innermost such scope, and
linking resolves it among any modules. -/
theorem resolves_local_name {options : LoweringOptions} {name : String} {path : Path}
    {outline : Outline} {site : Site} {word : String}
    (isSite : site ∈ Site.ofOutline name outline)
    (met : word ∈ (contextOf options name path outline).namesAt site)
    (undotted : '.' ∉ word.toList) (declared : ∃ scope ∈ site.scopes, word ∈ scope.names) :
    let module := ofOutline options name path outline
    let context := contextOf options name path outline
    ∃ scope, site.scopes.find? (fun scope => scope.names.contains word) = some scope ∧
      (context.within site).bind word = .key (Dotted.below scope.path word) ∧
      (∃ declaration ∈ module.declarations,
        declaration.fullname = Dotted.below scope.path word) ∧
      (∃ declaration ∈ module.declarations,
        declaration.toDeclarationBody = context.declared site ∧
        .pending (Dotted.below scope.path word) ∈ declaration.kind.references) ∧
      ∀ modules previous : ModuleSet, ∀ held, modules.get? held = some module →
        ∃ linked target, (modules.link previous).1.get? held = some linked ∧
          (site.fullname, ⟨Dotted.below scope.path word, .resolved target⟩) ∈
            linked.references ∧
          ∀ entry ∈ linked.references, entry.2.key = Dotted.below scope.path word →
            entry.2.resolution = .resolved target := by
  intro module context
  obtain ⟨scope, found, bound⟩ := (context.within site).bind_of_declared undotted declared
  have refers : .pending (Dotted.below scope.path word) ∈ (context.declared site).kind.references :=
    (context.mem_references_declared site _).2 ⟨word, met, _, bound, rfl⟩
  have contained := List.find?_some found
  have inNames : word ∈ scope.names := List.contains_iff_mem.1 contained
  obtain ⟨other, isOther, named⟩ :=
    Site.isCovered_ofOutline isSite (List.mem_of_find?_eq_some found) word inNames
  have ownThere : ∃ declaration ∈ module.declarations,
      declaration.toDeclarationBody = context.declared site := exists_declaration_of_site isSite
  have otherThere : ∃ declaration ∈ module.declarations,
      declaration.toDeclarationBody = context.declared other := exists_declaration_of_site isOther
  obtain ⟨own, ownMember, isOwn⟩ := ownThere
  obtain ⟨declaration, member, same⟩ := otherThere
  have fullname : declaration.fullname = Dotted.below scope.path word := by
    rw [same, LoweringContext.fullname_declared, named]
  rw [← isOwn] at refers
  refine ⟨scope, found, bound, ⟨declaration, member, fullname⟩, ⟨own, ownMember, isOwn, refers⟩,
    fun modules previous held current => ?_⟩
  obtain ⟨target, looked⟩ := SymbolIndex.exists_lookup_of_declaration previous current member
  rw [fullname] at looked
  refine ⟨(module.link (SymbolIndex.build modules previous)).1, target, ?_, ?_,
    fun entry inside keyed => ?_⟩
  · rw [ModuleSet.get?_link, current]
    rfl
  · have inside : (site.fullname, .pending (Dotted.below scope.path word)) ∈ module.references := by
      refine List.mem_append_right _ (List.mem_flatMap.2 ⟨own, ownMember, ?_⟩)
      refine List.mem_map.2 ⟨_, refers, ?_⟩
      rw [isOwn, LoweringContext.fullname_declared]
    rw [references_link, ← Reference.settle_pending looked]
    exact List.mem_map_of_mem inside
  · rw [references_link] at inside
    obtain ⟨⟨owner, before⟩, among, rfl⟩ := List.mem_map.1 inside
    have pending := (fresh_ofOutline options name path outline).pending _ among
    have sameKey : before.key = Dotted.below scope.path word :=
      (before.settled_settle _).key.symm.trans keyed
    have isPending : before = .pending (Dotted.below scope.path word) :=
      (Reference.forget_of_isPending pending).symm.trans (congrArg Reference.pending sameKey)
    show (before.settle _).resolution = _
    rw [isPending, Reference.settle_pending looked]

/-- A class without anything in it. -/
def pageItem : Item :=
  .classDef ⟨"Page", none, [], [], [], 1, 1⟩ []

/-- A function that names the class in quotes. -/
def turnItem : Item :=
  .function ⟨"turn", none, [], some (.quoted "Page"), [], false, 4, 4⟩

/-- The class twice, the second time next to the function in another class. -/
def nestedPages : Outline :=
  ⟨none, [], [pageItem, .classDef ⟨"Book", none, [], [], [], 2, 4⟩ [pageItem, turnItem]]⟩

/-- The name is that of the inner class. -/
theorem resolves_local_name_nested :
    let module := ofOutline ⟨true, true, true⟩ "shelf" ⟨"shelf.py"⟩ nestedPages
    let context := contextOf ⟨true, true, true⟩ "shelf" ⟨"shelf.py"⟩ nestedPages
    ∃ site ∈ Site.ofOutline "shelf" nestedPages, "Page" ∈ context.namesAt site ∧
      '.' ∉ "Page".toList ∧ (∃ scope ∈ site.scopes, "Page" ∈ scope.names) ∧
      site.fullname = "shelf.Book.turn" ∧
      (context.within site).bind "Page" = .key "shelf.Book.Page" ∧
      ∃ linked target,
        ((ModuleSet.add NameMap.empty module).link NameMap.empty).1.get? "shelf" = some linked ∧
          ("shelf.Book.turn", ⟨"shelf.Book.Page", .resolved target⟩) ∈ linked.references := by
  intro module context
  let own : Scope := Scope.ofItems (Dotted.below "shelf" "Book") [pageItem, turnItem]
  let site : Site := ⟨turnItem, own, [Scope.ofItems "shelf" nestedPages.items]⟩
  have last : (Site.ofOutline "shelf" nestedPages)[3]? = some site := rfl
  have isSite : site ∈ Site.ofOutline "shelf" nestedPages := List.mem_of_getElem? last
  have met : "Page" ∈ context.namesAt site := by decide +kernel
  have undotted : '.' ∉ "Page".toList := by decide
  have declared : ∃ scope ∈ site.scopes, "Page" ∈ scope.names :=
    ⟨own, List.mem_cons_self, List.mem_cons_self⟩
  have fullname : site.fullname = "shelf.Book.turn" := by decide
  have key : Dotted.below own.path "Page" = "shelf.Book.Page" := by decide
  have named : module.name = "shelf" := name_ofOutline _ _ _ _
  obtain ⟨scope, found, bound, -, -, resolved⟩ :=
    resolves_local_name isSite met undotted declared
  obtain rfl : own = scope := Option.some.inj found
  obtain ⟨linked, target, here, refers, -⟩ :=
    resolved (ModuleSet.add NameMap.empty module) NameMap.empty "shelf"
      (named ▸ NameMap.get?_insert_self _ _ _)
  rw [key] at bound refers
  rw [fullname] at refers
  exact ⟨site, isSite, met, undotted, declared, fullname, bound, linked, target, here, refers⟩

end Module

end Declarations
