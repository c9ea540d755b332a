/-
This file says what becomes of a module that is imported by its full name. The table lists the full
name under itself, and the first part is bound beside it. Binding the first part again changes what
the full name means inside the module, and leaves the entry of the table as it is; so through the
module the full name leads where it always led. Both mean the same exactly where the first part is
still bound to itself.
-/

import Declarations.Proofs.Linking.Chains
import Declarations.Proofs.Linking.Growth
import Declarations.Proofs.Lowering.Bindings

namespace Declarations

/-! ### Full names -/

/-- Whether an import names a module by its full name and gives it no other. -/
structure Import.NamesWhole (entry : Import) (word : String) : Prop where
  origin : entry.origin ≠ "__future__"
  kind : entry.kind = .direct
  member : ⟨word, none⟩ ∈ entry.names

/-- Whether a file imports a module by its full name, under no other. -/
def Outline.NamesWhole (outline : Outline) (word : String) : Prop :=
  ∃ entry ∈ outline.imports, entry.NamesWhole word

theorem ImportedName.mem_whole?_iff {imported : ImportedName} {word key : String} :
    (word, key) ∈ imported.whole?.toList ↔
      imported = ⟨word, none⟩ ∧ '.' ∈ word.toList ∧ isStandard word = false ∧ key = word := by
  obtain ⟨name, asName⟩ := imported
  unfold whole?
  dsimp only
  split
  next whole =>
    obtain ⟨rfl, dotted, outside⟩ := whole
    rw [Option.mem_toList, Option.some_inj, Prod.mk.injEq]
    constructor
    · rintro ⟨rfl, rfl⟩
      exact ⟨rfl, dotted, outside, rfl⟩
    · rintro ⟨same, -, -, rfl⟩
      cases same
      exact ⟨rfl, rfl⟩
  next other =>
    refine iff_of_false nofun ?_
    rintro ⟨same, dotted, outside, -⟩
    cases same
    exact other ⟨rfl, dotted, outside⟩

/-- What an import lists in the table, it binds, or it names it by its full name. -/
theorem Import.mem_listed_iff {current : String} {isPackage : Bool} {entry : Import}
    {word key : String} :
    (word, key) ∈ entry.listed current isPackage ↔
      (word, key) ∈ entry.bound current isPackage ∨
        entry.NamesWhole word ∧ '.' ∈ word.toList ∧ isStandard word = false ∧ key = word := by
  unfold listed bound
  split
  next future =>
    exact (or_iff_left fun whole => whole.1.origin future).symm
  next present =>
    cases kind : entry.kind with
    | direct =>
      dsimp only
      simp only [List.mem_flatMap, List.mem_append, List.mem_singleton, List.mem_map,
        ImportedName.mem_whole?_iff]
      constructor
      · rintro ⟨imported, member, ⟨rfl, dotted, outside, rfl⟩ | bound⟩
        · exact .inr ⟨⟨present, kind, member⟩, dotted, outside, rfl⟩
        · exact .inl ⟨imported, member, bound.symm⟩
      · rintro (⟨imported, member, bound⟩ | ⟨whole, dotted, outside, rfl⟩)
        · exact ⟨imported, member, .inr bound.symm⟩
        · exact ⟨_, whole.member, .inl ⟨rfl, dotted, outside, rfl⟩⟩
    | origin | relative _ =>
      refine (or_iff_left fun whole => ?_).symm
      cases kind.symm.trans whole.1.kind

/-- A module that is imported by its full name binds its first part to itself. -/
theorem Import.NamesWhole.mem_bound {current : String} {isPackage : Bool} {entry : Import}
    {word : String} (whole : entry.NamesWhole word) :
    (Dotted.head word, Dotted.head word) ∈ entry.bound current isPackage := by
  unfold bound
  rw [if_neg whole.origin, whole.kind]
  exact List.mem_map.2 ⟨_, whole.member, rfl⟩

namespace Outline

variable {name : String} {path : Path} {outline : Outline} {word key : String}

theorem mem_listed_iff :
    (word, key) ∈ outline.listed name path ↔
      (word, key) ∈ outline.bound name path ∨
        outline.NamesWhole word ∧ '.' ∈ word.toList ∧ isStandard word = false ∧ key = word := by
  simp only [listed, bound, List.mem_flatMap, Import.mem_listed_iff, NamesWhole]
  constructor
  · rintro ⟨entry, member, bound | ⟨whole, rest⟩⟩
    · exact .inl ⟨entry, member, bound⟩
    · exact .inr ⟨⟨entry, member, whole⟩, rest⟩
  · rintro (⟨entry, member, bound⟩ | ⟨⟨entry, member, whole⟩, rest⟩)
    · exact ⟨entry, member, .inl bound⟩
    · exact ⟨entry, member, .inr ⟨whole, rest⟩⟩

theorem NamesWhole.exists_lastKey?_head (whole : outline.NamesWhole word) :
    ∃ top, lastKey? (outline.bound name path) (Dotted.head word) = some top := by
  obtain ⟨entry, member, whole⟩ := whole
  exact exists_lastKey?_of_mem (List.mem_flatMap.2 ⟨entry, member, whole.mem_bound⟩)

/-- A dotted name that no import binds is listed where it is the full name of a module that is
imported by it, and under itself. -/
theorem lastKey?_listed_iff (dotted : '.' ∈ word.toList)
    (unbound : lastKey? (outline.bound name path) word = none) :
    lastKey? (outline.listed name path) word = some key ↔
      outline.NamesWhole word ∧ isStandard word = false ∧ key = word := by
  have listed_iff : ∀ key, (word, key) ∈ outline.listed name path ↔
      outline.NamesWhole word ∧ isStandard word = false ∧ key = word := by
    intro key
    rw [mem_listed_iff, or_iff_right (lastKey?_eq_none_iff.1 unbound key), and_iff_right dotted]
  constructor
  · exact fun last => (listed_iff key).1 (mem_of_lastKey? last)
  · intro whole
    obtain ⟨last, here⟩ := exists_lastKey?_of_mem ((listed_iff key).2 whole)
    obtain ⟨-, -, same⟩ := (listed_iff last).1 (mem_of_lastKey? here)
    rw [here, same, whole.2.2]

end Outline

/-! ### Through the module -/

/-- Whether a module is among some modules, and nothing is put under a name inside it but what it
imports itself. -/
structure Module.ImportsAlone (module : Module) (word : String) (modules previous : ModuleSet) :
    Prop where
  current : modules.get? module.name = some module
  undeclared : ∀ declaration ∈ module.declarations,
    declaration.fullname ≠ Dotted.below module.name word
  others : ∀ other ∈ modules.values ++ previous.values, other.name ≠ module.name →
    ∀ entry ∈ other.symbols, entry.1 ≠ Dotted.below module.name word

namespace SymbolIndex

variable {modules previous : ModuleSet} {module : Module} {word key : String}

/-- What a module puts into an index under a name for which it has one entry. -/
theorem mem_symbols_of_import (alone : module.ImportsAlone word modules previous)
    (noStar : word ≠ "*")
    (entry : ∀ target, ⟨word, target⟩ ∈ module.imports ↔ target = .pending key)
    (symbol : GraphSymbol) :
    (Dotted.below module.name word, symbol) ∈ module.symbols ↔ symbol = .imported key := by
  rw [Module.symbols, List.cons_append, List.mem_cons, List.mem_append]
  constructor
  · rintro (itself | imported | declared)
    · exact absurd (Prod.mk.inj itself).1 (Dotted.below_ne _ _)
    · obtain ⟨⟨name, target⟩, member, same⟩ := List.mem_map.1 imported
      obtain ⟨sameName, rfl⟩ := Prod.mk.inj same
      obtain rfl := Dotted.below_right_inj.1 sameName
      rw [(entry target).1 (List.mem_of_mem_filter member)]
      rfl
    · obtain ⟨⟨declaration, place⟩, member, same⟩ := List.mem_map.1 declared
      exact absurd (Prod.mk.inj same).1
        (alone.undeclared declaration (List.fst_mem_of_mem_zipIdx member))
  · rintro rfl
    have member : ⟨word, .pending key⟩ ∈ module.imports.filter fun symbol => symbol.name != "*" :=
      List.mem_filter.2 ⟨(entry _).2 rfl, bne_iff_ne.2 noStar⟩
    exact .inr (.inl (List.mem_map.2 ⟨_, member, rfl⟩))

/-- The one entry that a module has for a name is what an index holds under it. -/
theorem get?_build_of_import (alone : module.ImportsAlone word modules previous)
    (noStar : word ≠ "*")
    (entry : ∀ target, ⟨word, target⟩ ∈ module.imports ↔ target = .pending key) :
    (build modules previous).get? (Dotted.below module.name word) = some (.imported key) := by
  have own := mem_symbols_of_import alone noStar entry
  have inModules := NameMap.mem_values_of_get? alone.current
  rw [build, get?_foldl_addModule]
  refine standing_eq_some (List.mem_flatMap.2
    ⟨module, List.mem_append_right _ inModules, (own _).2 rfl⟩) fun symbol member => ?_
  obtain ⟨other, inside, among⟩ := List.mem_flatMap.1 member
  rcases List.mem_append.1 inside with kept | present
  · -- An earlier module of the same name does not count.
    obtain ⟨earlier, absent⟩ := List.mem_filter.1 kept
    have different : other.name ≠ module.name := by
      intro named
      rw [named, NameMap.contains, alone.current] at absent
      cases absent
    exact absurd rfl (alone.others other (List.mem_append_right _ earlier) different _ among)
  · by_cases named : other.name = module.name
    · have stored := ModuleSet.get?_name present
      rw [named, alone.current] at stored
      obtain rfl := Option.some.inj stored
      exact (own symbol).1 among
    · exact absurd rfl (alone.others other (List.mem_append_left _ present) named _ among)

/-- Looking an imported name up is looking up what it was imported from, within one step less. -/
theorem lookup_of_imported {index : SymbolIndex} {other : String}
    (imported : index.get? key = some (.imported other)) (different : other ≠ key) :
    index.lookup key = index.lookupWithin 15 other :=
  lookupWithin_succ (step_eq_renamed_iff.2 (.whole imported different)) 15

end SymbolIndex

namespace Module

/-- The table of imports has at most one entry for a dotted name, with the key under which it was
listed last; through the module the name leads to that key. In the module itself the name stands
for the key that its first part was bound to last, with the rest behind it. So the two may differ.
Where no import binds the dotted name itself, its only entry is that of a module which is imported
by its full name, whatever is imported later; then its first part is bound, and both keys are one
exactly where the first part is still bound to itself. -/
theorem dotted_imports_keep_keys (options : LoweringOptions) (name : String) (path : Path)
    (outline : Outline) {word : String} (dotted : '.' ∈ word.toList) :
    let module := ofOutline options name path outline
    let context := contextOf options name path outline
    let listed := lastKey? (outline.listed name path) word
    let top := lastKey? (outline.bound name path) (Dotted.head word)
    (module.imports.filter fun symbol => symbol.name == word).length ≤ 1 ∧
    (∀ target, ⟨word, target⟩ ∈ module.imports ↔
      ∃ key, listed = some key ∧ isStandard key = false ∧ target = .pending key) ∧
    (∀ key, ⟨word, .pending key⟩ ∈ module.imports → key ≠ Dotted.below name word →
      ∀ modules previous, module.ImportsAlone word modules previous →
        (SymbolIndex.build modules previous).lookup (Dotted.below name word) =
          (SymbolIndex.build modules previous).lookupWithin 15 key) ∧
    (∀ first, top = some first → ∀ site ∈ Site.ofOutline name outline,
      (∀ scope ∈ site.scopes, Dotted.head word ∉ scope.names) →
        (isStandard first = false → (context.within site).typeOf (.name word) =
          .toKey (first ++ Dotted.afterHead word)) ∧
        (isStandard first = true →
          ((context.within site).typeOf (.name word)).references = [])) ∧
    (lastKey? (outline.bound name path) word = none →
      (∀ key, listed = some key ↔
        outline.NamesWhole word ∧ isStandard word = false ∧ key = word) ∧
      (outline.NamesWhole word → ∃ first, top = some first ∧
        (word = first ++ Dotted.afterHead word ↔ first = Dotted.head word))) := by
  intro module context listed top
  have noStar : word ≠ "*" := by
    rintro rfl
    exact absurd dotted (by decide)
  have entries := mem_imports_ofOutline_iff options name path outline noStar
  refine ⟨length_filter_imports_le options name path outline noStar, entries,
    fun key entry different modules previous alone => ?_,
    fun first isTop site _ undeclared => ?_,
    fun unbound => ⟨fun key => Outline.lastKey?_listed_iff dotted unbound, fun whole => ?_⟩⟩
  · obtain ⟨last, isLast, outside, same⟩ := (entries _).1 entry
    cases same
    have only : ∀ target, ⟨word, target⟩ ∈ module.imports ↔ target = .pending key := by
      intro target
      rw [entries, isLast]
      simp [outside]
    have named : module.name = name := name_ofOutline options name path outline
    rw [← named] at different ⊢
    exact SymbolIndex.lookup_of_imported
      (SymbolIndex.get?_build_of_import alone noStar only) different
  · have imported : (context.within site).bindings.keys.get? (Dotted.head word) = some first :=
      ((inStep_contextOf options name path outline).keys _).trans isTop
    have bound := LoweringContext.bind_of_imported undeclared imported
    exact ⟨fun outside =>
        LoweringContext.typeOf_name_of_key (LoweringContext.bind_eq_key bound outside),
      fun standard =>
        LoweringContext.references_typeOf_name (LoweringContext.bind_ne_key bound standard)⟩
  · obtain ⟨first, isTop⟩ := whole.exists_lastKey?_head
    refine ⟨first, isTop, ?_⟩
    conv => lhs; lhs; rw [← Dotted.head_append_afterHead word]
    rw [String.append_left_inj, eq_comm]

/-- A file that imports a module by its full name, and binds the first part to another package
afterwards. -/
def reboundBooks : Outline :=
  ⟨none,
    [⟨"books.pages", [⟨"books.pages", none⟩], .direct, 1⟩,
      ⟨"attic", [⟨"books", none⟩], .origin, 2⟩],
    [pageTurner]⟩

/-- The full name leads through the module to the first package, and stands in the module for the
other one. -/
theorem dotted_imports_keep_keys_attic :
    let module := ofOutline ⟨true, true, true⟩ "shelf" ⟨"shelf.py"⟩ reboundBooks
    let context := contextOf ⟨true, true, true⟩ "shelf" ⟨"shelf.py"⟩ reboundBooks
    let modules := ModuleSet.ofModules [module, skeleton "books.pages" ⟨"books/pages.py"⟩]
    ∃ site ∈ Site.ofOutline "shelf" reboundBooks,
      '.' ∈ "books.pages".toList ∧ ⟨"books.pages", .pending "books.pages"⟩ ∈ module.imports ∧
      module.ImportsAlone "books.pages" modules NameMap.empty ∧
      (SymbolIndex.build modules NameMap.empty).lookup "shelf.books.pages" =
        some (.module "books.pages") ∧
      (context.within site).typeOf (.name "books.pages") = .toKey "attic.books.pages" := by
  intro module context modules
  let site : Site := ⟨pageTurner, Scope.ofItems "shelf" [pageTurner], []⟩
  have isSite : site ∈ Site.ofOutline "shelf" reboundBooks := List.mem_singleton_self site
  have dotted : '.' ∈ "books.pages".toList := by decide
  have unbound : lastKey? (reboundBooks.bound "shelf" ⟨"shelf.py"⟩) "books.pages" = none := by
    decide +kernel
  have isTop : lastKey? (reboundBooks.bound "shelf" ⟨"shelf.py"⟩) (Dotted.head "books.pages") =
      some "attic.books" := by
    decide +kernel
  have whole : reboundBooks.NamesWhole "books.pages" :=
    ⟨_, List.mem_cons_self, ⟨by decide, rfl, List.mem_cons_self⟩⟩
  have outside : isStandard "books.pages" = false ∧ isStandard "attic.books" = false := by decide
  have undeclared : ∀ scope ∈ site.scopes, Dotted.head "books.pages" ∉ scope.names := by
    decide +kernel
  have alone : module.ImportsAlone "books.pages" modules NameMap.empty := by
    refine ⟨?_, by decide +kernel, by decide +kernel⟩
    rw [name_ofOutline]
    decide +kernel
  obtain ⟨-, entries, through, within, inOrder⟩ :=
    dotted_imports_keep_keys ⟨true, true, true⟩ "shelf" ⟨"shelf.py"⟩ reboundBooks dotted
  have entry : ⟨"books.pages", .pending "books.pages"⟩ ∈ module.imports :=
    (entries _).2 ⟨_, ((inOrder unbound).1 _).2 ⟨whole, outside.1, rfl⟩, outside.1, rfl⟩
  have found : (SymbolIndex.build modules NameMap.empty).lookupWithin 15 "books.pages" =
      some (.module "books.pages") := by
    decide +kernel
  have key : "attic.books" ++ Dotted.afterHead "books.pages" = "attic.books.pages" := by decide
  refine ⟨site, isSite, dotted, entry, alone,
    (through _ entry (by decide) modules NameMap.empty alone).trans found, ?_⟩
  rw [← key]
  exact (within _ isTop site isSite undeclared).1 outside.2

/-- With the other package there as well, the full name leads through the module to another module
than it stands for in the module itself. -/
theorem dotted_import_outlives_rebinding :
    let module := ofOutline ⟨true, true, true⟩ "shelf" ⟨"shelf.py"⟩ reboundBooks
    let modules := ModuleSet.ofModules [module, skeleton "books.pages" ⟨"books/pages.py"⟩,
      skeleton "attic.books.pages" ⟨"attic/books/pages.py"⟩]
    let index := SymbolIndex.build modules NameMap.empty
    ⟨"books.pages", .pending "books.pages"⟩ ∈ module.imports ∧
      lastKey? (reboundBooks.bound "shelf" ⟨"shelf.py"⟩) "books" = some "attic.books" ∧
      "books.pages" ≠ "attic.books" ++ Dotted.afterHead "books.pages" ∧
      index.lookup "shelf.books.pages" = some (.module "books.pages") ∧
      index.lookup "attic.books.pages" = some (.module "attic.books.pages") := by
  decide +kernel

end Module

end Declarations
