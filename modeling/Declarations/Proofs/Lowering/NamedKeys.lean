/-
This file proves which keys of a module are names. Where all that a file imports is written as
names, every key of its imports is one, and binding keeps the rest of a dotted name as it is. So
the key of a reference in a type is a name exactly where what lowering took for a name in the
type is one; an attribute of something that is no name is taken for one all the same.
-/

import Declarations.Outline.OfSource
import Declarations.Proofs.Lowering.Bindings
import Declarations.Proofs.Lowering.Keys

namespace Declarations

/-! ### Imports -/

/-- Whether all that an import names is written as names. Only a member of a module may be a
star, which stands for a module that has a name. -/
structure Import.IsNamed (current : String) (isPackage : Bool) (entry : Import) : Prop where
  origin : entry.origin = "" ∨ Dotted.isName entry.origin = true
  names : ∀ imported ∈ entry.names, Dotted.isName imported.name = true ∨
    (imported.name = "*" ∧ entry.kind ≠ .direct ∧ absoluteModule current isPackage entry ≠ "")
  others : ∀ imported ∈ entry.names, ∀ other, imported.asName = some other →
    Dotted.isName other = true

theorem named_absoluteModule {current : String} (named : Dotted.isName current = true)
    {isPackage : Bool} {entry : Import} (written : entry.IsNamed current isPackage) :
    absoluteModule current isPackage entry = "" ∨
      Dotted.isName (absoluteModule current isPackage entry) = true := by
  unfold absoluteModule
  cases entry.kind with
  | direct | origin => exact written.origin
  | relative level =>
    dsimp only
    generalize ((Dotted.parts current).length - if isPackage = true then level - 1 else level) =
      count
    by_cases none : (Dotted.parts current).take count = []
    · rw [none]
      split
      · exact .inl rfl
      · exact written.origin
    · have kept := Dotted.isName_join_take named none
      split
      · exact .inr kept
      next filled =>
        have origin := written.origin.resolve_left fun none => filled (none ▸ rfl)
        rw [Dotted.join_append none (List.cons_ne_nil _ _)]
        exact .inr (Dotted.isName_below_iff.2 ⟨kept, origin⟩)

/-- Names are bound to names. -/
theorem Import.IsNamed.of_binds {current : String} (named : Dotted.isName current = true)
    {isPackage : Bool} {entry : Import} (written : entry.IsNamed current isPackage)
    {name key : String} (binds : entry.Binds current isPackage name key) :
    Dotted.isName name = true ∧ Dotted.isName key = true := by
  have direct {imported : ImportedName} (kind : entry.kind = .direct)
      (member : imported ∈ entry.names) : Dotted.isName imported.name = true :=
    (written.names imported member).resolve_right fun star => star.2.1 kind
  cases binds with
  | renamed kind member asName => exact ⟨written.others _ member _ asName, direct kind member⟩
  | whole kind member => exact ⟨direct kind member, direct kind member⟩
  | top kind member =>
    have first := Dotted.isName_head (direct kind member)
    exact ⟨first, first⟩
  | @member imported _ member plain =>
    have isName : Dotted.isName imported.name = true :=
      (written.names imported member).resolve_right fun star => plain star.1
    constructor
    · unfold ImportedName.used
      cases asName : imported.asName with
      | some other => exact written.others imported member other asName
      | none => exact isName
    · split
      · exact isName
      next filled =>
        have base := (named_absoluteModule named written).resolve_left fun none =>
          filled (none ▸ rfl)
        exact Dotted.isName_below_iff.2 ⟨base, isName⟩

/-- A star stands for a module that has a name. -/
theorem Import.IsNamed.of_stars {current : String} (named : Dotted.isName current = true)
    {isPackage : Bool} {entry : Import} (written : entry.IsNamed current isPackage)
    {module : String} (stars : entry.Stars current isPackage module) :
    Dotted.isName module = true := by
  obtain ⟨-, member, star⟩ := stars
  refine (named_absoluteModule named written).resolve_left fun none => ?_
  rcases written.names _ member with plain | ⟨-, -, filled⟩
  · rw [star] at plain
    exact absurd plain (by decide +kernel)
  · exact filled none

namespace ImportBindings

/-- Whether all keys and local names of bindings are names. -/
structure AreNamed (bindings : ImportBindings) : Prop where
  table : AllKeys (Dotted.isName · = true) bindings.table
  keys : ∀ name key, bindings.keys.get? name = some key →
    Dotted.isName name = true ∧ Dotted.isName key = true
  wildcards : ∀ module ∈ bindings.wildcards, Dotted.isName module = true

theorem areNamed_ofImports {current : String} (named : Dotted.isName current = true)
    {isPackage : Bool} {entries : List Import}
    (written : ∀ entry ∈ entries, entry.IsNamed current isPackage) :
    (ofImports current isPackage entries).AreNamed := by
  have within := within_ofImports current isPackage entries
  refine ⟨fun symbol member => ?_, fun name key looked => ?_, fun module member => ?_⟩
  · obtain ⟨name, key, rfl, ⟨entry, among, binds⟩ | ⟨-, entry, among, stars⟩⟩ :=
      within.table symbol member
    · exact ((written entry among).of_binds named binds).2
    · exact (written entry among).of_stars named stars
  · obtain ⟨entry, among, binds⟩ := within.keys name key looked
    exact (written entry among).of_binds named binds
  · obtain ⟨entry, among, stars⟩ := within.wildcards module member
    exact (written entry among).of_stars named stars

end ImportBindings

/-! ### Types -/

/-- What no scope holds is a reference to its own key or none. -/
theorem Binding.eq_of_ofKey_eq_key {key other : String} (bound : Binding.ofKey key = .key other) :
    other = key :=
  (Binding.ofKey_eq_key_iff.1 bound).1

namespace LoweringContext

/-- Whether all that names are bound by in a context is named. -/
structure IsNamed (context : LoweringContext) : Prop where
  bindings : context.bindings.AreNamed
  scopes : ∀ scope ∈ context.scopes, Dotted.isName scope.path = true

/-- A key is a name exactly where what is bound to it is one. -/
theorem isName_iff_of_bind {context : LoweringContext} (named : context.IsNamed)
    {word key : String} (bound : context.bind word = .key key) :
    Dotted.isName key = true ↔ Dotted.isName word = true := by
  have below {front : String} (isName : Dotted.isName front = true) :
      Dotted.isName (Dotted.below front word) = true ↔ Dotted.isName word = true :=
    Dotted.isName_below_iff.trans (and_iff_right isName)
  unfold bind at bound
  dsimp only at bound
  split at bound
  next scope found =>
    cases bound
    exact below (named.scopes scope (List.mem_of_find?_eq_some found))
  next =>
    split at bound
    next imported found =>
      obtain ⟨first, isName⟩ := named.bindings.keys _ _ found
      rw [Binding.eq_of_ofKey_eq_key bound]
      exact Dotted.isName_append_rest_iff isName first
    next =>
      split at bound
      · cases bound
      · split at bound
        next module found =>
          rw [Binding.eq_of_ofKey_eq_key bound]
          exact below (named.bindings.wildcards module (List.mem_of_head? found))
        next => rw [Binding.eq_of_ofKey_eq_key bound]

end LoweringContext

/-- Whether a hint has one of the forms that types are made of. -/
def TypeHint.IsStructured : TypeHint → Prop
  | .name _ | .subscript _ _ | .union _ | .absent => True
  | .quoted text => Dotted.isName text = true
  | .list _ | .ellipsis | .literal _ | .other _ => False

theorem LoweringContext.typeOf_of_not_structured (context : LoweringContext) {hint : TypeHint}
    (plain : ¬ hint.IsStructured) : ∃ text, context.typeOf hint = .unknown text := by
  cases hint with
  | name _ | subscript _ _ | union _ | absent => exact absurd trivial plain
  | quoted text =>
    have noName : ¬ Dotted.isName text = true := plain
    rw [typeOf, if_neg noName]
    exact ⟨text, rfl⟩
  | list _ | ellipsis | literal _ | other _ => exact ⟨_, by rw [typeOf]⟩

/-! ### Files -/

/-- Whether all that a file imports is written as names, and the names of its classes are
names. -/
structure Outline.IsNamed (name : String) (path : Path) (outline : Outline) : Prop where
  imports : ∀ entry ∈ outline.imports, entry.IsNamed name (path.stem? == some "__init__")
  classes : ∀ site ∈ Site.ofOutline name outline, ∀ header body,
    site.item = .classDef header body → Dotted.isName header.name = true

namespace Site

/-- Whether the names of all classes among some sites are names. -/
def ClassesNamed (sites : List Site) : Prop :=
  ∀ site ∈ sites, ∀ header body, site.item = .classDef header body →
    Dotted.isName header.name = true

/-- The paths of scopes are names, where those of classes are. -/
theorem ClassesNamed.passes {sites : List Site} (classes : ClassesNamed sites) :
    Passes (fun scope => Dotted.isName scope.path = true) sites :=
  fun site member header body isClass named =>
    Dotted.isName_below_iff.2 ⟨named, classes site member header body isClass⟩

end Site

namespace Module

/-- At each site of a file that is written with names all that names are bound by is named. -/
theorem isNamed_within {options : LoweringOptions} {name : String} {path : Path}
    {outline : Outline} (named : Dotted.isName name = true) (written : outline.IsNamed name path)
    {site : Site} (isSite : site ∈ Site.ofOutline name outline) :
    ((contextOf options name path outline).within site).IsNamed where
  bindings := ImportBindings.areNamed_ofImports named written.imports
  scopes _ around :=
    Site.forall_scopes_ofOutline (fun scope => Dotted.isName scope.path = true) named
      (Site.ClassesNamed.passes written.classes) isSite around

/-- Where a file is written with names, all keys in the table of its imports are names, and all
references in its types are to names exactly where every word that stands for a key in a type is
a name. A hint that is neither a name, a subscript, a union nor absent is no reference. -/
theorem isName_references_iff (options : LoweringOptions) {name : String} {path : Path}
    {outline : Outline} (named : Dotted.isName name = true)
    (written : outline.IsNamed name path) :
    let module := ofOutline options name path outline
    let context := contextOf options name path outline
    (∀ symbol ∈ module.imports, Dotted.isName symbol.target.key = true) ∧
    ((∀ entry ∈ module.references, Dotted.isName entry.2.key = true) ↔
      ∀ site ∈ Site.ofOutline name outline, ∀ word ∈ context.namesAt site, ∀ key,
        (context.within site).bind word = .key key → Dotted.isName word = true) ∧
    ∀ site ∈ Site.ofOutline name outline, ∀ hint : TypeHint, ¬ hint.IsStructured →
      ∃ text, (context.within site).typeOf hint = .unknown text := by
  intro module context
  have table : ∀ symbol ∈ module.imports, Dotted.isName symbol.target.key = true := by
    rw [imports_ofOutline]
    exact (ImportBindings.areNamed_ofImports named written.imports).table
  refine ⟨table, ⟨fun allNamed site isSite word met key bound => ?_, fun words entry member => ?_⟩,
    fun site _ hint => (context.within site).typeOf_of_not_structured⟩
  · have there : ∃ declaration ∈ module.declarations,
        declaration.toDeclarationBody = context.declared site := exists_declaration_of_site isSite
    obtain ⟨declaration, isMember, isOwn⟩ := there
    have refers : .pending key ∈ declaration.kind.references := by
      rw [isOwn]
      exact (context.mem_references_declared site _).2 ⟨word, met, key, bound, rfl⟩
    have among : (declaration.fullname, .pending key) ∈ module.references :=
      List.mem_append_right _
        (List.mem_flatMap.2 ⟨declaration, isMember, List.mem_map_of_mem refers⟩)
    have isName : Dotted.isName (Reference.pending key).key = true := allNamed _ among
    exact (LoweringContext.isName_iff_of_bind (isNamed_within named written isSite) bound).1 isName
  · rcases List.mem_append.1 member with imported | declared
    · obtain ⟨symbol, among, rfl⟩ := List.mem_map.1 imported
      exact table symbol among
    · obtain ⟨declaration, isMember, inside⟩ := List.mem_flatMap.1 declared
      obtain ⟨reference, refers, rfl⟩ := List.mem_map.1 inside
      obtain ⟨site, isSite, isOwn⟩ := exists_site_of_mem isMember
      rw [← isOwn, LoweringContext.mem_references_declared] at refers
      obtain ⟨word, met, key, bound, rfl⟩ := refers
      exact (LoweringContext.isName_iff_of_bind (isNamed_within named written isSite) bound).2
        (words site isSite word met key bound)

/-- All that the file with the rebound name refers to is named. -/
theorem isName_references_iff_rebound :
    let module := ofOutline ⟨true, true, true⟩ "shelf" ⟨"shelf.py"⟩ reboundPages
    Dotted.isName "shelf" = true ∧ reboundPages.IsNamed "shelf" ⟨"shelf.py"⟩ ∧
      ∀ entry ∈ module.references, Dotted.isName entry.2.key = true := by
  intro module
  have named : Dotted.isName "shelf" = true := by decide +kernel
  have written : reboundPages.IsNamed "shelf" ⟨"shelf.py"⟩ := by
    constructor
    · have plain : ∀ entry ∈ reboundPages.imports, Dotted.isName entry.origin = true ∧
          (∀ imported ∈ entry.names, Dotted.isName imported.name = true) ∧
          ∀ imported ∈ entry.names, ∀ other ∈ imported.asName, Dotted.isName other = true := by
        decide +kernel
      intro entry member
      obtain ⟨origin, names, others⟩ := plain entry member
      exact ⟨.inr origin, fun imported inside => .inl (names imported inside), others⟩
    · intro site member header body same
      obtain rfl := List.mem_singleton.1 member
      cases same
  have words : ∀ site ∈ Site.ofOutline "shelf" reboundPages,
      ∀ word ∈ (contextOf ⟨true, true, true⟩ "shelf" ⟨"shelf.py"⟩ reboundPages).namesAt site,
        Dotted.isName word = true := by
    decide +kernel
  obtain ⟨-, iff, -⟩ := isName_references_iff ⟨true, true, true⟩ named written
  exact ⟨named, written, iff.2 fun site isSite word met _ _ => words site isSite word met⟩

/-- An attribute of a call is taken for a name, though it is none. -/
theorem references_attribute_of_call :
    ((Outline.read "def f(x: foo().bar): pass\n").toOption.map fun outline =>
        (ofOutline ⟨true, true, true⟩ "m" ⟨"m.py"⟩ outline).references) =
      some [("m.f", Reference.pending "foo().bar")] ∧
    Dotted.isName "m" = true ∧ Dotted.isName "foo().bar" = false := by
  decide +kernel

end Module

end Declarations
