/-
This file proves that names of the standard library are bound but never referred to. The table of
imports and each way to bind a name pass over keys whose first part is a module of the standard
library; only what a file declares itself has such a key, where the module is called so. As
everywhere, the first part of a key is what is written in front of its first dot.
-/

import Declarations.Proofs.Lowering.Bindings
import Declarations.Proofs.Lowering.Keys
import Declarations.Proofs.Lowering.LocalNames

namespace Declarations

/-! ### Tables -/

namespace ImportBindings

variable {bindings : ImportBindings} {table : List ImportedSymbol}

/-- Whether all keys of a table lie outside the standard library. -/
def Outside (table : List ImportedSymbol) : Prop :=
  AllKeys (isStandard · = false) table

theorem Outside.rebind (outside : Outside table) (name key : String) :
    Outside (rebind table name key) := by
  have others : Outside (table.filter fun symbol => symbol.name != name) := fun symbol member =>
    outside symbol (List.mem_of_mem_filter member)
  unfold ImportBindings.rebind
  dsimp only
  split
  · exact others
  next foreign =>
    exact List.forall_mem_append.2
      ⟨others, List.forall_mem_singleton.2 (Bool.eq_false_iff.2 foreign)⟩

theorem Outside.bind (outside : Outside bindings.table) (name key : String) :
    Outside (bindings.bind name key).table :=
  outside.rebind name key

theorem Outside.addModule (outside : Outside bindings.table) (imported : ImportedName) :
    Outside (bindings.addModule imported).table := by
  unfold ImportBindings.addModule
  split
  · exact outside.bind _ _
  · refine Outside.bind ?_ _ _
    split
    · exact outside.rebind _ _
    · exact outside

theorem Outside.addMember (outside : Outside bindings.table) (base : String)
    (imported : ImportedName) : Outside (bindings.addMember base imported).table := by
  unfold ImportBindings.addMember
  split
  · dsimp only
    split
    · exact outside
    next foreign =>
      exact List.forall_mem_append.2
        ⟨outside, List.forall_mem_singleton.2 (Bool.eq_false_iff.2 foreign)⟩
  · exact outside.bind _ _

/-- One import adds keys outside the standard library only. -/
theorem Outside.add (outside : Outside bindings.table) (current : String) (isPackage : Bool)
    (entry : Import) : Outside (add current isPackage bindings entry).table := by
  have members : Outside (entry.names.foldl (fun bindings imported =>
      bindings.addMember (absoluteModule current isPackage entry) imported) bindings).table :=
    List.foldlRecOn (motive := fun bindings : ImportBindings => Outside bindings.table) _ _ outside
      fun _ before _ _ => before.addMember _ _
  unfold ImportBindings.add
  split
  · exact outside
  · split
    · exact List.foldlRecOn (motive := fun bindings : ImportBindings => Outside bindings.table)
        _ _ outside fun _ before _ _ => before.addModule _
    · exact members
    · exact members

/-- So do all imports of a module. -/
theorem outside_ofImports (current : String) (isPackage : Bool) (entries : List Import) :
    Outside (ofImports current isPackage entries).table :=
  List.foldlRecOn (motive := fun bindings : ImportBindings => Outside bindings.table) _ _
    (fun _ member => absurd member List.not_mem_nil)
    fun _ before entry _ => before.add current isPackage entry

end ImportBindings

/-! ### Bindings -/

namespace LoweringContext

/-- A name that is bound to a key is declared in the innermost scope that has its first part, or
the key lies outside the standard library. -/
theorem bind_eq_key_cases {context : LoweringContext} {word key : String}
    (bound : context.bind word = .key key) :
    (∃ scope ∈ context.scopes, Dotted.head word ∈ scope.names ∧
      key = Dotted.below scope.path word) ∨ isStandard key = false := by
  have outside {other : String} (same : Binding.ofKey other = .key key) :
      isStandard key = false := by
    obtain ⟨rfl, foreign⟩ := Binding.ofKey_eq_key_iff.1 same
    exact foreign
  unfold bind at bound
  dsimp only at bound
  split at bound
  next scope found =>
    have contained := List.find?_some found
    cases bound
    exact .inl ⟨scope, List.mem_of_find?_eq_some found, List.contains_iff_mem.1 contained, rfl⟩
  next =>
    right
    split at bound
    · exact outside bound
    · split at bound
      · cases bound
      · split at bound
        · exact outside bound
        · exact outside bound

end LoweringContext

/-! ### Declared names -/

/-- Whether a path is that of a module or stands below it. -/
def IsAtOrBelow (name path : String) : Prop :=
  path = name ∨ ∃ tail, path = Dotted.below name tail

theorem IsAtOrBelow.below {name path : String} (inside : IsAtOrBelow name path) (word : String) :
    ∃ tail, Dotted.below path word = Dotted.below name tail := by
  rcases inside with rfl | ⟨tail, rfl⟩
  · exact ⟨word, rfl⟩
  · exact ⟨Dotted.below tail word, by simp [Dotted.below, String.append_assoc]⟩

/-- All scopes of a file stand at or below the name of its module. -/
theorem Site.isAtOrBelow_path {name : String} {outline : Outline} {site : Site}
    (member : site ∈ ofOutline name outline) {scope : Scope} (around : scope ∈ site.scopes) :
    IsAtOrBelow name scope.path :=
  forall_scopes_ofOutline (fun scope => IsAtOrBelow name scope.path) (.inl rfl)
    (fun _ _ _ _ _ inside => .inr (inside.below _)) member around

theorem Dotted.below_eq_append_afterHead (scope word : String) :
    below scope word = below scope (head word) ++ afterHead word := by
  conv_lhs => rw [← head_append_afterHead word]
  rw [below, below, ← String.append_assoc]

namespace Module

variable {options : LoweringOptions} {name : String} {path : Path} {outline : Outline}

/-- Whether a key is that of a declaration of a module, or begins with it and a dot, and stands
below the name of the module. -/
def OwnsKey (module : Module) (key : String) : Prop :=
  (∃ declaration ∈ module.declarations, ∃ word,
    key = declaration.fullname ++ Dotted.afterHead word) ∧
  ∃ tail, key = Dotted.below module.name tail

/-- The key of a name whose first part is in a scope around a site is one that the module
declares. -/
theorem ownsKey_of_mem_names {site : Site} (isSite : site ∈ Site.ofOutline name outline)
    {scope : Scope} (around : scope ∈ site.scopes) {word : String}
    (named : Dotted.head word ∈ scope.names) :
    (ofOutline options name path outline).OwnsKey (Dotted.below scope.path word) := by
  obtain ⟨other, isOther, fullname⟩ :=
    Site.isCovered_ofOutline isSite around (Dotted.head word) named
  have there : ∃ declaration ∈ (ofOutline options name path outline).declarations,
      declaration.toDeclarationBody = (contextOf options name path outline).declared other :=
    exists_declaration_of_site isOther
  obtain ⟨declaration, member, same⟩ := there
  refine ⟨⟨declaration, member, word, ?_⟩, ?_⟩
  · rw [same, LoweringContext.fullname_declared, fullname, ← Dotted.below_eq_append_afterHead]
  · rw [name_ofOutline]
    exact (Site.isAtOrBelow_path isSite around).below word

/-- The references in the table lie outside the standard library, and so do those in types, but for
names that the module declares. -/
theorem references_ofOutline_cases {entry : String × Reference}
    (member : entry ∈ (ofOutline options name path outline).references) :
    isStandard entry.2.key = false ∨
      (ofOutline options name path outline).OwnsKey entry.2.key := by
  rcases List.mem_append.1 member with imported | declared
  · obtain ⟨symbol, among, rfl⟩ := List.mem_map.1 imported
    rw [imports_ofOutline] at among
    exact .inl (ImportBindings.outside_ofImports _ _ _ symbol among)
  · obtain ⟨declaration, among, inside⟩ := List.mem_flatMap.1 declared
    obtain ⟨reference, refers, rfl⟩ := List.mem_map.1 inside
    obtain ⟨site, isSite, same⟩ := exists_site_of_mem among
    rw [← same, LoweringContext.mem_references_declared] at refers
    obtain ⟨word, -, key, bound, rfl⟩ := refers
    rcases LoweringContext.bind_eq_key_cases bound with ⟨scope, around, named, rfl⟩ | outside
    · exact .inr (ownsKey_of_mem_names isSite around named)
    · exact .inl outside

/-- Names of the standard library are bound, but never referred to. All keys of a module lie outside
of it, but for those of what the module declares. A name that was imported last under a key of the
standard library has no entry in the table, and where no scope declares it, it is bound to no key,
alone or in front of other parts, so that all references are made from names that begin with
another part. -/
theorem standard_names_are_never_references (options : LoweringOptions) (name : String)
    (path : Path) (outline : Outline) :
    let module := ofOutline options name path outline
    let context := contextOf options name path outline
    (∀ entry ∈ module.references, isStandard entry.2.key = false ∨ module.OwnsKey entry.2.key) ∧
    ∀ word key, '.' ∉ word.toList → word ≠ "*" →
      lastKey? (outline.bound name path) word = some key → isStandard key = true →
        (∀ target, ⟨word, target⟩ ∉ module.imports) ∧
        ∀ site ∈ Site.ofOutline name outline, (∀ scope ∈ site.scopes, word ∉ scope.names) →
          (∀ longer, Dotted.head longer = word →
            ∀ other, (context.within site).bind longer ≠ .key other) ∧
          ∀ declaration ∈ module.declarations,
            declaration.toDeclarationBody = context.declared site →
              ∀ reference ∈ declaration.kind.references, ∃ other ∈ context.namesAt site,
                Dotted.head other ≠ word ∧ (context.within site).Makes [other] reference := by
  intro module context
  refine ⟨fun entry member => references_ofOutline_cases member,
    fun word key undotted noStar last standard => ⟨fun target member => ?_,
      fun site isSite undeclared => ?_⟩⟩
  · obtain ⟨other, listed, outside, -⟩ :=
      (mem_imports_ofOutline_iff options name path outline noStar target).1 member
    rw [lastKey?_listed_of_undotted name path outline undotted, last] at listed
    cases listed
    rw [standard] at outside
    cases outside
  · have unkeyed : ∀ longer, Dotted.head longer = word →
        ∀ other, (context.within site).bind longer ≠ .key other := by
      intro longer headed
      have imported : context.bindings.keys.get? (Dotted.head longer) = some key := by
        rw [headed, ← last]
        exact (inStep_contextOf options name path outline).keys word
      exact LoweringContext.bind_ne_key
        (LoweringContext.bind_of_imported (headed.symm ▸ undeclared) imported) standard
    refine ⟨unkeyed, fun declaration _ isOwn reference refers => ?_⟩
    rw [isOwn, context.mem_references_declared] at refers
    obtain ⟨other, met, otherKey, otherBound, same⟩ := refers
    exact ⟨other, met, fun headed => unkeyed other headed otherKey otherBound,
      LoweringContext.makes_singleton_iff.2 ⟨otherKey, otherBound, same⟩⟩

/-- The parameter names the standard library, and the one reference in the file is made from the
result. -/
theorem standard_names_are_never_references_rebound :
    let module := ofOutline ⟨true, true, true⟩ "shelf" ⟨"shelf.py"⟩ reboundPages
    let context := contextOf ⟨true, true, true⟩ "shelf" ⟨"shelf.py"⟩ reboundPages
    (∀ target, ⟨"enum", target⟩ ∉ module.imports) ∧
      ∃ site ∈ Site.ofOutline "shelf" reboundPages, "enum.Enum" ∈ context.namesAt site ∧
        (∀ other, (context.within site).bind "enum.Enum" ≠ .key other) ∧
        ∃ declaration ∈ module.declarations,
          declaration.toDeclarationBody = context.declared site ∧
          ∀ reference ∈ declaration.kind.references, ∃ other ∈ context.namesAt site,
            Dotted.head other ≠ "enum" ∧ (context.within site).Makes [other] reference := by
  intro module context
  let own : Scope := Scope.ofItems "shelf" [pageTurner]
  let site : Site := ⟨pageTurner, own, []⟩
  have isSite : site ∈ Site.ofOutline "shelf" reboundPages := List.mem_singleton_self site
  have last : lastKey? (reboundPages.bound "shelf" ⟨"shelf.py"⟩) "enum" = some "enum" := by
    decide +kernel
  have undeclared : ∀ scope ∈ site.scopes, "enum" ∉ scope.names := by
    simp [site, Site.scopes, own, Scope.ofItems, pageTurner, Item.name]
  have met : "enum.Enum" ∈ context.namesAt site := by decide +kernel
  have there : ∃ declaration ∈ module.declarations,
      declaration.toDeclarationBody = context.declared site := exists_declaration_of_site isSite
  obtain ⟨declaration, member, isOwn⟩ := there
  obtain ⟨-, standard⟩ :=
    standard_names_are_never_references ⟨true, true, true⟩ "shelf" ⟨"shelf.py"⟩ reboundPages
  obtain ⟨noEntry, vain⟩ := standard "enum" "enum" (by decide) (by decide) last (by decide)
  obtain ⟨unkeyed, others⟩ := vain site isSite undeclared
  exact ⟨noEntry, site, isSite, met, unkeyed "enum.Enum" (by decide), declaration, member, isOwn,
    others declaration member isOwn⟩

/-- With blanks around its dot the name of a module keeps them, so its first part is none of the
standard library, though the module that it names is. -/
theorem standard_name_with_blanks_is_reference :
    ((Outline.read "from os . path import join\n").toOption.map fun outline =>
        (ofOutline ⟨true, true, true⟩ "m" ⟨"m.py"⟩ outline).references) =
      some [("m", Reference.pending "os . path.join")] ∧
    ((Outline.read "from os.path import join\n").toOption.map fun outline =>
        (ofOutline ⟨true, true, true⟩ "m" ⟨"m.py"⟩ outline).references) = some [] := by
  decide +kernel

end Module

end Declarations
