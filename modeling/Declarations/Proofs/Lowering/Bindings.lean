/-
This file proves that the table of imports and the types of a module agree on what a name was
imported as. What the imports bind is said without the table and the map that lowering keeps:
they bind names to keys in an order, and the last key of a name counts. Every step of lowering
keeps the table and the map in step with that.
-/

import Declarations.Proofs.Lowering.LocalNames

namespace Declarations

/-! ### What imports bind -/

/-- The name that importing a module binds, and its key. Without another name for the module
that is its first part. -/
def ImportedName.asModule (imported : ImportedName) : String × String :=
  match imported.asName with
  | some other => (other, imported.name)
  | none => (Dotted.head imported.name, Dotted.head imported.name)

/-- The name that importing a member of a module binds, and its key; a star binds none. -/
def ImportedName.asMember? (base : String) (imported : ImportedName) : Option (String × String) :=
  if imported.name = "*" then none
  else some (imported.used,
    if base.isEmpty then imported.name else Dotted.below base imported.name)

/-- The names that an import binds with their keys, in order. One of future features binds
nothing. -/
def Import.bound (current : String) (isPackage : Bool) (entry : Import) :
    List (String × String) :=
  if entry.origin = "__future__" then []
  else
    match entry.kind with
    | .direct => entry.names.map (·.asModule)
    | .origin | .relative _ =>
      entry.names.filterMap (·.asMember? (absoluteModule current isPackage entry))

/-- The names that the imports of a file bind with their keys, in order. -/
def Outline.bound (name : String) (path : Path) (outline : Outline) : List (String × String) :=
  outline.imports.flatMap (·.bound name (path.stem? == some "__init__"))

/-- The full name of a module that is imported by it, which is its own key. The table keeps it
where it has a dot and lies outside the standard library. -/
def ImportedName.whole? (imported : ImportedName) : Option (String × String) :=
  if imported.asName = none ∧ '.' ∈ imported.name.toList ∧ isStandard imported.name = false then
    some (imported.name, imported.name)
  else none

/-- The names that an import lists in the table with their keys, in order: what it binds, and
full names of modules. -/
def Import.listed (current : String) (isPackage : Bool) (entry : Import) :
    List (String × String) :=
  if entry.origin = "__future__" then []
  else
    match entry.kind with
    | .direct => entry.names.flatMap fun imported => imported.whole?.toList ++ [imported.asModule]
    | .origin | .relative _ =>
      entry.names.filterMap (·.asMember? (absoluteModule current isPackage entry))

/-- The names that the imports of a file list in the table with their keys, in order. -/
def Outline.listed (name : String) (path : Path) (outline : Outline) : List (String × String) :=
  outline.imports.flatMap (·.listed name (path.stem? == some "__init__"))

/-- The key that a name was bound to last. -/
def lastKey? (bound : List (String × String)) (name : String) : Option String :=
  bound.reverse.lookup name

theorem mem_of_lastKey? {bound : List (String × String)} {name key : String}
    (last : lastKey? bound name = some key) : (name, key) ∈ bound := by
  obtain ⟨before, after, whole, -⟩ := List.lookup_eq_some_iff.1 last
  rw [← List.mem_reverse, whole]
  exact List.mem_append_right before List.mem_cons_self

theorem lastKey?_eq_none_iff {bound : List (String × String)} {name : String} :
    lastKey? bound name = none ↔ ∀ key, (name, key) ∉ bound := by
  rw [lastKey?, List.lookup_eq_none_iff]
  constructor
  · intro unbound key member
    simpa using unbound _ (List.mem_reverse.2 member)
  · rintro unbound ⟨other, key⟩ member
    refine bne_iff_ne.2 ?_
    rintro rfl
    exact unbound key (List.mem_reverse.1 member)

theorem exists_lastKey?_of_mem {bound : List (String × String)} {name key : String}
    (member : (name, key) ∈ bound) : ∃ last, lastKey? bound name = some last :=
  Option.ne_none_iff_exists'.1 fun none => lastKey?_eq_none_iff.1 none key member

theorem lastKey?_append (first second : List (String × String)) (name : String) :
    lastKey? (first ++ second) name = (lastKey? second name).or (lastKey? first name) := by
  rw [lastKey?, List.reverse_append, List.lookup_append, lastKey?, lastKey?]

theorem lastKey?_concat (bound : List (String × String)) (other key name : String) :
    lastKey? (bound ++ [(other, key)]) name =
      if name = other then some key else lastKey? bound name := by
  rw [lastKey?_append, lastKey?, List.reverse_singleton, List.lookup_cons]
  by_cases same : name = other
  · rw [if_pos same, beq_iff_eq.2 same, Option.some_or]
  · rw [if_neg same, beq_eq_false_iff_ne.2 same, List.lookup_nil, Option.none_or]

theorem lastKey?_flatMap_congr {α : Type} {items : List α} {name : String}
    {binds lists : α → List (String × String)}
    (alike : ∀ item ∈ items, lastKey? (lists item) name = lastKey? (binds item) name) :
    lastKey? (items.flatMap lists) name = lastKey? (items.flatMap binds) name := by
  induction items with
  | nil => rfl
  | cons first rest hypothesis =>
    rw [List.flatMap_cons, List.flatMap_cons, lastKey?_append, lastKey?_append,
      alike first List.mem_cons_self,
      hypothesis fun item member => alike item (List.mem_cons_of_mem _ member)]

/-- A name without dots is listed where it is bound, since it is no full name with a dot. -/
theorem lastKey?_listed_of_undotted (name : String) (path : Path) (outline : Outline)
    {word : String} (undotted : '.' ∉ word.toList) :
    lastKey? (outline.listed name path) word = lastKey? (outline.bound name path) word := by
  refine lastKey?_flatMap_congr fun entry _ => ?_
  unfold Import.listed Import.bound
  split
  · rfl
  · cases entry.kind with
    | direct =>
      rw [List.map_eq_flatMap]
      refine lastKey?_flatMap_congr fun imported _ => ?_
      rw [lastKey?_append]
      have unlisted : lastKey? imported.whole?.toList word = none := by
        unfold ImportedName.whole?
        split
        next whole =>
          refine (lastKey?_concat [] _ _ _).trans (if_neg ?_)
          rintro rfl
          exact undotted whole.2.1
        next => rfl
      rw [unlisted, Option.or_none]
    | origin | relative _ => rfl

/-! ### Keeping step -/

namespace ImportBindings

/-- The entries of a table for a name. -/
def entriesOf (table : List ImportedSymbol) (name : String) : List ImportedSymbol :=
  table.filter fun symbol => symbol.name == name

/-- The only entry that a table has for a name bound to a key: none for a key of the standard
library. -/
def entriesFor (name : String) : Option String → List ImportedSymbol
  | some key => if isStandard key then [] else [⟨name, .pending key⟩]
  | none => []

theorem length_entriesFor_le (name : String) (key : Option String) :
    (entriesFor name key).length ≤ 1 := by
  unfold entriesFor
  split
  · split <;> simp
  · simp

theorem mem_entriesFor_iff {name : String} {bound : Option String} {symbol : ImportedSymbol} :
    symbol ∈ entriesFor name bound ↔
      ∃ key, bound = some key ∧ isStandard key = false ∧ symbol = ⟨name, .pending key⟩ := by
  unfold entriesFor
  cases bound with
  | none => simp
  | some key => cases standard : isStandard key <;> simp [standard]

/-- Whether bindings are in step with the names bound and listed so far. The table also holds the
modules all of whose names are imported; nothing is said of these entries. -/
structure InStep (bindings : ImportBindings) (bound listed : List (String × String)) : Prop where
  keys : ∀ name, bindings.keys.get? name = lastKey? bound name
  table : ∀ name, name ≠ "*" →
    entriesOf bindings.table name = entriesFor name (lastKey? listed name)

variable {bindings : ImportBindings} {bound listed : List (String × String)}

theorem entriesOf_rebind_self (table : List ImportedSymbol) (name key : String) :
    entriesOf (rebind table name key) name = entriesFor name (some key) := by
  have gone : entriesOf (table.filter fun symbol => symbol.name != name) name = [] := by
    simp [entriesOf, List.filter_filter]
  unfold rebind entriesFor
  dsimp only
  split
  · exact gone
  · rw [entriesOf, List.filter_append, ← entriesOf, gone]
    simp

theorem entriesOf_rebind_other (table : List ImportedSymbol) {name other : String} (key : String)
    (different : name ≠ other) :
    entriesOf (rebind table other key) name = entriesOf table name := by
  have kept : entriesOf (table.filter fun symbol => symbol.name != other) name =
      entriesOf table name := by
    rw [entriesOf, List.filter_filter, entriesOf]
    refine List.filter_congr fun symbol _ => ?_
    by_cases named : symbol.name = name
    · simp [named, different]
    · simp [named]
  unfold rebind
  dsimp only
  split
  · exact kept
  · rw [entriesOf, List.filter_append, ← entriesOf, kept]
    simp [Ne.symm different]

namespace InStep

theorem empty : InStep empty [] [] where
  keys _ := rfl
  table _ _ := rfl

/-- Listing a name under a key changes the table alone. -/
theorem list (inStep : bindings.InStep bound listed) (other key : String) :
    InStep { bindings with table := rebind bindings.table other key } bound
      (listed ++ [(other, key)]) where
  keys := inStep.keys
  table name noStar := by
    rw [lastKey?_concat]
    split
    next same => rw [same]; exact entriesOf_rebind_self _ _ _
    next different =>
      rw [← inStep.table name noStar]
      exact entriesOf_rebind_other _ _ different

theorem bind (inStep : bindings.InStep bound listed) (other key : String) :
    InStep (bindings.bind other key) (bound ++ [(other, key)]) (listed ++ [(other, key)]) where
  keys name := by
    rw [lastKey?_concat]
    split
    next same => rw [same, ImportBindings.bind, NameMap.get?_insert_self]
    next different =>
      rw [ImportBindings.bind, NameMap.get?_insert_other _ _ different, inStep.keys]
  table := (inStep.list other key).table

theorem addModule (inStep : bindings.InStep bound listed) (imported : ImportedName) :
    InStep (bindings.addModule imported) (bound ++ [imported.asModule])
      (listed ++ (imported.whole?.toList ++ [imported.asModule])) := by
  rw [← List.append_assoc]
  unfold ImportBindings.addModule ImportedName.asModule ImportedName.whole?
  cases imported.asName with
  | some other =>
    simp only [reduceCtorEq, false_and, if_false, Option.toList_none, List.append_nil]
    exact inStep.bind other imported.name
  | none =>
    refine InStep.bind ?_ _ _
    simp only [List.contains_iff_mem, Bool.not_eq_true', true_and]
    split
    · exact inStep.list _ _
    · rwa [Option.toList_none, List.append_nil]

theorem addMember (inStep : bindings.InStep bound listed) (base : String)
    (imported : ImportedName) :
    InStep (bindings.addMember base imported) (bound ++ (imported.asMember? base).toList)
      (listed ++ (imported.asMember? base).toList) := by
  unfold ImportBindings.addMember ImportedName.asMember?
  split
  · rw [Option.toList_none, List.append_nil, List.append_nil]
    refine ⟨inStep.keys, fun name noStar => ?_⟩
    rw [← inStep.table name noStar]
    dsimp only
    split
    · rfl
    · simp [entriesOf, Ne.symm noStar]
  · exact inStep.bind _ _

theorem addModules (inStep : bindings.InStep bound listed) (names : List ImportedName) :
    InStep (names.foldl ImportBindings.addModule bindings) (bound ++ names.map (·.asModule))
      (listed ++ names.flatMap fun imported =>
        imported.whole?.toList ++ [imported.asModule]) := by
  induction names generalizing bindings bound listed with
  | nil => rwa [List.map_nil, List.flatMap_nil, List.append_nil, List.append_nil]
  | cons first rest hypothesis =>
    rw [List.map_cons, List.append_cons, List.flatMap_cons, ← List.append_assoc]
    exact hypothesis (inStep.addModule first)

theorem addMembers (inStep : bindings.InStep bound listed) (base : String)
    (names : List ImportedName) :
    InStep (names.foldl (fun bindings imported => bindings.addMember base imported) bindings)
      (bound ++ names.filterMap (·.asMember? base))
      (listed ++ names.filterMap (·.asMember? base)) := by
  induction names generalizing bindings bound listed with
  | nil => rwa [List.filterMap_nil, List.append_nil, List.append_nil]
  | cons first rest hypothesis =>
    have onward := hypothesis (inStep.addMember base first)
    rw [List.append_assoc, List.append_assoc] at onward
    rw [List.filterMap_cons]
    cases bound : first.asMember? base <;> rwa [bound] at onward

theorem add (inStep : bindings.InStep bound listed) (current : String) (isPackage : Bool)
    (entry : Import) :
    InStep (ImportBindings.add current isPackage bindings entry)
      (bound ++ entry.bound current isPackage) (listed ++ entry.listed current isPackage) := by
  unfold ImportBindings.add Import.bound Import.listed
  split
  · rwa [List.append_nil, List.append_nil]
  · cases entry.kind with
    | direct => exact inStep.addModules entry.names
    | origin | relative _ => exact inStep.addMembers _ entry.names

/-- After all imports of a file the bindings are in step with all that these bind and list. -/
theorem ofImports (current : String) (isPackage : Bool) (entries : List Import) :
    InStep (ImportBindings.ofImports current isPackage entries)
      (entries.flatMap (·.bound current isPackage))
      (entries.flatMap (·.listed current isPackage)) := by
  have run : ∀ {bindings bound listed}, InStep bindings bound listed →
      InStep (entries.foldl (ImportBindings.add current isPackage) bindings)
        (bound ++ entries.flatMap (·.bound current isPackage))
        (listed ++ entries.flatMap (·.listed current isPackage)) := by
    induction entries with
    | nil =>
      intro bindings bound listed inStep
      rwa [List.flatMap_nil, List.flatMap_nil, List.append_nil, List.append_nil]
    | cons first rest hypothesis =>
      intro bindings bound listed inStep
      rw [List.flatMap_cons, List.flatMap_cons, ← List.append_assoc, ← List.append_assoc]
      exact hypothesis (inStep.add current isPackage first)
  exact run InStep.empty

end InStep

end ImportBindings

/-! ### What bound names stand for -/

theorem isStandard_append_rest (key word : String) :
    isStandard (key ++ Dotted.afterHead word) = isStandard key := by
  rw [isStandard, Dotted.head_append_rest, ← isStandard]

/-- What lies in a module begins with the first part of its name. -/
theorem Dotted.head_of_stripScope? {scope name rest : String}
    (stripped : stripScope? scope name = some rest) : head name = head scope := by
  obtain ⟨tail, cut, -⟩ := Option.map_eq_some_iff.1 stripped
  have joined := List.isPrefixOf?_eq_some_iff_append_eq.1 cut
  rw [List.append_assoc] at joined
  rw [head, ← joined, List.singleton_append, takeWhile_append_dot, head]

/-- The modules of special forms belong to the standard library. -/
theorem isStandard_of_typingMember? {key member : String}
    (isMember : typingMember? key = some member) : isStandard key = true := by
  obtain ⟨module, among, stripped⟩ := List.exists_of_findSome?_eq_some isMember
  have standard : ∀ module ∈ typingModules, isStandard module = true := by decide
  rw [isStandard, Dotted.head_of_stripScope? stripped]
  exact standard module among

/-- A key is a reference exactly where it lies outside the standard library, which the builtins
and the modules of special forms belong to. -/
theorem Binding.ofKey_eq_key_iff {key other : String} :
    Binding.ofKey key = .key other ↔ other = key ∧ isStandard key = false := by
  unfold ofKey
  cases builtin : Dotted.stripScope? "builtins" key with
  | some name =>
    have standard : isStandard key = true := by
      rw [isStandard, Dotted.head_of_stripScope? builtin]
      decide
    simp [standard]
  | none =>
    cases form : typingMember? key with
    | some member =>
      rw [isStandard_of_typingMember? form]
      dsimp only
      split <;> simp
    | none =>
      dsimp only
      split
      next standard => simp [standard]
      next outside =>
        rw [Binding.key.injEq, Bool.not_eq_true] at *
        exact ⟨fun same => ⟨same.symm, outside⟩, fun both => both.1.symm⟩

namespace LoweringContext

/-- A name whose first part no scope declares is bound by what that part was imported as. -/
theorem bind_of_imported {context : LoweringContext} {word key : String}
    (undeclared : ∀ scope ∈ context.scopes, Dotted.head word ∉ scope.names)
    (imported : context.bindings.keys.get? (Dotted.head word) = some key) :
    context.bind word = .ofKey (key ++ Dotted.afterHead word) := by
  have none : (context.scopes.find? fun scope => scope.names.contains (Dotted.head word)) =
      none :=
    List.find?_eq_none.2 fun scope member => by simpa using undeclared scope member
  unfold bind
  dsimp only
  rw [none, imported]

section

variable {context : LoweringContext} {word key : String}
  (bound : context.bind word = .ofKey (key ++ Dotted.afterHead word))

include bound

theorem bind_eq_key (outside : isStandard key = false) :
    context.bind word = .key (key ++ Dotted.afterHead word) := by
  rw [bound]
  exact Binding.ofKey_eq_key_iff.2 ⟨rfl, (isStandard_append_rest key word).trans outside⟩

theorem bind_ne_key (standard : isStandard key = true) (other : String) :
    context.bind word ≠ .key other := by
  intro isKey
  have outside := (Binding.ofKey_eq_key_iff.1 (bound.symm.trans isKey)).2
  rw [isStandard_append_rest, standard] at outside
  cases outside

end

/-- A name that stands for no key makes no reference. -/
theorem references_typeOf_name {context : LoweringContext} {name : String}
    (unkeyed : ∀ key, context.bind name ≠ .key key) :
    (context.typeOf (.name name)).references = [] :=
  List.eq_nil_iff_forall_not_mem.2 fun reference member => not_makes_nil reference
    ((makes_cons_iff unkeyed).1 ((reads_nameType name reference).1 member))

section

variable {context : LoweringContext} {name key : String}

theorem typeOf_name_of_key (bound : context.bind name = .key key) :
    context.typeOf (.name name) = .toKey key := by
  rw [typeOf, nameType, bound]

theorem typeOf_quoted_of_key (bound : context.bind name = .key key)
    (isName : Dotted.isName name = true) : context.typeOf (.quoted name) = .toKey key := by
  rw [typeOf, if_pos isName, nameType, bound]

theorem typeOf_subscript_of_key (bound : context.bind name = .key key)
    (arguments : List TypeHint) :
    context.typeOf (.subscript name arguments) =
      .named (.pending key) (context.typesOf arguments) := by
  rw [typeOf, bound]

end

end LoweringContext

namespace Module

section

variable (options : LoweringOptions) (name : String) (path : Path) (outline : Outline)

theorem inStep_contextOf :
    (contextOf options name path outline).bindings.InStep (outline.bound name path)
      (outline.listed name path) :=
  ImportBindings.InStep.ofImports _ _ _

/-- The entries of a module for a name are those for the key under which it was listed last. -/
theorem filter_imports_ofOutline {word : String} (noStar : word ≠ "*") :
    ((ofOutline options name path outline).imports.filter fun symbol => symbol.name == word) =
      ImportBindings.entriesFor word (lastKey? (outline.listed name path) word) := by
  rw [imports_ofOutline]
  exact (inStep_contextOf options name path outline).table word noStar

/-- A module has at most one entry for a name. -/
theorem length_filter_imports_le {word : String} (noStar : word ≠ "*") :
    ((ofOutline options name path outline).imports.filter fun symbol =>
      symbol.name == word).length ≤ 1 := by
  rw [filter_imports_ofOutline options name path outline noStar]
  exact ImportBindings.length_entriesFor_le _ _

/-- A module has an entry for a name where this was listed last under a key outside the standard
library. -/
theorem mem_imports_ofOutline_iff {word : String} (noStar : word ≠ "*") (target : Reference) :
    ⟨word, target⟩ ∈ (ofOutline options name path outline).imports ↔
      ∃ key, lastKey? (outline.listed name path) word = some key ∧ isStandard key = false ∧
        target = .pending key := by
  have member : ⟨word, target⟩ ∈ (ofOutline options name path outline).imports ↔
      ⟨word, target⟩ ∈ (ofOutline options name path outline).imports.filter fun symbol =>
        symbol.name == word := by
    rw [List.mem_filter, and_iff_left (beq_self_eq_true word)]
  rw [member, filter_imports_ofOutline options name path outline noStar,
    ImportBindings.mem_entriesFor_iff]
  simp only [ImportedSymbol.mk.injEq, true_and]

end

/-- Where all entries of a name are at most one, that one is found. -/
theorem imported?_eq_some_iff {module : Module} {word : String}
    (once : (module.imports.filter fun symbol => symbol.name == word).length ≤ 1)
    {symbol : ImportedSymbol} :
    module.imported? word = some symbol ↔ symbol ∈ module.imports ∧ symbol.name = word := by
  have member : symbol ∈ module.imports ∧ symbol.name = word ↔
      symbol ∈ module.imports.filter fun symbol => symbol.name == word := by
    rw [List.mem_filter, beq_iff_eq]
  rw [member, imported?, ← List.head?_filter]
  generalize (module.imports.filter fun symbol => symbol.name == word) = entries at once
  match entries, once with
  | [], _ => simp
  | [entry], _ => simp [eq_comm]

/-- The table of imports and the types of a module agree on every name without dots. The table
has one entry for it where the last import that binds it binds it to a key outside the standard
library, and no other entry. With a name whose first part it is, and which no scope around a
site declares, a type refers to that key with the rest of the name behind it; where the key lies
in the standard library, no reference is made from the name. -/
theorem imports_agree_with_types (options : LoweringOptions) (name : String) (path : Path)
    (outline : Outline) {word : String} (undotted : '.' ∉ word.toList) (noStar : word ≠ "*") :
    let module := ofOutline options name path outline
    let context := contextOf options name path outline
    let last := lastKey? (outline.bound name path) word
    (module.imports.filter fun symbol => symbol.name == word).length ≤ 1 ∧
    (∀ target, ⟨word, target⟩ ∈ module.imports ↔
      ∃ key, last = some key ∧ isStandard key = false ∧ target = .pending key) ∧
    (∀ symbol, module.imported? word = some symbol ↔
      symbol ∈ module.imports ∧ symbol.name = word) ∧
    ∀ key, last = some key → ∀ site ∈ Site.ofOutline name outline,
      (∀ scope ∈ site.scopes, word ∉ scope.names) →
      ∀ longer, Dotted.head longer = word →
        (isStandard key = false →
          (context.within site).typeOf (.name longer) =
            .toKey (key ++ Dotted.afterHead longer) ∧
          (Dotted.isName longer = true → (context.within site).typeOf (.quoted longer) =
            .toKey (key ++ Dotted.afterHead longer)) ∧
          (∀ arguments, (context.within site).typeOf (.subscript longer arguments) =
            .named (.pending (key ++ Dotted.afterHead longer))
              ((context.within site).typesOf arguments)) ∧
          (longer ∈ context.namesAt site → ∃ declaration ∈ module.declarations,
            declaration.toDeclarationBody = context.declared site ∧
            .pending (key ++ Dotted.afterHead longer) ∈ declaration.kind.references)) ∧
        (isStandard key = true →
          ((context.within site).typeOf (.name longer)).references = [] ∧
          ∀ declaration ∈ module.declarations,
            declaration.toDeclarationBody = context.declared site →
              ∀ reference ∈ declaration.kind.references, ∃ other ∈ context.namesAt site,
                other ≠ longer ∧ (context.within site).Makes [other] reference) := by
  intro module context last
  have once : (module.imports.filter fun symbol => symbol.name == word).length ≤ 1 :=
    length_filter_imports_le options name path outline noStar
  refine ⟨once, fun target => ?_, fun symbol => imported?_eq_some_iff once,
    fun key bound site isSite undeclared longer headed => ?_⟩
  · rw [mem_imports_ofOutline_iff options name path outline noStar,
      lastKey?_listed_of_undotted name path outline undotted]
  have key_eq : context.bindings.keys.get? (Dotted.head longer) = some key := by
    rw [headed, ← bound]
    exact (inStep_contextOf options name path outline).keys word
  have bind_eq : (context.within site).bind longer = .ofKey (key ++ Dotted.afterHead longer) :=
    LoweringContext.bind_of_imported (headed.symm ▸ undeclared) key_eq
  refine ⟨fun outside => ?_, fun standard => ?_⟩
  · have isKey := LoweringContext.bind_eq_key bind_eq outside
    refine ⟨LoweringContext.typeOf_name_of_key isKey, LoweringContext.typeOf_quoted_of_key isKey,
      LoweringContext.typeOf_subscript_of_key isKey, fun met => ?_⟩
    have there : ∃ declaration ∈ module.declarations,
        declaration.toDeclarationBody = context.declared site := exists_declaration_of_site isSite
    obtain ⟨declaration, member, isOwn⟩ := there
    refine ⟨declaration, member, isOwn, ?_⟩
    rw [isOwn]
    exact (context.mem_references_declared site _).2 ⟨longer, met, _, isKey, rfl⟩
  · have unkeyed := LoweringContext.bind_ne_key bind_eq standard
    refine ⟨LoweringContext.references_typeOf_name unkeyed,
      fun declaration _ isOwn reference refers => ?_⟩
    rw [isOwn, context.mem_references_declared] at refers
    obtain ⟨other, met, otherKey, otherBound, same⟩ := refers
    exact ⟨other, met, fun isSame => unkeyed otherKey (isSame ▸ otherBound),
      LoweringContext.makes_singleton_iff.2 ⟨otherKey, otherBound, same⟩⟩

/-- A function with a parameter and a result that are typed with imported names. -/
def pageTurner : Item :=
  .function ⟨"turn", none, [⟨"way", some (.name "enum.Enum"), none, .regular⟩],
    some (.name "pages.Page"), [], false, 5, 6⟩

/-- The function in a file that binds one of the names twice, first to the standard library, and
the other to the standard library. -/
def reboundPages : Outline :=
  ⟨none,
    [⟨"os", [⟨"path", some "pages"⟩], .origin, 1⟩, ⟨"books", [⟨"pages", none⟩], .origin, 2⟩,
      ⟨"enum", [⟨"enum", none⟩], .direct, 3⟩],
    [pageTurner]⟩

/-- The result refers to the later of the two modules, and nothing refers to the standard
library. -/
theorem imports_agree_with_types_rebound :
    let module := ofOutline ⟨true, true, true⟩ "shelf" ⟨"shelf.py"⟩ reboundPages
    let context := contextOf ⟨true, true, true⟩ "shelf" ⟨"shelf.py"⟩ reboundPages
    ∃ site ∈ Site.ofOutline "shelf" reboundPages,
      ('.' ∉ "pages".toList ∧ "pages" ≠ "*" ∧
        module.imported? "pages" = some ⟨"pages", .pending "books.pages"⟩ ∧
        ∃ declaration ∈ module.declarations,
          .pending "books.pages.Page" ∈ declaration.kind.references) ∧
      ('.' ∉ "enum".toList ∧ "enum" ≠ "*" ∧
        (∀ target, ⟨"enum", target⟩ ∉ module.imports) ∧
        ((context.within site).typeOf (.name "enum.Enum")).references = []) := by
  intro module context
  let own : Scope := Scope.ofItems "shelf" [pageTurner]
  let site : Site := ⟨pageTurner, own, []⟩
  have isSite : site ∈ Site.ofOutline "shelf" reboundPages := List.mem_singleton_self site
  have undotted : '.' ∉ "pages".toList ∧ '.' ∉ "enum".toList := by decide
  have noStar : "pages" ≠ "*" ∧ "enum" ≠ "*" := by decide
  have last : lastKey? (reboundPages.bound "shelf" ⟨"shelf.py"⟩) "pages" = some "books.pages" ∧
      lastKey? (reboundPages.bound "shelf" ⟨"shelf.py"⟩) "enum" = some "enum" := by
    decide +kernel
  have outside : isStandard "books.pages" = false := by decide
  have standard : isStandard "enum" = true := by decide
  have undeclared : (∀ scope ∈ site.scopes, "pages" ∉ scope.names) ∧
      ∀ scope ∈ site.scopes, "enum" ∉ scope.names := by
    simp [site, Site.scopes, own, Scope.ofItems, pageTurner, Item.name]
  have met : "pages.Page" ∈ context.namesAt site := by decide +kernel
  obtain ⟨-, entry, found, refers⟩ :=
    imports_agree_with_types ⟨true, true, true⟩ "shelf" ⟨"shelf.py"⟩ reboundPages undotted.1
      noStar.1
  obtain ⟨-, noEntry, -, vain⟩ :=
    imports_agree_with_types ⟨true, true, true⟩ "shelf" ⟨"shelf.py"⟩ reboundPages undotted.2
      noStar.2
  obtain ⟨keyed, -⟩ := refers _ last.1 site isSite undeclared.1 "pages.Page" (by decide)
  obtain ⟨-, -, -, there⟩ := keyed outside
  obtain ⟨declaration, member, -, isReference⟩ := there met
  obtain ⟨-, unkeyed⟩ := vain _ last.2 site isSite undeclared.2 "enum.Enum" (by decide)
  have key : "books.pages" ++ Dotted.afterHead "pages.Page" = "books.pages.Page" := by decide
  refine ⟨site, isSite, ⟨undotted.1, noStar.1, (found _).2 ⟨?_, rfl⟩, declaration, member,
    key ▸ isReference⟩, undotted.2, noStar.2, fun target inside => ?_, (unkeyed standard).1⟩
  · exact (entry _).2 ⟨_, last.1, outside, rfl⟩
  · obtain ⟨key, isLast, isOutside, -⟩ := (noEntry target).1 inside
    rw [Option.some.inj (isLast.symm.trans last.2), standard] at isOutside
    cases isOutside

end Module

end Declarations
