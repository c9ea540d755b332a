/-
This file proves that the docstrings of a file and its declarations agree. Both name what is
defined in the file by the definitions around it, but the docstrings are collected from all
blocks, and the declarations only from those that lowering looks into. So every documented
declaration is one of the definitions that the docstrings are collected from, under the same
name, and has the same docstring unless another definition takes the name.
-/

import Declarations.Docstring.OfFile
import Declarations.Proofs.Lowering.Fresh
import Declarations.Proofs.Lowering.Sites
import Declarations.Proofs.NameMap
import Declarations.Proofs.Text.Dotted

namespace Declarations

namespace Docstring

open Source

/-! ### Definitions -/

mutual

/-- The classes and functions that a statement defines anywhere in it, each with its body. The name
of one starts with the scope that the statement stands in and has the names of all classes and
functions around it. -/
def definitionsOf (scope : String) : Stmt → List (String × List Stmt)
  | .classDef header body =>
    (Dotted.below scope header.name, body) ::
      definitionsOfBody (Dotted.below scope header.name) body
  | .function header body =>
    (Dotted.below scope header.name, body) ::
      definitionsOfBody (Dotted.below scope header.name) body
  | .clauses blocks | .loop blocks => definitionsOfBlocks scope blocks
  | .importing _ _ | .importingFrom _ _ _ _ | .expression _ | .assignment _ _ _ _
  | .typeAlias _ _ | .other => []

/-- The definitions in a body. -/
def definitionsOfBody (scope : String) : List Stmt → List (String × List Stmt)
  | [] => []
  | statement :: rest => definitionsOf scope statement ++ definitionsOfBody scope rest

/-- The definitions in clauses. -/
def definitionsOfBlocks (scope : String) : List (List Stmt) → List (String × List Stmt)
  | [] => []
  | block :: rest => definitionsOfBody scope block ++ definitionsOfBlocks scope rest

end

/-- The entry of a definition. -/
def entryOf (definition : String × List Stmt) : List (String × String) :=
  entry definition.1 definition.2

mutual

/-- The docstrings in a statement are those of its definitions. -/
theorem entriesOf_eq (scope : String) : (statement : Stmt) →
    entriesOf scope statement = (definitionsOf scope statement).flatMap entryOf
  | .classDef header body => by
    rw [entriesOf, definitionsOf, List.flatMap_cons, entriesOfBody_eq _ body, entryOf]
  | .function header body => by
    rw [entriesOf, definitionsOf, List.flatMap_cons, entriesOfBody_eq _ body, entryOf]
  | .clauses blocks => by rw [entriesOf, definitionsOf, entriesOfBlocks_eq scope blocks]
  | .loop blocks => by rw [entriesOf, definitionsOf, entriesOfBlocks_eq scope blocks]
  | .importing _ _ | .importingFrom _ _ _ _ | .expression _ | .assignment _ _ _ _
  | .typeAlias _ _ | .other => rfl

theorem entriesOfBody_eq (scope : String) : (body : List Stmt) →
    entriesOfBody scope body = (definitionsOfBody scope body).flatMap entryOf
  | [] => rfl
  | statement :: rest => by
    rw [entriesOfBody, definitionsOfBody, List.flatMap_append, entriesOf_eq scope statement,
      entriesOfBody_eq scope rest]

theorem entriesOfBlocks_eq (scope : String) : (blocks : List (List Stmt)) →
    entriesOfBlocks scope blocks = (definitionsOfBlocks scope blocks).flatMap entryOf
  | [] => rfl
  | block :: rest => by
    rw [entriesOfBlocks, definitionsOfBlocks, List.flatMap_append, entriesOfBody_eq scope block,
      entriesOfBlocks_eq scope rest]

end

/-- A body has an entry where it has a docstring that is not empty. -/
theorem mem_entry_iff {name other text : String} {body : List Stmt} :
    (other, text) ∈ entry name body ↔
      other = name ∧ docstring? body = some text ∧ text ≠ "" := by
  unfold entry
  cases docstring? body with
  | none => simp
  | some found =>
    dsimp only
    split
    next empty =>
      rw [String.isEmpty_iff] at empty
      simp [empty]
    next filled =>
      rw [String.isEmpty_iff] at filled
      rw [List.mem_singleton, Prod.mk.injEq, Option.some_inj]
      constructor
      · rintro ⟨rfl, rfl⟩
        exact ⟨rfl, rfl, filled⟩
      · rintro ⟨rfl, rfl, -⟩
        exact ⟨rfl, rfl⟩

/-- The docstrings of a module are its own and those of its definitions. -/
theorem mem_entries_iff {module name text : String} {body : List Stmt} :
    (name, text) ∈ entry module body ++ entriesOfBody module body ↔
      text ≠ "" ∧ ((name = module ∧ docstring? body = some text) ∨
        ∃ inner, (name, inner) ∈ definitionsOfBody module body ∧
          docstring? inner = some text) := by
  rw [entriesOfBody_eq, List.mem_append, mem_entry_iff, List.mem_flatMap]
  constructor
  · rintro (⟨named, own, filled⟩ | ⟨⟨_, inner⟩, member, among⟩)
    · exact ⟨filled, .inl ⟨named, own⟩⟩
    · obtain ⟨rfl, documented, filled⟩ := mem_entry_iff.1 among
      exact ⟨filled, .inr ⟨inner, member, documented⟩⟩
  · rintro ⟨filled, ⟨named, own⟩ | ⟨inner, member, documented⟩⟩
    · exact .inl ⟨named, own, filled⟩
    · exact .inr ⟨(name, inner), member, mem_entry_iff.2 ⟨rfl, documented, filled⟩⟩

mutual

/-- The name of a definition comes after that of the scope. -/
theorem lt_of_mem_definitionsOf {scope name : String} {inner : List Stmt} :
    (statement : Stmt) → (name, inner) ∈ definitionsOf scope statement → scope < name
  | .classDef header body, member => by
    rw [definitionsOf, List.mem_cons] at member
    rcases member with same | within
    · exact (Prod.mk.inj same).1 ▸ Dotted.lt_below scope header.name
    · exact String.lt_trans (Dotted.lt_below scope header.name)
        (lt_of_mem_definitionsOfBody body within)
  | .function header body, member => by
    rw [definitionsOf, List.mem_cons] at member
    rcases member with same | within
    · exact (Prod.mk.inj same).1 ▸ Dotted.lt_below scope header.name
    · exact String.lt_trans (Dotted.lt_below scope header.name)
        (lt_of_mem_definitionsOfBody body within)
  | .clauses blocks, member => lt_of_mem_definitionsOfBlocks blocks member
  | .loop blocks, member => lt_of_mem_definitionsOfBlocks blocks member
  | .importing _ _, member | .importingFrom _ _ _ _, member | .expression _, member
  | .assignment _ _ _ _, member | .typeAlias _ _, member | .other, member => nomatch member

theorem lt_of_mem_definitionsOfBody {scope name : String} {inner : List Stmt} :
    (body : List Stmt) → (name, inner) ∈ definitionsOfBody scope body → scope < name
  | [], member => nomatch member
  | statement :: rest, member =>
    (List.mem_append.1 member).elim (lt_of_mem_definitionsOf statement)
      (lt_of_mem_definitionsOfBody rest)

theorem lt_of_mem_definitionsOfBlocks {scope name : String} {inner : List Stmt} :
    (blocks : List (List Stmt)) → (name, inner) ∈ definitionsOfBlocks scope blocks → scope < name
  | [], member => nomatch member
  | block :: rest, member =>
    (List.mem_append.1 member).elim (lt_of_mem_definitionsOfBody block)
      (lt_of_mem_definitionsOfBlocks rest)

end

/-! ### Documented items -/

/-- The docstring that an item is written with. -/
def written? : Item → Option String
  | .classDef header _ => header.docstring
  | .function outline => outline.docstring
  | .assignment _ | .typeAlias _ _ _ => none

theorem docstring_declared (context : LoweringContext) (site : Site) :
    (context.declared site).docstring = context.documented (written? site.item) := by
  obtain ⟨item, own, outer⟩ := site
  have kept : context.documented none = none := ite_self none
  cases item with
  | classDef _ _ | function _ => rfl
  | assignment _ | typeAlias _ _ _ => exact kept.symm

/-- Whether a documented site is one of some definitions: it has the name of one, and the
docstring of its body. -/
def IsAmong (definitions : List (String × List Stmt)) (site : Site) : Prop :=
  ∀ text, written? site.item = some text →
    ∃ body, (site.fullname, body) ∈ definitions ∧ docstring? body = some text

theorem IsAmong.mono {definitions others : List (String × List Stmt)} {site : Site}
    (among : IsAmong definitions site) (more : definitions ⊆ others) : IsAmong others site := by
  intro text isWritten
  obtain ⟨body, member, documented⟩ := among text isWritten
  exact ⟨body, more member, documented⟩

mutual

/-- The sites in a statement are among its definitions. -/
theorem isAmong_itemsOf {own : Scope} {outer : List Scope} {item : Item} {site : Site} :
    (statement : Stmt) → item ∈ itemsOf statement → site ∈ Site.ofItem own outer item →
      IsAmong (definitionsOf own.path statement) site
  | .classDef header body, member, inside => by
    rw [itemsOf, List.mem_singleton] at member
    rw [member, Site.ofItem, List.mem_cons] at inside
    rcases inside with rfl | within
    · exact fun text isWritten => ⟨body, List.mem_cons_self, isWritten⟩
    · obtain ⟨inner, innerMember, innerInside⟩ := Site.mem_ofItem_of_mem_ofItems within
      exact (isAmong_itemsOfBody body innerMember innerInside).mono (List.subset_cons_self _ _)
  | .function header body, member, inside => by
    rw [itemsOf, List.mem_singleton] at member
    rw [member, Site.ofItem, List.mem_singleton] at inside
    subst inside
    exact fun text isWritten => ⟨body, List.mem_cons_self, isWritten⟩
  | .assignment target hint value line, member, inside => by
    rw [itemsOf, List.mem_map] at member
    obtain ⟨outline, -, rfl⟩ := member
    rw [Site.ofItem, List.mem_singleton] at inside
    subst inside
    exact fun text isWritten => nomatch isWritten
  | .typeAlias parts line, member, inside => by
    rw [itemsOf, List.mem_map] at member
    obtain ⟨⟨name, value⟩, -, rfl⟩ := member
    rw [Site.ofItem, List.mem_singleton] at inside
    subst inside
    exact fun text isWritten => nomatch isWritten
  | .clauses blocks, member, inside => isAmong_itemsOfBlocks blocks member inside
  | .importing _ _, member, _ | .importingFrom _ _ _ _, member, _ | .expression _, member, _
  | .loop _, member, _ | .other, member, _ => nomatch member

theorem isAmong_itemsOfBody {own : Scope} {outer : List Scope} {item : Item} {site : Site} :
    (body : List Stmt) → item ∈ itemsOfBody body → site ∈ Site.ofItem own outer item →
      IsAmong (definitionsOfBody own.path body) site
  | [], member, _ => nomatch member
  | statement :: rest, member, inside => by
    rcases List.mem_append.1 member with here | later
    · exact (isAmong_itemsOf statement here inside).mono (List.subset_append_left _ _)
    · exact (isAmong_itemsOfBody rest later inside).mono (List.subset_append_right _ _)

theorem isAmong_itemsOfBlocks {own : Scope} {outer : List Scope} {item : Item} {site : Site} :
    (blocks : List (List Stmt)) → item ∈ itemsOfBlocks blocks → site ∈ Site.ofItem own outer item →
      IsAmong (definitionsOfBlocks own.path blocks) site
  | [], member, _ => nomatch member
  | block :: rest, member, inside => by
    rcases List.mem_append.1 member with here | later
    · exact (isAmong_itemsOfBody block here inside).mono (List.subset_append_left _ _)
    · exact (isAmong_itemsOfBlocks rest later inside).mono (List.subset_append_right _ _)

end

/-- A documented declaration of a file is one of its definitions. -/
theorem exists_definition {options : LoweringOptions} {name : String} {path : Path}
    {body : List Stmt} {declaration : Declaration} {text : String}
    (member : declaration ∈ (Module.ofOutline options name path (.ofBody body)).declarations)
    (documented : declaration.docstring = some text) :
    ∃ inner, (declaration.fullname, inner) ∈ definitionsOfBody name body ∧
      docstring? inner = some text := by
  obtain ⟨site, isSite, same⟩ := Module.exists_site_of_mem member
  obtain ⟨item, isItem, inside⟩ := Site.mem_ofItem_of_mem_ofItems isSite
  have isWritten : written? site.item = some text := by
    rw [← same, docstring_declared, LoweringContext.documented] at documented
    split at documented
    · exact documented
    · cases documented
  have named : declaration.fullname = site.fullname := by
    rw [← same, LoweringContext.fullname_declared]
  rw [named]
  exact isAmong_itemsOfBody body isItem inside text isWritten

/-! ### Agreement -/

/-- Of definitions whose name no other has there is one. -/
theorem eq_of_count_le_one {definitions : List (String × List Stmt)} {name : String}
    {first second : List Stmt} (single : (definitions.map (·.1)).count name ≤ 1)
    (isFirst : (name, first) ∈ definitions) (isSecond : (name, second) ∈ definitions) :
    first = second := by
  rw [List.count, List.countP_map, List.countP_eq_length_filter] at single
  have named {body : List Stmt} (member : (name, body) ∈ definitions) :
      (name, body) ∈ definitions.filter ((· == name) ∘ (·.1)) :=
    List.mem_filter.2 ⟨member, beq_self_eq_true name⟩
  obtain ⟨only, same⟩ : ∃ only, definitions.filter ((· == name) ∘ (·.1)) = [only] :=
    List.length_eq_one_iff.1 (Nat.le_antisymm single (List.length_pos_of_mem (named isFirst)))
  have isFirst := named isFirst
  have isSecond := named isSecond
  rw [same, List.mem_singleton] at isFirst isSecond
  exact (Prod.mk.inj (isFirst.trans isSecond.symm)).2

/-- The docstrings of a file are collected for the module and for definitions in it. -/
theorem of_get?_index {module name text : String} {body : List Stmt}
    (found : (index module body).get? name = some text) :
    text ≠ "" ∧ ((name = module ∧ docstring? body = some text) ∨
      ∃ inner, (name, inner) ∈ definitionsOfBody module body ∧ docstring? inner = some text) :=
  mem_entries_iff.1 (NameMap.mem_of_get?_ofList found)

theorem contains_index {module name text : String} {body : List Stmt} (filled : text ≠ "")
    (named : (name = module ∧ docstring? body = some text) ∨
      ∃ inner, (name, inner) ∈ definitionsOfBody module body ∧ docstring? inner = some text) :
    (index module body).contains name = true :=
  NameMap.contains_ofList (mem_entries_iff.2 ⟨filled, named⟩)

/-- No definition has the name of the module, so its own docstring stands. -/
theorem get?_index_module {module text : String} {body : List Stmt} (filled : text ≠ "")
    (own : docstring? body = some text) : (index module body).get? module = some text := by
  obtain ⟨other, found⟩ :=
    Option.isSome_iff_exists.1 (contains_index filled (.inl ⟨rfl, own⟩))
  rcases (of_get?_index found).2 with ⟨-, same⟩ | ⟨inner, member, -⟩
  · rw [found, ← same, own]
  · exact absurd (lt_of_mem_definitionsOfBody body member) (String.lt_irrefl module)

/-- A definition whose name no other has keeps its docstring. -/
theorem get?_index_definition {module name text : String} {body inner : List Stmt}
    (filled : text ≠ "") (member : (name, inner) ∈ definitionsOfBody module body)
    (own : docstring? inner = some text)
    (single : ((definitionsOfBody module body).map (·.1)).count name ≤ 1) :
    (index module body).get? name = some text := by
  obtain ⟨other, found⟩ :=
    Option.isSome_iff_exists.1 (contains_index filled (.inr ⟨inner, member, own⟩))
  rcases (of_get?_index found).2 with ⟨rfl, -⟩ | ⟨another, anotherMember, same⟩
  · exact absurd (lt_of_mem_definitionsOfBody body member) (String.lt_irrefl name)
  · rw [eq_of_count_le_one single anotherMember member] at same
    rw [found, ← same, own]

theorem ofText_of_parse {path : Path} {module text : String} {body : List Stmt}
    (parsed : Source.parse text = .ok body) :
    ofText path module text = .ok (index module body) := by
  delta ofText
  rw [parsed]

theorem lower_of_parse {options : LoweringOptions} {path : Path} {module text : String}
    {body : List Stmt} (parsed : Source.parse text = .ok body) :
    (Origin.mk path options text).lower module =
      .ok (.ofOutline options module path (.ofBody body)) := by
  delta Origin.lower Outline.read
  rw [parsed]
  rfl

/-- The docstrings of a file that can be read and the declarations of its module agree. -/
theorem index_agrees (options : LoweringOptions) (module : String) (path : Path) (text : String)
    (documented : options.includeDocstrings = true) (valid : (Source.parse text).isOk = true) :
    ∃ body docstrings lowered, Source.parse text = .ok body ∧
      ofText path module text = .ok docstrings ∧
      (Origin.mk path options text).lower module = .ok lowered ∧
      (∀ docstring, lowered.docstring = some docstring → docstring ≠ "" →
        docstrings.get? module = some docstring) ∧
      (∀ declaration ∈ lowered.declarations, ∀ docstring,
        declaration.docstring = some docstring → docstring ≠ "" →
          docstrings.contains declaration.fullname = true ∧
            (((definitionsOfBody module body).map (·.1)).count declaration.fullname ≤ 1 →
              docstrings.get? declaration.fullname = some docstring)) ∧
      ∀ name docstring, docstrings.get? name = some docstring →
        docstring ≠ "" ∧ (name = module ∨ name ∈ (definitionsOfBody module body).map (·.1)) := by
  cases parsed : Source.parse text with
  | error line =>
    rw [parsed] at valid
    cases valid
  | ok body =>
    refine ⟨body, index module body, .ofOutline options module path (.ofBody body), rfl, ?_, ?_,
      fun docstring own filled => ?_, fun declaration member docstring own filled => ?_,
      fun name docstring found => ?_⟩
    · exact ofText_of_parse parsed
    · exact lower_of_parse parsed
    · rw [Module.docstring_ofOutline, if_pos documented] at own
      exact get?_index_module filled own
    · obtain ⟨inner, defined, isIts⟩ := exists_definition member own
      exact ⟨contains_index filled (.inr ⟨inner, defined, isIts⟩),
        get?_index_definition filled defined isIts⟩
    · obtain ⟨filled, ⟨named, -⟩ | ⟨inner, defined, -⟩⟩ := of_get?_index found
      · exact ⟨filled, .inl named⟩
      · exact ⟨filled, .inr (List.mem_map_of_mem defined)⟩

/-- A class in a branch, and another of the same name in a loop. -/
def shelfText : String :=
  "'Shelves'\nif 1:\n class Book:\n  'One'\n  def open():\n   'Opens'\nwhile 1:\n class Book:\n  'Other'\n"

/-- The second class is no declaration, but its docstring takes the name. -/
theorem index_agrees_shelf :
    (Source.parse shelfText).isOk = true ∧
      ∃ docstrings lowered, ofText ⟨"shelf.py"⟩ "shelf" shelfText = .ok docstrings ∧
        (Origin.mk ⟨"shelf.py"⟩ ⟨true, true, true⟩ shelfText).lower "shelf" = .ok lowered ∧
        lowered.docstring = some "Shelves" ∧ docstrings.get? "shelf" = some "Shelves" ∧
        (lowered.declarations.map fun declaration =>
          (declaration.fullname, declaration.docstring)) =
            [("shelf.Book", some "One"), ("shelf.Book.open", some "Opens")] ∧
        docstrings.contains "shelf.Book" = true ∧
        docstrings.get? "shelf.Book" = some "Other" ∧
        docstrings.get? "shelf.Book.open" = some "Opens" := by
  have valid : (Source.parse shelfText).isOk = true := by decide +kernel
  obtain ⟨body, docstrings, lowered, parsed, collected, isLowered, own, inner, -⟩ :=
    index_agrees ⟨true, true, true⟩ "shelf" ⟨"shelf.py"⟩ shelfText rfl valid
  have isIndex : docstrings = index "shelf" body :=
    Except.ok.inj (collected.symm.trans (ofText_of_parse parsed))
  have isModule : lowered = .ofOutline ⟨true, true, true⟩ "shelf" ⟨"shelf.py"⟩ (.ofBody body) :=
    Except.ok.inj (isLowered.symm.trans (lower_of_parse parsed))
  have shown : (Source.parse shelfText).toOption.all fun body =>
      let lowered :=
        Module.ofOutline ⟨true, true, true⟩ "shelf" ⟨"shelf.py"⟩ (.ofBody body)
      lowered.docstring = some "Shelves" ∧
        (lowered.declarations.map fun declaration =>
          (declaration.fullname, declaration.docstring)) =
            [("shelf.Book", some "One"), ("shelf.Book.open", some "Opens")] ∧
        (index "shelf" body).get? "shelf.Book" = some "Other" ∧
        ((definitionsOfBody "shelf" body).map (·.1)).count "shelf.Book.open" ≤ 1 := by
    decide +kernel
  rw [parsed] at shown
  obtain ⟨ofModule, ofDeclarations, later, single⟩ := of_decide_eq_true shown
  rw [← isModule] at ofModule ofDeclarations
  have declared {name text : String} (member : (name, some text) ∈
      lowered.declarations.map fun declaration =>
        (declaration.fullname, declaration.docstring)) :
      ∃ declaration ∈ lowered.declarations,
        declaration.fullname = name ∧ declaration.docstring = some text := by
    obtain ⟨declaration, among, same⟩ := List.mem_map.1 member
    exact ⟨declaration, among, (Prod.mk.inj same).1, (Prod.mk.inj same).2⟩
  obtain ⟨book, isBook, bookNamed, bookDocumented⟩ :=
    declared (ofDeclarations ▸ List.mem_cons_self)
  obtain ⟨method, isMethod, methodNamed, methodDocumented⟩ :=
    declared (ofDeclarations ▸ List.mem_cons_of_mem _ List.mem_cons_self)
  have ofBook := inner book isBook "One" bookDocumented (by decide)
  have ofMethod := inner method isMethod "Opens" methodDocumented (by decide)
  rw [bookNamed] at ofBook
  rw [methodNamed] at ofMethod
  exact ⟨valid, docstrings, lowered, collected, isLowered, ofModule,
    own "Shelves" ofModule (by decide), ofDeclarations, ofBook.1, isIndex ▸ later,
    ofMethod.2 single⟩

end Docstring

end Declarations
