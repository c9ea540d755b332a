/-
This file says what stands in the bindings of a module: nothing but what one of its imports binds.
So what is to hold of every key that a module imports is shown for the keys of one import.
-/

import Declarations.Lowering.Imports
import Declarations.Proofs.NameMap

namespace Declarations

/-- Which names an import binds to which keys. A module that is imported by its own name is bound in
the table as a whole and by its first part. -/
inductive Import.Binds (current : String) (isPackage : Bool) (entry : Import) :
    String → String → Prop where
  | renamed {imported : ImportedName} {other : String} : entry.kind = .direct →
      imported ∈ entry.names → imported.asName = some other →
      Binds current isPackage entry other imported.name
  | whole {imported : ImportedName} : entry.kind = .direct → imported ∈ entry.names →
      Binds current isPackage entry imported.name imported.name
  | top {imported : ImportedName} : entry.kind = .direct → imported ∈ entry.names →
      Binds current isPackage entry (Dotted.head imported.name) (Dotted.head imported.name)
  | member {imported : ImportedName} : entry.kind ≠ .direct → imported ∈ entry.names →
      imported.name ≠ "*" →
      Binds current isPackage entry imported.used
        (if (absoluteModule current isPackage entry).isEmpty then imported.name
          else Dotted.below (absoluteModule current isPackage entry) imported.name)

/-- Of which module an import takes all names. -/
inductive Import.Stars (current : String) (isPackage : Bool) (entry : Import) : String → Prop where
  | all {imported : ImportedName} : entry.kind ≠ .direct → imported ∈ entry.names →
      imported.name = "*" → Stars current isPackage entry (absoluteModule current isPackage entry)

namespace ImportBindings

/-- Whether bindings hold nothing but names that may be bound to their keys, and stars for modules
that may have one. -/
structure Within (bound : String → String → Prop) (starred : String → Prop)
    (bindings : ImportBindings) : Prop where
  table : ∀ symbol ∈ bindings.table, ∃ name key, symbol = ⟨name, .pending key⟩ ∧
    (bound name key ∨ name = "*" ∧ starred key)
  keys : ∀ name key, bindings.keys.get? name = some key → bound name key
  wildcards : ∀ module ∈ bindings.wildcards, starred module

namespace Within

variable {bound : String → String → Prop} {starred : String → Prop} {bindings : ImportBindings}

theorem empty : empty.Within bound starred where
  table _ member := nomatch member
  keys _ _ found := nomatch found
  wildcards _ member := nomatch member

theorem rebind (within : bindings.Within bound starred) {name key : String}
    (here : bound name key) :
    ({ bindings with table := rebind bindings.table name key }).Within bound starred where
  table symbol member := by
    unfold ImportBindings.rebind at member
    dsimp only at member
    split at member
    · exact within.table symbol (List.mem_filter.1 member).1
    · rcases List.mem_append.1 member with before | last
      · exact within.table symbol (List.mem_filter.1 before).1
      · exact ⟨name, key, List.mem_singleton.1 last, .inl here⟩
  keys := within.keys
  wildcards := within.wildcards

theorem bind (within : bindings.Within bound starred) {name key : String}
    (here : bound name key) : (bindings.bind name key).Within bound starred where
  table := (within.rebind here).table
  keys other found looked := by
    by_cases same : other = name
    · rw [same, ImportBindings.bind, NameMap.get?_insert_self] at looked
      cases looked
      exact same ▸ here
    · rw [ImportBindings.bind, NameMap.get?_insert_other _ _ same] at looked
      exact within.keys other found looked
  wildcards := within.wildcards

theorem addModule (within : bindings.Within bound starred) {imported : ImportedName}
    (renamed : ∀ other, imported.asName = some other → bound other imported.name)
    (whole : bound imported.name imported.name)
    (top : bound (Dotted.head imported.name) (Dotted.head imported.name)) :
    (bindings.addModule imported).Within bound starred := by
  unfold ImportBindings.addModule
  split
  next other asName => exact within.bind (renamed other asName)
  next =>
    refine bind ?_ top
    split
    · exact within.rebind whole
    · exact within

theorem addMember (within : bindings.Within bound starred) {base : String}
    {imported : ImportedName} (star : imported.name = "*" → starred base)
    (member : imported.name ≠ "*" → bound imported.used
      (if base.isEmpty then imported.name else Dotted.below base imported.name)) :
    (bindings.addMember base imported).Within bound starred := by
  unfold ImportBindings.addMember
  split
  next isStar =>
    refine ⟨?_, within.keys, List.forall_mem_append.2
      ⟨within.wildcards, List.forall_mem_singleton.2 (star isStar)⟩⟩
    dsimp only
    split
    · exact within.table
    · exact List.forall_mem_append.2 ⟨within.table,
        List.forall_mem_singleton.2 ⟨"*", base, rfl, .inr ⟨rfl, star isStar⟩⟩⟩
  next plain => exact within.bind (member plain)

/-- One import adds what it binds. -/
theorem add (within : bindings.Within bound starred) {current : String} {isPackage : Bool}
    {entry : Import}
    (binds : ∀ name key, entry.Binds current isPackage name key → bound name key)
    (stars : ∀ module, entry.Stars current isPackage module → starred module) :
    (add current isPackage bindings entry).Within bound starred := by
  have members (notDirect : entry.kind ≠ .direct) : (entry.names.foldl (fun bindings imported =>
      bindings.addMember (absoluteModule current isPackage entry) imported)
        bindings).Within bound starred :=
    List.foldlRecOn (motive := Within bound starred) _ _ within fun _ before _ member =>
      before.addMember (fun isStar => stars _ (.all notDirect member isStar))
        fun plain => binds _ _ (.member notDirect member plain)
  unfold ImportBindings.add
  split
  · exact within
  · cases kind : entry.kind with
    | direct =>
      exact List.foldlRecOn (motive := Within bound starred) _ _ within
        fun _ before _ member => before.addModule
          (fun _ asName => binds _ _ (.renamed kind member asName))
          (binds _ _ (.whole kind member)) (binds _ _ (.top kind member))
    | origin => exact members (kind ▸ nofun)
    | relative level => exact members (kind ▸ nofun)

end Within

/-- All that a module binds is bound by one of its imports. -/
theorem within_ofImports (current : String) (isPackage : Bool) (entries : List Import) :
    (ofImports current isPackage entries).Within
      (fun name key => ∃ entry ∈ entries, entry.Binds current isPackage name key)
      (fun module => ∃ entry ∈ entries, entry.Stars current isPackage module) :=
  List.foldlRecOn (motive := Within _ _) _ _ .empty fun _ before entry member =>
    before.add (fun _ _ binds => ⟨entry, member, binds⟩) fun _ stars => ⟨entry, member, stars⟩

end ImportBindings

end Declarations
