/-
This file proves that modules which are there later do not change what was found before. A
module puts into an index only names that begin with the first part of its own name. So where
the later modules share no first part with the others, two indexes, without them and with them,
answer alike all names with a first part of the others; with another first part the smaller
index has no name at all. A look-up goes from key to key, and as long as it finds its way in the
smaller index it takes the same way in the larger one.
-/

import Declarations.Proofs.Graph.ModuleSet
import Declarations.Proofs.Linking.Relinking
import Declarations.Proofs.Text.Dotted

namespace Declarations

/-! ### First parts -/

namespace Module

/-- Whether all declarations of a module stand below the name of the module. -/
def Rooted (module : Module) : Prop :=
  ∀ declaration ∈ module.declarations,
    ∃ name, declaration.fullname = Dotted.below module.name name

theorem Rooted.head_eq {module : Module} (rooted : module.Rooted)
    {entry : String × GraphSymbol} (member : entry ∈ module.symbols) :
    Dotted.head entry.1 = Dotted.head module.name := by
  rw [symbols, List.cons_append, List.mem_cons, List.mem_append] at member
  rcases member with itself | imported | declared
  · rw [itself]
  · obtain ⟨symbol, -, rfl⟩ := List.mem_map.1 imported
    exact Dotted.head_below _ _
  · obtain ⟨⟨declaration, place⟩, inside, rfl⟩ := List.mem_map.1 declared
    obtain ⟨name, below⟩ := rooted declaration (List.fst_mem_of_mem_zipIdx inside)
    exact (congrArg Dotted.head below).trans (Dotted.head_below _ _)

end Module

namespace SymbolIndex

open GraphSymbol (stays stays_none_left)

/-! ### The way of a look-up -/

section

variable {index larger : SymbolIndex} {key : String}

theorem findSome?_congr {α β : Type} {find other : α → Option β} {items : List α}
    (same : ∀ item ∈ items, find item = other item) :
    items.findSome? find = items.findSome? other := by
  induction items with
  | nil => rfl
  | cons item rest hypothesis =>
    rw [List.findSome?_cons, List.findSome?_cons, same item List.mem_cons_self,
      hypothesis fun later member => same later (List.mem_cons_of_mem _ member)]

theorem renameFront?_congr (alike : ∀ name, Dotted.head name = Dotted.head key →
    larger.get? name = index.get? name) :
    larger.renameFront? key = index.renameFront? key := by
  refine findSome?_congr fun cut member => ?_
  dsimp only
  rw [alike cut.1 (Dotted.head_of_mem_fronts member)]

/-- One step looks only at names with the first part of the key. -/
theorem step_congr (alike : ∀ name, Dotted.head name = Dotted.head key →
    larger.get? name = index.get? name) : larger.step key = index.step key := by
  rw [step, step, renameFront?_congr alike, alike key rfl]

theorem step_of_absent (absent : ∀ name, Dotted.head name = Dotted.head key →
    index.get? name = none) : index.step key = .stuck := by
  have unrenamed : index.renameFront? key = none := by
    refine List.findSome?_eq_none_iff.2 fun cut member => ?_
    dsimp only
    rw [absent cut.1 (Dotted.head_of_mem_fronts member)]
  rw [step, unrenamed, absent key rfl]

/-- Where every step either ends in vain or is the same with a larger index, the larger index
finds what the smaller one finds. -/
theorem lookupWithin_of_steps
    (steps : ∀ key, index.step key = .stuck ∨ larger.step key = index.step key) {count : Nat}
    {key : String} {target : Target} (found : index.lookupWithin count key = some target) :
    larger.lookupWithin count key = some target := by
  rcases lookupWithin_cases found with here | ⟨fewer, other, rfl, here, behind⟩
  · have same := (steps key).resolve_left (by rw [here]; nofun)
    exact lookupWithin_found (same.trans here) count
  · have same := (steps key).resolve_left (by rw [here]; nofun)
    rw [lookupWithin_succ (same.trans here)]
    exact lookupWithin_of_steps steps behind

/-- An index finds all that a smaller one finds when, first part by first part, either both
answer alike or the smaller one has no such name. -/
theorem extends_of_heads
    (each : ∀ head, (∀ name, Dotted.head name = head → larger.get? name = index.get? name) ∨
      ∀ name, Dotted.head name = head → index.get? name = none) : larger.Extends index := by
  refine fun key target => lookupWithin_of_steps fun key => ?_
  rcases each (Dotted.head key) with alike | absent
  · exact Or.inr (step_congr alike)
  · exact Or.inl (step_of_absent absent)

end

/-! ### Modules that are there later -/

theorem get?_build (modules previous : ModuleSet) (name : String) :
    (build modules previous).get? name =
      stays
        (standing name ((previous.values.filter fun module =>
          !modules.contains module.name).flatMap Module.symbols))
        (standing name (modules.values.flatMap Module.symbols)) := by
  rw [build, get?_foldl_addModule, List.flatMap_append, standing_append]

/-- To a name only those modules matter that have its first part. -/
theorem standing_filter {modules : List Module} (rooted : ∀ module ∈ modules, module.Rooted)
    (name : String) :
    standing name (modules.flatMap Module.symbols) =
      standing name ((modules.filter fun module =>
        Dotted.head module.name = Dotted.head name).flatMap Module.symbols) := by
  induction modules with
  | nil => rfl
  | cons module rest hypothesis =>
    have others := hypothesis fun other member => rooted other (List.mem_cons_of_mem _ member)
    rw [List.flatMap_cons, standing_append, others]
    by_cases same : Dotted.head module.name = Dotted.head name
    · rw [List.filter_cons, if_pos (decide_eq_true same), List.flatMap_cons, standing_append]
    · have nothing : standing name module.symbols = none := by
        refine standing_eq_none fun entry member here => same ?_
        rw [← here, (rooted module List.mem_cons_self).head_eq member]
      rw [List.filter_cons, if_neg (by simpa using same), nothing, stays_none_left]

theorem get?_build_eq_none {modules previous : ModuleSet} {name : String}
    (rooted : ∀ module ∈ modules.values ++ previous.values, module.Rooted)
    (apart : ∀ module ∈ modules.values ++ previous.values,
      Dotted.head module.name ≠ Dotted.head name) :
    (build modules previous).get? name = none := by
  rw [build, get?_foldl_addModule]
  refine standing_eq_none fun entry inside here => ?_
  obtain ⟨module, counted, listed⟩ := List.mem_flatMap.1 inside
  have member : module ∈ modules.values ++ previous.values := by
    rcases List.mem_append.1 counted with kept | current
    · exact List.mem_append_right _ (List.mem_of_mem_filter kept)
    · exact List.mem_append_left _ current
  exact apart module member (by rw [← here, (rooted module member).head_eq listed])

section

variable {modules previous later : ModuleSet}

/-- Later modules do not count where another first part is asked for than theirs. -/
theorem filter_values_merge {head : String}
    (apart : ∀ module ∈ later.values, Dotted.head module.name ≠ head) :
    ((previous.merge later).values.filter fun module => Dotted.head module.name = head) =
      previous.values.filter fun module => Dotted.head module.name = head := by
  rw [← NameMap.values_filter, ← NameMap.values_filter]
  refine congrArg NameMap.values (NameMap.ext_get? fun name => ?_)
  rw [NameMap.get?_filter, NameMap.get?_filter, NameMap.get?_merge]
  cases found : later.get? name with
  | none => rfl
  | some module =>
    have named : module.name = name := later.fits_of_get? found
    have other : Dotted.head module.name ≠ head :=
      apart module (NameMap.mem_values_of_get? found)
    rw [Option.some_or, Option.filter_some_neg (by simpa using other)]
    refine (Option.filter_eq_none_iff.2 fun earlier looked => ?_).symm
    rw [previous.fits_of_get? looked, ← named]
    simpa using other

theorem get?_build_merge {name : String} (rooted : ∀ module ∈ previous.values, module.Rooted)
    (laterRooted : ∀ module ∈ later.values, module.Rooted)
    (apart : ∀ module ∈ later.values, Dotted.head module.name ≠ Dotted.head name) :
    (build modules (previous.merge later)).get? name = (build modules previous).get? name := by
  have merged : ∀ module ∈ (previous.merge later).values, module.Rooted := fun module member =>
    (NameMap.mem_values_merge member).elim (rooted module) (laterRooted module)
  rw [get?_build, get?_build,
    standing_filter fun module member => merged module (List.mem_of_mem_filter member),
    standing_filter fun module member => rooted module (List.mem_of_mem_filter member),
    List.filter_comm, filter_values_merge apart, List.filter_comm]

/-- An index with later modules finds all that the index without them finds, when these have
first parts of their own. -/
theorem extends_build_merge
    (rooted : ∀ module ∈ modules.values ++ previous.values, module.Rooted)
    (laterRooted : ∀ module ∈ later.values, module.Rooted)
    (apart : ∀ new ∈ later.values, ∀ old ∈ modules.values ++ previous.values,
      Dotted.head new.name ≠ Dotted.head old.name) :
    (build modules (previous.merge later)).Extends (build modules previous) := by
  have earlierRooted : ∀ module ∈ previous.values, module.Rooted := fun module member =>
    rooted module (List.mem_append_right _ member)
  refine extends_of_heads fun head => ?_
  -- A first part is one of the later modules, and then of no other, or of none of them.
  by_cases isLater : ∃ new ∈ later.values, Dotted.head new.name = head
  · obtain ⟨new, member, same⟩ := isLater
    refine Or.inr fun name begins => get?_build_eq_none rooted fun old inOld alike => ?_
    exact apart new member old inOld (by rw [same, alike, begins])
  · refine Or.inl fun name begins =>
      get?_build_merge earlierRooted laterRooted fun new member same => ?_
    exact isLater ⟨new, member, same.trans begins⟩

end

end SymbolIndex

namespace ModuleSet

/-- What was found before modules were loaded is still found when later modules are there,
where these have first parts of their own. So linking modules before and once more afterwards
leaves them as linking them afterwards at once. -/
theorem link_link_merge {modules previous later : ModuleSet}
    (rooted : ∀ module ∈ modules.values ++ previous.values, module.Rooted)
    (laterRooted : ∀ module ∈ later.values, module.Rooted)
    (apart : ∀ new ∈ later.values, ∀ old ∈ modules.values ++ previous.values,
      Dotted.head new.name ≠ Dotted.head old.name) :
    (∀ key target, (SymbolIndex.build modules previous).lookup key = some target →
      (SymbolIndex.build modules (previous.merge later)).lookup key = some target) ∧
    ((modules.link previous).1.link (previous.merge later)).1 =
      (modules.link (previous.merge later)).1 := by
  have extension := SymbolIndex.extends_build_merge rooted laterRooted apart
  exact ⟨extension, link_link extension⟩

/-- A module that imports from an earlier one, and through it from one that is loaded later. -/
theorem link_link_merge_shelf :
    let variableBody (name fullname : String) : DeclarationBody :=
      ⟨name, fullname, .variable ⟨none, false, false, none⟩, none, none⟩
    let page := { (Module.skeleton "page" ⟨"page.py"⟩).add none
        (variableBody "width" "page.width") with
      imports := [⟨"room", .pending "shelf.room"⟩] }
    let book := { Module.skeleton "book" ⟨"book.py"⟩ with
      imports := [⟨"breadth", .pending "page.width"⟩, ⟨"room", .pending "page.room"⟩] }
    let shelf := (Module.skeleton "shelf" ⟨"shelf.py"⟩).add none
      (variableBody "room" "shelf.room")
    let modules := add NameMap.empty book
    let previous := add NameMap.empty page
    let later := add NameMap.empty shelf
    (∀ module ∈ modules.values ++ previous.values, module.Rooted) ∧
      (∀ module ∈ later.values, module.Rooted) ∧
      (∀ new ∈ later.values, ∀ old ∈ modules.values ++ previous.values,
        Dotted.head new.name ≠ Dotted.head old.name) ∧
      (∀ key target, (SymbolIndex.build modules previous).lookup key = some target →
        (SymbolIndex.build modules (previous.merge later)).lookup key = some target) ∧
      ((modules.link previous).1.link (previous.merge later)).1 =
        (modules.link (previous.merge later)).1 := by
  intro variableBody page book shelf modules previous later
  have rooted : ∀ module ∈ modules.values ++ previous.values, module.Rooted := by
    intro module member declaration inside
    rcases List.mem_cons.1 member with rfl | earlier
    · cases inside
    · obtain rfl := List.mem_singleton.1 earlier
      obtain rfl := List.mem_singleton.1 inside
      exact ⟨"width", rfl⟩
  have laterRooted : ∀ module ∈ later.values, module.Rooted := by
    intro module member declaration inside
    obtain rfl := List.mem_singleton.1 member
    obtain rfl := List.mem_singleton.1 inside
    exact ⟨"room", rfl⟩
  have apart : ∀ new ∈ later.values, ∀ old ∈ modules.values ++ previous.values,
      Dotted.head new.name ≠ Dotted.head old.name := by decide
  exact ⟨rooted, laterRooted, apart, link_link_merge rooted laterRooted apart⟩

end ModuleSet

end Declarations
