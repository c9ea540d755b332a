/-
This file proves what the indices of declarations say about the tree of them. Where the
declarations of a module stand in pre-order, going through the tree from the top down and into
each declaration before the next one meets the indices one after the other. So a declaration
comes before those declared in it, and parents and children name each other.
-/

import Declarations.Proofs.Graph.NameIndex
import Declarations.Proofs.Snapshot.Layout

namespace Declarations

/-- A place in a forest is the first one, or in what is declared there, or in the other trees. -/
theorem DeclarationEntry.place_cases {body : DeclarationBody}
    {children rest : List DeclarationEntry} {place other : Nat} (least : place ≤ other)
    (inside : other < place + sizeAll (.node body children :: rest)) :
    place = other ∨ (place + 1 ≤ other ∧ other < place + 1 + sizeAll children) ∨
      (place + (node body children).size ≤ other ∧
        other < place + (node body children).size + sizeAll rest) := by
  rw [sizeAll, size] at inside
  rw [size]
  omega

namespace Module

variable {module : Module}

/-! ### Going through the tree -/

/-- Whether going through declarations in order, each with all that is declared in it before the
next one, meets some indices in order. -/
inductive Walks (module : Module) : List Nat → List Nat → Prop where
  | done : Walks module [] []
  | visit {place : Nat} {declaration : Declaration} {rest inner after : List Nat} :
      module.declaration? place = some declaration → Walks module declaration.children inner →
        Walks module rest after → Walks module (place :: rest) (place :: inner ++ after)

theorem Walks.eq {places met : List Nat} (walks : module.Walks places met) :
    ∀ {others : List Nat}, module.Walks places others → others = met := by
  induction walks with
  | done =>
    rintro _ ⟨⟩
    rfl
  | visit here _ _ inner after =>
    rintro _ ⟨⟩
    next otherInner otherHere otherAfter =>
      obtain rfl := Option.some.inj (here.symm.trans otherHere)
      rw [inner otherInner, after otherAfter]

/-- Whether the indices of a module are those of a tree of declarations. -/
structure Arena (module : Module) : Prop where
  /-- Going through the tree meets each index once, in order. -/
  walk : ∀ met, module.Walks module.roots met ↔ met = List.range module.declarations.length
  /-- At the top stand the declarations without a parent. -/
  top : ∀ place, place ∈ module.roots ↔
    ∃ declaration, module.declaration? place = some declaration ∧ declaration.parent = none
  /-- Below a declaration stand those that have it as their parent. -/
  below : ∀ parent place,
    (∃ holder, module.declaration? parent = some holder ∧ place ∈ holder.children) ↔
      ∃ declaration, module.declaration? place = some declaration ∧
        declaration.parent = some parent
  later : ∀ parent holder, module.declaration? parent = some holder →
    ∀ place ∈ holder.children, parent < place
  lookup : ∀ fullname index, module.lookup fullname = some index ↔
    IsGreatest {place | module.Named fullname place} index

namespace LaidOut

variable {parent : Option Nat} {place : Nat} {entries : List DeclarationEntry}

theorem walks (laidOut : module.LaidOut parent place entries) :
    module.Walks (DeclarationEntry.places place entries)
      (List.range' place (DeclarationEntry.sizeAll entries)) := by
  induction entries using DeclarationEntry.forestInduction generalizing parent place with
  | nil => exact .done
  | node body children rest inner after =>
    obtain ⟨here, laidOutInner, laidOutAfter⟩ := laidOut.cons
    have met := Walks.visit here (inner laidOutInner) (after laidOutAfter)
    rw [DeclarationEntry.size, Nat.add_comm _ 1, ← Nat.add_assoc, List.cons_append,
      List.range'_append_1, ← List.range'_succ] at met
    rw [DeclarationEntry.places, DeclarationEntry.size, DeclarationEntry.sizeAll,
      DeclarationEntry.size, Nat.add_right_comm, Nat.add_comm _ 1, ← Nat.add_assoc]
    exact met

theorem of_mem_places (laidOut : module.LaidOut parent place entries) {other : Nat}
    (member : other ∈ DeclarationEntry.places place entries) :
    ∃ declaration, module.declaration? other = some declaration ∧ declaration.parent = parent := by
  induction entries using DeclarationEntry.forestInduction generalizing place with
  | nil => cases member
  | node body children rest _ after =>
    obtain ⟨here, -, laidOutAfter⟩ := laidOut.cons
    rcases List.mem_cons.1 member with rfl | inRest
    · exact ⟨_, here, rfl⟩
    · exact after laidOutAfter inRest

/-- Each declaration of a forest stands in front of a forest itself. -/
theorem inner (laidOut : module.LaidOut parent place entries) {other : Nat}
    (least : place ≤ other) (inside : other < place + DeclarationEntry.sizeAll entries) :
    ∃ declaration children, module.declaration? other = some declaration ∧
      declaration.children = DeclarationEntry.places (other + 1) children ∧
      module.LaidOut (some other) (other + 1) children := by
  induction entries using DeclarationEntry.forestInduction generalizing parent place with
  | nil => exact absurd inside (Nat.not_lt_of_le least)
  | node body children rest inner after =>
    obtain ⟨here, laidOutInner, laidOutAfter⟩ := laidOut.cons
    rcases DeclarationEntry.place_cases least inside with rfl | ⟨behind, within⟩ | ⟨later, within⟩
    · exact ⟨_, children, here, rfl, laidOutInner⟩
    · exact inner laidOutInner behind within
    · exact after laidOutAfter later within

/-- A declaration of a forest stands next to the first one, or below another one. -/
theorem parent_cases (laidOut : module.LaidOut parent place entries) {other : Nat}
    (least : place ≤ other) (inside : other < place + DeclarationEntry.sizeAll entries) :
    ∃ declaration, module.declaration? other = some declaration ∧
      ((declaration.parent = parent ∧ other ∈ DeclarationEntry.places place entries) ∨
        ∃ above holder, declaration.parent = some above ∧
          module.declaration? above = some holder ∧ other ∈ holder.children) := by
  induction entries using DeclarationEntry.forestInduction generalizing parent place with
  | nil => exact absurd inside (Nat.not_lt_of_le least)
  | node body children rest inner after =>
    obtain ⟨here, laidOutInner, laidOutAfter⟩ := laidOut.cons
    rcases DeclarationEntry.place_cases least inside with rfl | ⟨behind, within⟩ | ⟨later, within⟩
    · exact ⟨_, here, .inl ⟨rfl, List.mem_cons_self⟩⟩
    · obtain ⟨declaration, found, itsChild | deeper⟩ := inner laidOutInner behind within
      · exact ⟨declaration, found, .inr ⟨place, _, itsChild.1, here, itsChild.2⟩⟩
      · exact ⟨declaration, found, .inr deeper⟩
    · obtain ⟨declaration, found, beside | deeper⟩ := after laidOutAfter later within
      · exact ⟨declaration, found, .inl ⟨beside.1, List.mem_cons_of_mem _ beside.2⟩⟩
      · exact ⟨declaration, found, .inr deeper⟩

end LaidOut

/-- Where the declarations stand in pre-order, their indices are those of a tree. -/
theorem PreOrder.arena (ordered : module.PreOrder) : module.Arena := by
  obtain ⟨forest, roots, declarations⟩ := ordered
  have laidOut := laidOut_of_eq declarations
  have length : module.declarations.length = DeclarationEntry.sizeAll forest := by
    rw [declarations, DeclarationEntry.length_layoutAll]
  have inside {place : Nat} {declaration : Declaration}
      (found : module.declaration? place = some declaration) :
      place < 0 + DeclarationEntry.sizeAll forest := by
    rw [Nat.zero_add, ← length]
    exact (List.getElem?_eq_some_iff.1 found).1
  -- What stands below a declaration is a forest that is laid out behind it.
  have children {parent : Nat} {holder : Declaration}
      (found : module.declaration? parent = some holder) :
      ∃ inner, holder.children = DeclarationEntry.places (parent + 1) inner ∧
        module.LaidOut (some parent) (parent + 1) inner := by
    obtain ⟨declaration, inner, same, places, laidOutInner⟩ :=
      laidOut.inner (Nat.zero_le _) (inside found)
    obtain rfl := Option.some.inj (found.symm.trans same)
    exact ⟨inner, places, laidOutInner⟩
  constructor
  case walk =>
    have walks := laidOut.walks
    rw [← roots, ← length, ← List.range_eq_range'] at walks
    exact fun met => ⟨fun other => walks.eq other, fun same => same ▸ walks⟩
  case top =>
    refine fun place => ⟨fun member => laidOut.of_mem_places (roots ▸ member), ?_⟩
    rintro ⟨declaration, found, alone⟩
    obtain ⟨same, here, atTop | deeper⟩ := laidOut.parent_cases (Nat.zero_le _) (inside found)
    · exact roots ▸ atTop.2
    · obtain ⟨above, holder, below, -, -⟩ := deeper
      obtain rfl := Option.some.inj (found.symm.trans here)
      cases alone.symm.trans below
  case below =>
    refine fun parent place => ⟨?_, ?_⟩
    · rintro ⟨holder, found, member⟩
      obtain ⟨inner, places, laidOutInner⟩ := children found
      exact laidOutInner.of_mem_places (places ▸ member)
    · rintro ⟨declaration, found, below⟩
      obtain ⟨same, here, atTop | deeper⟩ := laidOut.parent_cases (Nat.zero_le _) (inside found)
      · obtain rfl := Option.some.inj (found.symm.trans here)
        cases atTop.1.symm.trans below
      · obtain ⟨above, holder, belowToo, holderFound, member⟩ := deeper
        obtain rfl := Option.some.inj (found.symm.trans here)
        obtain rfl := Option.some.inj (below.symm.trans belowToo)
        exact ⟨holder, holderFound, member⟩
  case later =>
    intro parent holder found place member
    obtain ⟨inner, places, -⟩ := children found
    exact DeclarationEntry.le_of_mem_places (places ▸ member)
  case lookup => exact fun _ _ => lookup_eq_some_iff

end Module

end Declarations
