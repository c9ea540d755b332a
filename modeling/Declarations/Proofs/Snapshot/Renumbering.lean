/-
This file proves what becomes of declarations that are added to a module in any order, each below
one that was added before. The entry of the module holds every declaration once, in the one it was
added below and behind those that were added there earlier. The module that is made from the entry
numbers them anew, as the tree is gone through; where each was added with all that is declared in it
before the next one, this is how they were numbered.
-/

import Declarations.Proofs.Graph.Arena
import Declarations.Proofs.Snapshot.Exact
import Mathlib.Data.List.Induction
import Mathlib.Logic.Relation

namespace Declarations

/-! ### Additions -/

/-- A declaration that is added to a module, and the index of the one it is added below. -/
structure Addition where
  parent : Option Nat
  body : DeclarationBody

namespace Addition

/-- Whether every declaration is added below one that was added before, or at the top. -/
def AreRooted (additions : List Addition) : Prop :=
  ∀ (index : Nat) (addition : Addition), additions[index]? = some addition →
    ∀ parent ∈ addition.parent, parent < index

/-- The indices of what is added below a parent, or at the top, in the order it is added. -/
def indicesBelow (additions : List Addition) (parent : Option Nat) : List Nat :=
  (additions.zipIdx.filter fun place => place.1.parent == parent).map (·.2)

theorem mem_indicesBelow {additions : List Addition} {parent : Option Nat} {index : Nat} :
    index ∈ indicesBelow additions parent ↔
      ∃ addition, additions[index]? = some addition ∧ addition.parent = parent := by
  constructor
  · intro member
    obtain ⟨⟨addition, place⟩, inside, rfl⟩ := List.mem_map.1 member
    obtain ⟨here, same⟩ := List.mem_filter.1 inside
    exact ⟨addition, List.mem_zipIdx_iff_getElem?.1 here, eq_of_beq same⟩
  · rintro ⟨addition, here, rfl⟩
    exact List.mem_map.2 ⟨(addition, index), List.mem_filter.2
      ⟨List.mem_zipIdx_iff_getElem?.2 here, beq_self_eq_true _⟩, rfl⟩

theorem pairwise_indicesBelow (additions : List Addition) (parent : Option Nat) :
    (indicesBelow additions parent).Pairwise (· < ·) := by
  have whole : (additions.zipIdx.map (·.2)).Pairwise (· < ·) := by
    rw [List.zipIdx_map_snd]
    exact List.pairwise_lt_range'
  exact whole.sublist (List.filter_sublist.map _)

theorem nodup_indicesBelow (additions : List Addition) (parent : Option Nat) :
    (indicesBelow additions parent).Nodup :=
  (pairwise_indicesBelow additions parent).imp Nat.ne_of_lt

theorem indicesBelow_append (additions : List Addition) (last : Addition) (parent : Option Nat) :
    indicesBelow (additions ++ [last]) parent =
      indicesBelow additions parent ++ if last.parent = parent then [additions.length] else [] := by
  rw [indicesBelow, List.zipIdx_append, List.filter_append, List.map_append, Nat.zero_add]
  refine congrArg (indicesBelow additions parent ++ ·) ?_
  rw [List.zipIdx_singleton, List.filter_singleton]
  by_cases same : last.parent = parent
  · rw [if_pos same, beq_iff_eq.2 same]
    rfl
  · rw [if_neg same, beq_eq_false_iff_ne.2 same]
    rfl

theorem areRooted_iff {additions : List Addition} :
    AreRooted additions ↔
      ∀ place ∈ additions.zipIdx, ∀ parent ∈ place.1.parent, parent < place.2 :=
  ⟨fun rooted place member => rooted place.2 place.1 (List.mem_zipIdx_iff_getElem?.1 member),
    fun each index addition here => each (addition, index) (List.mem_zipIdx_iff_getElem?.2 here)⟩

instance (additions : List Addition) : Decidable (AreRooted additions) :=
  decidable_of_iff' _ areRooted_iff

theorem AreRooted.lt_of_mem_indicesBelow {additions : List Addition} (rooted : AreRooted additions)
    {parent index : Nat} (member : index ∈ indicesBelow additions (some parent)) :
    parent < index := by
  obtain ⟨addition, here, same⟩ := mem_indicesBelow.1 member
  exact rooted index addition here parent same

theorem AreRooted.of_append {additions : List Addition} {last : Addition}
    (rooted : AreRooted (additions ++ [last])) :
    AreRooted additions ∧ ∀ parent ∈ last.parent, parent < additions.length := by
  constructor
  · intro index addition here
    refine rooted index addition ?_
    rw [List.getElem?_append_left (List.getElem?_eq_some_iff.1 here).1, here]
  · exact rooted additions.length last List.getElem?_concat_length

end Addition

namespace Module

open Addition (indicesBelow AreRooted)

/-- Adds declarations one after the other. -/
def addAll (module : Module) (additions : List Addition) : Module :=
  additions.foldl (fun module addition => module.add addition.parent addition.body) module

theorem addAll_append (module : Module) (additions : List Addition) (last : Addition) :
    module.addAll (additions ++ [last]) =
      (module.addAll additions).add last.parent last.body := by
  rw [addAll, addAll, List.foldl_append]
  rfl

section

variable {module : Module} {parent : Option Nat} (there : module.HasParent parent)
  (body : DeclarationBody)

include there

theorem declaration?_add_length :
    (module.add parent body).declaration? module.declarations.length =
      some { body with parent := parent, children := [] } := by
  have length := length_hang module [module.declarations.length] parent
  rw [declaration?, add_eq there, append]
  dsimp only
  rw [List.getElem?_append_right (Nat.le_of_eq length), length, Nat.sub_self]
  rfl

/-- What is added below a declaration stands behind what was added there before. -/
theorem declaration?_add_of_lt {index : Nat} {declaration : Declaration}
    (here : module.declaration? index = some declaration) :
    (module.add parent body).declaration? index = some { declaration with
      children := declaration.children ++
        if parent = some index then [module.declarations.length] else [] } := by
  have inside : index < (module.hang [module.declarations.length] parent).declarations.length := by
    rw [length_hang]
    exact (List.getElem?_eq_some_iff.1 here).1
  rw [declaration?] at here
  rw [declaration?, add_eq there, append]
  dsimp only
  rw [List.getElem?_append_left inside]
  cases parent with
  | none => simp [hang, here]
  | some parent => by_cases same : parent = index <;> simp [hang, Declaration.adopt, here, same]

theorem roots_add :
    (module.add parent body).roots =
      module.roots ++ if parent = none then [module.declarations.length] else [] := by
  cases parent with
  | none => rfl
  | some parent =>
    have inside : parent < module.declarations.length := there parent rfl
    simp [add, inside]

end

/-- Whether the declarations of a module are those that were added, each with what was added below
it in this order. -/
structure Holds (module : Module) (additions : List Addition) : Prop where
  roots : module.roots = indicesBelow additions none
  length : module.declarations.length = additions.length
  declaration : ∀ (index : Nat) (addition : Addition), additions[index]? = some addition →
    module.declaration? index = some { addition.body with
      parent := addition.parent, children := indicesBelow additions (some index) }

theorem holds_addAll {start : Module} (roots : start.roots = [])
    (declarations : start.declarations = []) (additions : List Addition)
    (rooted : AreRooted additions) : (start.addAll additions).Holds additions := by
  induction additions using List.reverseRecOn with
  | nil => exact ⟨roots, congrArg List.length declarations, fun _ _ here => nomatch here⟩
  | append_singleton additions last hypothesis =>
    obtain ⟨earlier, lastRooted⟩ := rooted.of_append
    have holds := hypothesis earlier
    have there : (start.addAll additions).HasParent last.parent := by
      intro parent member
      rw [holds.length]
      exact lastRooted parent member
    rw [addAll_append]
    constructor
    case roots => rw [roots_add there, holds.roots, holds.length, Addition.indicesBelow_append]
    case length => rw [length_add there, holds.length, List.length_append, List.length_singleton]
    case declaration =>
      intro index addition here
      have inside := (List.getElem?_eq_some_iff.1 here).1
      rw [List.length_append, List.length_singleton] at inside
      rcases Nat.lt_succ_iff_lt_or_eq.1 inside with before | rfl
      · rw [List.getElem?_append_left before] at here
        rw [declaration?_add_of_lt there _ (holds.declaration index addition here), holds.length,
          Addition.indicesBelow_append]
      · obtain rfl := Option.some.inj (List.getElem?_concat_length.symm.trans here)
        have leaf : indicesBelow (additions ++ [last]) (some additions.length) = [] := by
          refine List.eq_nil_iff_forall_not_mem.2 fun child member => ?_
          have later := rooted.lt_of_mem_indicesBelow member
          obtain ⟨addition, here, -⟩ := Addition.mem_indicesBelow.1 member
          have within := (List.getElem?_eq_some_iff.1 here).1
          rw [List.length_append, List.length_singleton] at within
          omega
        rw [leaf, ← holds.length, declaration?_add_length there]

end Module

/-! ### Entries of what was added -/

namespace Addition

/-- Whether some entries are those of declarations that were added, each with the entries of what
was added below it in the order it was added. Going through the entries, into each before the next
one, meets the declarations at some indices in order. -/
inductive Nests (additions : List Addition) :
    List Nat → List DeclarationEntry → List Nat → Prop where
  | nil : Nests additions [] [] []
  | cons {index : Nat} {addition : Addition} {children rest : List DeclarationEntry}
      {others inner after : List Nat} :
      additions[index]? = some addition →
        Nests additions (indicesBelow additions (some index)) children inner →
          Nests additions others rest after →
            Nests additions (index :: others) (.node addition.body children :: rest)
              (index :: inner ++ after)

/-- Whether a declaration is another one, or was added somewhere below it. -/
def IsIn (additions : List Addition) (outer inner : Nat) : Prop :=
  Relation.ReflTransGen (fun parent child => child ∈ indicesBelow additions (some parent))
    outer inner

/-- Whether all that is added below a declaration is added before its next sibling. -/
def DepthFirst (additions : List Addition) : Prop :=
  ∀ (parent : Option Nat) (first second : Nat), first ∈ indicesBelow additions parent →
    second ∈ indicesBelow additions parent → first < second →
      ∀ inner, IsIn additions first inner → inner < second

section

variable {additions : List Addition}

theorem lt_of_mem_indicesBelow {parent : Option Nat} {index : Nat}
    (member : index ∈ indicesBelow additions parent) : index < additions.length := by
  obtain ⟨addition, here, -⟩ := mem_indicesBelow.1 member
  exact (List.getElem?_eq_some_iff.1 here).1

theorem parent_unique {parent other : Option Nat} {index : Nat}
    (member : index ∈ indicesBelow additions parent)
    (otherMember : index ∈ indicesBelow additions other) : parent = other := by
  obtain ⟨addition, here, rfl⟩ := mem_indicesBelow.1 member
  obtain ⟨same, hereToo, rfl⟩ := mem_indicesBelow.1 otherMember
  rw [Option.some.inj (here.symm.trans hereToo)]

theorem IsIn.le (rooted : AreRooted additions) {outer inner : Nat}
    (isIn : IsIn additions outer inner) : outer ≤ inner := by
  induction isIn with
  | refl => exact Nat.le_refl _
  | tail _ member hypothesis =>
    exact Nat.le_trans hypothesis (Nat.le_of_lt (rooted.lt_of_mem_indicesBelow member))

/-- A declaration is in at most one of those that were added below the same one. -/
theorem IsIn.eq_of_siblings (rooted : AreRooted additions) {parent : Option Nat}
    {first second inner : Nat} (firstMember : first ∈ indicesBelow additions parent)
    (secondMember : second ∈ indicesBelow additions parent) (isFirst : IsIn additions first inner)
    (isSecond : IsIn additions second inner) : first = second := by
  -- What is below the inner one would have to be above itself.
  have apart {outer place : Nat} (isIn : IsIn additions outer place)
      (member : outer ∈ indicesBelow additions (some place)) : False :=
    absurd (isIn.le rooted) (Nat.not_le_of_lt (rooted.lt_of_mem_indicesBelow member))
  induction isSecond with
  | refl =>
    rcases Relation.ReflTransGen.cases_tail isFirst with same | ⟨place, isIn, member⟩
    · exact same.symm
    · obtain rfl := parent_unique secondMember member
      exact (apart isIn firstMember).elim
  | tail isSecond member hypothesis =>
    rcases Relation.ReflTransGen.cases_tail isFirst with same | ⟨place, isIn, memberToo⟩
    · subst same
      obtain rfl := parent_unique firstMember member
      exact (apart isSecond secondMember).elim
    · obtain ⟨⟩ := parent_unique member memberToo
      exact hypothesis isIn

theorem exists_isIn_root (rooted : AreRooted additions) (index : Nat)
    (inside : index < additions.length) :
    ∃ root ∈ indicesBelow additions none, IsIn additions root index := by
  induction index using Nat.strongRecOn with
  | ind index hypothesis =>
    have here : additions[index]? = some additions[index] := List.getElem?_eq_getElem inside
    have member : index ∈ indicesBelow additions additions[index].parent :=
      mem_indicesBelow.2 ⟨_, here, rfl⟩
    cases parent : additions[index].parent with
    | none => exact ⟨index, parent ▸ member, .refl⟩
    | some place =>
      have before := rooted index _ here place parent
      obtain ⟨root, atTop, isIn⟩ := hypothesis place before (Nat.lt_trans before inside)
      exact ⟨root, atTop, isIn.tail (parent ▸ member)⟩

end

/-! ### What the entries hold -/

namespace Nests

variable {additions : List Addition} {indices met : List Nat} {entries : List DeclarationEntry}

/-- What was added determines the entries. -/
theorem unique (nests : Nests additions indices entries met) {others : List DeclarationEntry}
    {otherMet : List Nat} (otherNests : Nests additions indices others otherMet) :
    others = entries ∧ otherMet = met := by
  induction nests generalizing others otherMet with
  | nil =>
    cases otherNests
    exact ⟨rfl, rfl⟩
  | cons here _ _ inside after =>
    cases otherNests with
    | cons otherHere otherInner otherAfter =>
      obtain rfl := Option.some.inj (here.symm.trans otherHere)
      obtain ⟨rfl, rfl⟩ := inside otherInner
      obtain ⟨rfl, rfl⟩ := after otherAfter
      exact ⟨rfl, rfl⟩

theorem mem_iff (nests : Nests additions indices entries met) (inner : Nat) :
    inner ∈ met ↔ ∃ outer ∈ indices, IsIn additions outer inner := by
  induction nests with
  | nil => simp
  | cons _ _ _ inside after =>
    rw [List.cons_append, List.mem_cons, List.mem_append, inside, after, List.exists_mem_cons_iff,
      IsIn, Relation.ReflTransGen.cases_head_iff, or_assoc, eq_comm]
    exact Iff.rfl

theorem isIn_of_mem {index place : Nat}
    (nests : Nests additions (indicesBelow additions (some index)) entries met)
    (member : place ∈ index :: met) : IsIn additions index place := by
  rcases List.mem_cons.1 member with rfl | inside
  · exact .refl
  · obtain ⟨child, below, isIn⟩ := (nests.mem_iff place).1 inside
    exact .head below isIn

theorem lt_of_mem (rooted : AreRooted additions) {index place : Nat}
    (nests : Nests additions (indicesBelow additions (some index)) entries met)
    (member : place ∈ met) : index < place := by
  obtain ⟨child, below, isIn⟩ := (nests.mem_iff place).1 member
  exact Nat.lt_of_lt_of_le (rooted.lt_of_mem_indicesBelow below) (isIn.le rooted)

/-- Going through the entries meets no declaration twice. -/
theorem nodup (rooted : AreRooted additions) (nests : Nests additions indices entries met)
    {parent : Option Nat} (siblings : ∀ index ∈ indices, index ∈ indicesBelow additions parent)
    (distinct : indices.Nodup) : met.Nodup := by
  induction nests generalizing parent with
  | nil => exact List.nodup_nil
  | @cons index _ _ _ others inner after _ nestsInner nestsAfter insideHypothesis
      afterHypothesis =>
    obtain ⟨isFirst, areOthers⟩ := List.forall_mem_cons.1 siblings
    obtain ⟨notAgain, distinctOthers⟩ := List.nodup_cons.1 distinct
    have innerNodup := insideHypothesis (fun _ member => member) (nodup_indicesBelow _ _)
    have outside : index ∉ inner := by
      intro member
      exact Nat.lt_irrefl index (nestsInner.lt_of_mem rooted member)
    refine List.Nodup.append (List.nodup_cons.2 ⟨outside, innerNodup⟩)
      (afterHypothesis areOthers distinctOthers) fun place here behind => ?_
    have isIn := nestsInner.isIn_of_mem here
    obtain ⟨other, member, isInOther⟩ := (nestsAfter.mem_iff place).1 behind
    obtain rfl := isIn.eq_of_siblings rooted isFirst (areOthers other member) isInOther
    exact notAgain member

/-- Going through the entries of all that was added meets each declaration once. -/
theorem perm_range (rooted : AreRooted additions)
    (nests : Nests additions (indicesBelow additions none) entries met) :
    met.Perm (List.range additions.length) := by
  have distinct := nests.nodup rooted (fun _ member => member) (nodup_indicesBelow _ _)
  refine (List.perm_ext_iff_of_nodup distinct List.nodup_range).2 fun index => ?_
  rw [nests.mem_iff, List.mem_range]
  refine ⟨?_, exists_isIn_root rooted index⟩
  rintro ⟨root, atTop, isIn⟩
  rcases Relation.ReflTransGen.cases_tail isIn with rfl | ⟨_, -, member⟩
  · exact lt_of_mem_indicesBelow atTop
  · exact lt_of_mem_indicesBelow member

/-- Where the additions were depth-first, going through the entries meets the declarations in the
order they were added. -/
theorem pairwise_lt (rooted : AreRooted additions) (depthFirst : DepthFirst additions)
    (nests : Nests additions indices entries met) {parent : Option Nat}
    (siblings : ∀ index ∈ indices, index ∈ indicesBelow additions parent)
    (ordered : indices.Pairwise (· < ·)) : met.Pairwise (· < ·) := by
  induction nests generalizing parent with
  | nil => exact .nil
  | @cons index _ _ _ others inner after _ nestsInner nestsAfter insideHypothesis
      afterHypothesis =>
    obtain ⟨isFirst, areOthers⟩ := List.forall_mem_cons.1 siblings
    obtain ⟨before, orderedOthers⟩ := List.pairwise_cons.1 ordered
    have innerOrdered := insideHypothesis (fun _ member => member) (pairwise_indicesBelow _ _)
    have behind : ∀ place ∈ inner, index < place := fun _ => nestsInner.lt_of_mem rooted
    refine List.pairwise_append.2 ⟨List.pairwise_cons.2 ⟨behind, innerOrdered⟩,
      afterHypothesis areOthers orderedOthers, fun place here later member => ?_⟩
    have isIn := nestsInner.isIn_of_mem here
    obtain ⟨other, isOther, isInOther⟩ := (nestsAfter.mem_iff later).1 member
    exact Nat.lt_of_lt_of_le
      (depthFirst parent index other isFirst (areOthers other isOther) (before other isOther)
        place isIn)
      (isInOther.le rooted)

theorem eq_range (rooted : AreRooted additions) (depthFirst : DepthFirst additions)
    (nests : Nests additions (indicesBelow additions none) entries met) :
    met = List.range additions.length :=
  (nests.perm_range rooted).eq_of_pairwise
    (fun _ _ _ _ before after => absurd before (Nat.lt_asymm after))
    (nests.pairwise_lt rooted depthFirst (fun _ member => member) (pairwise_indicesBelow _ _))
    List.pairwise_lt_range

theorem length_eq (nests : Nests additions indices entries met) :
    met.length = DeclarationEntry.sizeAll entries := by
  induction nests with
  | nil => rfl
  | cons _ _ _ inside after =>
    rw [List.length_append, List.length_cons, inside, after, DeclarationEntry.sizeAll,
      DeclarationEntry.size]

/-- Laid out, the entries are the declarations in the order in which they are met. -/
theorem bodies_layoutAll (nests : Nests additions indices entries met) (parent : Option Nat)
    (place : Nat) :
    (DeclarationEntry.layoutAll parent place entries).map (·.toDeclarationBody) =
      met.filterMap fun index => additions[index]?.map (·.body) := by
  induction nests generalizing parent place with
  | nil => rfl
  | cons here _ _ inside after =>
    rw [DeclarationEntry.layoutAll, DeclarationEntry.layout, List.map_append, List.map_cons, inside,
      after, List.filterMap_append, List.filterMap_cons, here]
    rfl

end Nests

end Addition

/-! ### Writing and reading what was added -/

theorem filterMap_range_getElem? {α : Type} (items : List α) :
    (List.range items.length).filterMap (items[·]?) = items := by
  induction items with
  | nil => rfl
  | cons first rest hypothesis =>
    rw [List.length_cons, List.range_succ_eq_map, List.filterMap_cons, List.filterMap_map]
    exact congrArg (first :: ·) hypothesis

namespace Module

open Addition (indicesBelow AreRooted DepthFirst Nests)

variable {module : Module} {additions : List Addition}

/-- The entries of a module nest the declarations that were added to it. None is left out where
what is in a declaration is gone through, as it was added later. -/
theorem Holds.exists_nests (holds : module.Holds additions) (rooted : AreRooted additions)
    (parent : Option Nat) :
    ∃ met, Nests additions (indicesBelow additions parent)
      ((indicesBelow additions parent).filterMap module.entryAt) met := by
  suffices each : ∀ indices : List Nat, (∀ index ∈ indices, index ∈ indicesBelow additions parent) →
      ∃ met, Nests additions indices (indices.filterMap module.entryAt) met from
    each _ fun _ member => member
  intro indices siblings
  induction indices with
  | nil => exact ⟨[], .nil⟩
  | cons index rest hypothesis =>
    obtain ⟨isFirst, areOthers⟩ := List.forall_mem_cons.1 siblings
    obtain ⟨addition, here, same⟩ := Addition.mem_indicesBelow.1 isFirst
    have inside := (List.getElem?_eq_some_iff.1 here).1
    have above : ∀ place ∈ parent, place < index := same ▸ rooted index addition here
    obtain ⟨inner, nestsInner⟩ := holds.exists_nests rooted (some index)
    obtain ⟨after, nestsAfter⟩ := hypothesis areOthers
    have entry := entryAt_eq (holds.declaration index addition here) fun _ member =>
      rooted.lt_of_mem_indicesBelow member
    rw [List.filterMap_cons, entry]
    exact ⟨_, .cons here nestsInner nestsAfter⟩
termination_by additions.length - parent.elim 0 (· + 1)
decreasing_by
  cases parent with
  | none => 
    dsimp only [Option.elim]
    omega
  | some place =>
    have := above place rfl
    dsimp only [Option.elim]
    omega

theorem Holds.exists_nests_definitions (holds : module.Holds additions)
    (rooted : AreRooted additions) :
    ∃ met, Nests additions (indicesBelow additions none) (ModuleEntry.ofModule module).definitions
      met := by
  have nests := holds.exists_nests rooted none
  rw [← holds.roots] at nests ⊢
  exact nests

/-- Where going through the entries meets the declarations one after the other from a place on,
the entries are laid out from there as the declarations were added. -/
theorem Holds.layoutAll_eq (holds : module.Holds additions) {indices met : List Nat}
    {entries : List DeclarationEntry} (nests : Nests additions indices entries met)
    {parent : Option Nat} (siblings : ∀ index ∈ indices, index ∈ indicesBelow additions parent)
    {place : Nat} (inOrder : met = List.range' place met.length) :
    DeclarationEntry.places place entries = indices ∧
      DeclarationEntry.layoutAll parent place entries =
        met.filterMap module.declaration? := by
  induction nests generalizing parent place with
  | nil => exact ⟨rfl, rfl⟩
  | @cons index addition children _ others inner after here nestsInner _ insideHypothesis
      afterHypothesis =>
    obtain ⟨isFirst, areOthers⟩ := List.forall_mem_cons.1 siblings
    obtain ⟨same, hereToo, rfl⟩ := Addition.mem_indicesBelow.1 isFirst
    obtain rfl := Option.some.inj (here.symm.trans hereToo)
    rw [List.cons_append, List.length_cons, List.range'_succ, List.length_append,
      ← List.range'_append_1] at inOrder
    obtain ⟨rfl, behind⟩ := List.cons.inj inOrder
    obtain ⟨innerOrder, afterOrder⟩ := List.append_inj behind List.length_range'.symm
    obtain ⟨innerPlaces, innerLayout⟩ := insideHypothesis (fun _ member => member) innerOrder
    obtain ⟨afterPlaces, afterLayout⟩ := afterHypothesis areOthers afterOrder
    have size : index + (DeclarationEntry.node addition.body children).size =
        index + 1 + inner.length := by
      rw [DeclarationEntry.size, nestsInner.length_eq, Nat.add_comm _ 1, Nat.add_assoc]
    rw [DeclarationEntry.places, DeclarationEntry.layoutAll, DeclarationEntry.layout, size,
      afterPlaces, afterLayout, innerPlaces, innerLayout, List.filterMap_append,
      List.filterMap_cons, holds.declaration index addition here]
    exact ⟨rfl, rfl⟩

/-- Where going through the entries of a module meets the declarations as they were added, the
module that is made from its entry is the module itself, as a skeleton. -/
theorem Holds.toModule_ofModule (holds : module.Holds additions)
    (nests : Nests additions (indicesBelow additions none)
      (ModuleEntry.ofModule module).definitions (List.range additions.length)) :
    (ModuleEntry.ofModule module).toModule = .ok { module with state := .skeleton } := by
  obtain ⟨places, layout⟩ := holds.layoutAll_eq nests (fun _ member => member)
    (by rw [List.length_range, List.range_eq_range'])
  rw [← holds.length] at layout
  have whole := layout.trans (filterMap_range_getElem? module.declarations)
  exact ModuleEntry.toModule_eq_ok_iff.2 ⟨rfl, rfl,
    ext_of_declarations rfl rfl rfl rfl rfl (places.trans holds.roots.symm) whole rfl⟩

/-- Where declarations were added to a module without any, each below one that was added before,
the entry of the module nests them, each once, and the module that is made from the entry has as
many declarations, in the order in which going through the entry meets them, with the indices of a
tree. Its entry is the same again. Where the additions were depth-first, it is the module itself,
as a skeleton. -/
theorem toModule_ofModule_addAll {start : Module} (roots : start.roots = [])
    (declarations : start.declarations = []) (additions : List Addition)
    (rooted : AreRooted additions) :
    let module := start.addAll additions
    let entry := ModuleEntry.ofModule module
    ∃ met rebuilt, Nests additions (indicesBelow additions none) entry.definitions met ∧
      met.Perm (List.range additions.length) ∧ entry.toModule = .ok rebuilt ∧
      rebuilt.declarations.length = module.declarations.length ∧
      rebuilt.declarations.map (·.toDeclarationBody) =
        met.filterMap (fun index => additions[index]?.map (·.body)) ∧
      rebuilt.Arena ∧ ModuleEntry.ofModule rebuilt = entry ∧
      (DepthFirst additions → rebuilt = { module with state := .skeleton }) := by
  intro module entry
  have holds : module.Holds additions := holds_addAll roots declarations additions rooted
  obtain ⟨met, nests⟩ := holds.exists_nests_definitions rooted
  have perm := nests.perm_range rooted
  have made : entry.toModule = .ok (entry.opened.extend none entry.definitions) :=
    ModuleEntry.toModule_eq_ok_iff.2 ⟨rfl, rfl, rfl⟩
  obtain ⟨rebuiltRoots, rebuiltDeclarations⟩ :=
    @preOrder_extend entry.opened rfl rfl entry.definitions
  refine ⟨met, _, nests, perm, made, ?_, ?_, PreOrder.arena ⟨_, rebuiltRoots, rebuiltDeclarations⟩,
    ModuleEntry.ofModule_of_toModule made, fun depthFirst => ?_⟩
  · rw [rebuiltDeclarations, DeclarationEntry.length_layoutAll, holds.length]
    exact nests.length_eq.symm.trans (perm.length_eq.trans List.length_range)
  · rw [rebuiltDeclarations]
    exact nests.bodies_layoutAll none 0
  · rw [nests.eq_range rooted depthFirst] at nests
    exact Except.ok.inj (made.symm.trans (holds.toModule_ofModule nests))

/-- Two classes and then their methods in turns, and a class with its method and then another. -/
theorem toModule_ofModule_addAll_shelf :
    let start := skeleton "room" ⟨"room.py"⟩
    let named : String → DeclarationBody := fun name =>
      ⟨name, Dotted.below "room" name, .variable ⟨some (.toKey "room.Shelf"), false, false, none⟩,
        none, none⟩
    let inTurns : List Addition := [⟨none, named "Shelf"⟩, ⟨none, named "Board"⟩,
      ⟨some 0, named "join"⟩, ⟨some 1, named "saw"⟩, ⟨some 0, named "split"⟩]
    let inDepth : List Addition :=
      [⟨none, named "Shelf"⟩, ⟨some 0, named "join"⟩, ⟨none, named "Board"⟩]
    AreRooted inTurns ∧ AreRooted inDepth ∧ DepthFirst inDepth ∧
      (∃ rebuilt, (ModuleEntry.ofModule (start.addAll inTurns)).toModule = .ok rebuilt ∧
        rebuilt.declarations.map (·.name) = ["Shelf", "join", "split", "Board", "saw"]) ∧
      (ModuleEntry.ofModule (start.addAll inDepth)).toModule = .ok (start.addAll inDepth) := by
  intro start named inTurns inDepth
  have turnsRooted : AreRooted inTurns := by decide
  have depthRooted : AreRooted inDepth := by decide
  have inShelf : ∀ inner, Addition.IsIn inDepth 0 inner → inner < 2 := by
    intro inner isIn
    induction isIn with
    | refl => decide
    | @tail parent child _ member before =>
      have each : ∀ parent < 2, ∀ child ∈ indicesBelow inDepth (some parent), child < 2 := by
        decide
      exact each parent before child member
  have depthFirst : DepthFirst inDepth := by
    intro parent first second isFirst isSecond before
    have siblings : ∀ one ∈ inDepth.zipIdx, ∀ two ∈ inDepth.zipIdx,
        one.1.parent = two.1.parent → one.2 < two.2 → one.2 = 0 ∧ two.2 = 2 := by decide
    obtain ⟨one, here, rfl⟩ := Addition.mem_indicesBelow.1 isFirst
    obtain ⟨two, hereToo, same⟩ := Addition.mem_indicesBelow.1 isSecond
    obtain ⟨rfl, rfl⟩ := siblings (one, first) (List.mem_zipIdx_iff_getElem?.2 here) (two, second)
      (List.mem_zipIdx_iff_getElem?.2 hereToo) same.symm before
    exact inShelf
  refine ⟨turnsRooted, depthRooted, depthFirst, ?_, ?_⟩
  · obtain ⟨met, rebuilt, nests, -, made, -, bodies, -⟩ :=
      @toModule_ofModule_addAll start rfl rfl inTurns turnsRooted
    have inBoard := @Nests.cons inTurns 3 _ [] [] [] [] [] rfl .nil .nil
    have atSplit := @Nests.cons inTurns 4 _ [] [] [] [] [] rfl .nil .nil
    have inShelf := @Nests.cons inTurns 2 _ [] _ [4] [] _ rfl .nil atSplit
    have atBoard := @Nests.cons inTurns 1 _ _ [] [] _ [] rfl inBoard .nil
    have order := @Nests.cons inTurns 0 _ _ _ [1] _ _ rfl inShelf atBoard
    obtain ⟨-, rfl⟩ := order.unique nests
    refine ⟨rebuilt, made, ?_⟩
    have names := congrArg (List.map (·.name)) bodies
    rw [List.map_map] at names
    exact names
  · obtain ⟨met, rebuilt, -, -, made, -, -, -, -, same⟩ :=
      @toModule_ofModule_addAll start rfl rfl inDepth depthRooted
    rw [made, same depthFirst]
    rfl

end Module

end Declarations
