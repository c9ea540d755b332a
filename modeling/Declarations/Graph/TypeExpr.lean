/-
This file holds type expressions and the references in them. A reference is a key and
how far it has been resolved; it never owns what it points at. All references of a type
are seen through `references`, and changed through `mapReferences`, or through
`visitReferences` where a visit has effects.
-/

namespace Declarations

/-- What a key stands for: a declaration, by its place in a module, or a module. -/
inductive Target where
  | declaration (module : String) (index : Nat)
  | module (name : String)
deriving DecidableEq, Repr, Inhabited

/-- The module that holds a target. -/
def Target.owner : Target → String
  | .declaration holder _ => holder
  | .module name => name

/-- How far a reference has been resolved. -/
inductive Resolution where
  | pending
  | resolved (target : Target)
  | unresolved
deriving DecidableEq, Repr, Inhabited

/-- A key, and what it was found to stand for. -/
structure Reference where
  key : String
  resolution : Resolution
deriving DecidableEq, Repr, Inhabited

namespace Reference

/-- A reference that was not looked up yet. -/
def pending (key : String) : Reference :=
  ⟨key, .pending⟩

/-- The target of a resolved reference. -/
def target? (reference : Reference) : Option Target :=
  match reference.resolution with
  | .resolved target => some target
  | _ => none

/-- Whether a reference was not looked up yet. -/
def isPending (reference : Reference) : Bool :=
  reference.resolution == .pending

/-- Whether a reference has a target. -/
def isResolved (reference : Reference) : Bool :=
  reference.target?.isSome

/-- Whether a reference was looked up in vain. -/
def isUnresolved (reference : Reference) : Bool :=
  reference.resolution == .unresolved

end Reference

/-- A type with its names bound. -/
inductive TypeExpr where
  | any
  | absent
  | builtin (name : String) (arguments : List TypeExpr)
  | named (reference : Reference) (arguments : List TypeExpr)
  | union (members : List TypeExpr)
  | tuple (items : List TypeExpr)
  /-- A function type; without parameters it takes any. -/
  | callable (parameters : Option (List TypeExpr)) (result : TypeExpr)
  | literal (values : List String)
  /-- A type that was not understood, as it is written. -/
  | unknown (text : String)
deriving Repr, Inhabited

namespace TypeExpr

/-- A builtin without arguments. -/
def plain (name : String) : TypeExpr :=
  .builtin name []

/-- A pending reference without arguments. -/
def toKey (key : String) : TypeExpr :=
  .named (.pending key) []

/-! ### Equality -/

mutual

/-- Whether two types are the same. -/
def same : TypeExpr → TypeExpr → Bool
  | .any, .any | .absent, .absent => true
  | .builtin name arguments, .builtin other others => name == other && sameAll arguments others
  | .named reference arguments, .named other others =>
    reference == other && sameAll arguments others
  | .union members, .union others => sameAll members others
  | .tuple items, .tuple others => sameAll items others
  | .callable parameters result, .callable others other =>
    sameGiven parameters others && same result other
  | .literal values, .literal others => values == others
  | .unknown text, .unknown other => text == other
  | _, _ => false

/-- Whether two lists hold the same types in the same order. -/
def sameAll : List TypeExpr → List TypeExpr → Bool
  | [], [] => true
  | first :: rest, other :: others => same first other && sameAll rest others
  | _, _ => false

/-- Whether two parameter lists are the same, or both are missing. -/
def sameGiven : Option (List TypeExpr) → Option (List TypeExpr) → Bool
  | none, none => true
  | some parameters, some others => sameAll parameters others
  | _, _ => false

end

mutual

theorem same_self : (type : TypeExpr) → same type type = true
  | .any | .absent | .literal _ | .unknown _ => by simp [same]
  | .builtin _ arguments => by simp [same, sameAll_self arguments]
  | .named _ arguments => by simp [same, sameAll_self arguments]
  | .union members => by simp [same, sameAll_self members]
  | .tuple items => by simp [same, sameAll_self items]
  | .callable parameters result => by simp [same, sameGiven_self parameters, same_self result]

theorem sameAll_self : (types : List TypeExpr) → sameAll types types = true
  | [] => by simp [sameAll]
  | first :: rest => by simp [sameAll, same_self first, sameAll_self rest]

theorem sameGiven_self : (types : Option (List TypeExpr)) → sameGiven types types = true
  | none => by simp [sameGiven]
  | some types => by simp [sameGiven, sameAll_self types]

end

mutual

theorem eq_of_same : (type other : TypeExpr) → same type other = true → type = other
  | .any, other, agree => by cases other <;> simp_all [same]
  | .absent, other, agree => by cases other <;> simp_all [same]
  | .literal _, other, agree => by cases other <;> simp_all [same]
  | .unknown _, other, agree => by cases other <;> simp_all [same]
  | .builtin _ arguments, other, agree => by
    cases other <;> simp only [same, Bool.false_eq_true, Bool.and_eq_true, beq_iff_eq] at agree
    next name others => rw [agree.1, eq_of_sameAll arguments others agree.2]
  | .named _ arguments, other, agree => by
    cases other <;> simp only [same, Bool.false_eq_true, Bool.and_eq_true, beq_iff_eq] at agree
    next reference others => rw [agree.1, eq_of_sameAll arguments others agree.2]
  | .union members, other, agree => by
    cases other <;> simp only [same, Bool.false_eq_true] at agree
    next others => rw [eq_of_sameAll members others agree]
  | .tuple items, other, agree => by
    cases other <;> simp only [same, Bool.false_eq_true] at agree
    next others => rw [eq_of_sameAll items others agree]
  | .callable parameters result, other, agree => by
    cases other <;> simp only [same, Bool.false_eq_true, Bool.and_eq_true] at agree
    next others value =>
      rw [eq_of_sameGiven parameters others agree.1, eq_of_same result value agree.2]

theorem eq_of_sameAll : (types others : List TypeExpr) → sameAll types others = true →
    types = others
  | [], others, agree => by cases others <;> simp_all [sameAll]
  | first :: rest, others, agree => by
    cases others <;> simp only [sameAll, Bool.false_eq_true, Bool.and_eq_true] at agree
    next other others =>
      rw [eq_of_same first other agree.1, eq_of_sameAll rest others agree.2]

theorem eq_of_sameGiven : (types others : Option (List TypeExpr)) →
    sameGiven types others = true → types = others
  | none, others, agree => by cases others <;> simp_all [sameGiven]
  | some types, others, agree => by
    cases others <;> simp only [sameGiven, Bool.false_eq_true] at agree
    next others => rw [eq_of_sameAll types others agree]

end

instance : DecidableEq TypeExpr := fun type other =>
  decidable_of_iff (same type other = true)
    ⟨eq_of_same type other, fun equal => equal ▸ same_self type⟩

/-! ### References -/

mutual

/-- The references in a type, from left to right. -/
def references : TypeExpr → List Reference
  | .named reference arguments => reference :: referencesAll arguments
  | .builtin _ arguments => referencesAll arguments
  | .union members => referencesAll members
  | .tuple items => referencesAll items
  | .callable parameters result => referencesGiven parameters ++ references result
  | .any | .absent | .literal _ | .unknown _ => []

/-- The references in types, from left to right. -/
def referencesAll : List TypeExpr → List Reference
  | [] => []
  | first :: rest => references first ++ referencesAll rest

/-- The references in a parameter list. -/
def referencesGiven : Option (List TypeExpr) → List Reference
  | none => []
  | some types => referencesAll types

end

mutual

/-- Changes every reference in a type. -/
def mapReferences (change : Reference → Reference) : TypeExpr → TypeExpr
  | .named reference arguments => .named (change reference) (mapReferencesAll change arguments)
  | .builtin name arguments => .builtin name (mapReferencesAll change arguments)
  | .union members => .union (mapReferencesAll change members)
  | .tuple items => .tuple (mapReferencesAll change items)
  | .callable parameters result =>
    .callable (mapReferencesGiven change parameters) (mapReferences change result)
  | .any => .any
  | .absent => .absent
  | .literal values => .literal values
  | .unknown text => .unknown text

/-- Changes every reference in types. -/
def mapReferencesAll (change : Reference → Reference) : List TypeExpr → List TypeExpr
  | [] => []
  | first :: rest => mapReferences change first :: mapReferencesAll change rest

/-- Changes every reference in a parameter list. -/
def mapReferencesGiven (change : Reference → Reference) :
    Option (List TypeExpr) → Option (List TypeExpr)
  | none => none
  | some types => some (mapReferencesAll change types)

end

section Visiting

variable {m : Type → Type} [Monad m]

mutual

/-- Visits the references in a type from left to right; what a visit gives takes the place of
the reference. -/
def visitReferences (visit : Reference → m Reference) : TypeExpr → m TypeExpr
  | .named reference arguments => do
    let reference ← visit reference
    let arguments ← visitReferencesAll visit arguments
    return .named reference arguments
  | .builtin name arguments => do
    let arguments ← visitReferencesAll visit arguments
    return .builtin name arguments
  | .union members => do
    let members ← visitReferencesAll visit members
    return .union members
  | .tuple items => do
    let items ← visitReferencesAll visit items
    return .tuple items
  | .callable parameters result => do
    let parameters ← visitReferencesGiven visit parameters
    let result ← visitReferences visit result
    return .callable parameters result
  | .any => return .any
  | .absent => return .absent
  | .literal values => return .literal values
  | .unknown text => return .unknown text

/-- Visits the references in types from left to right. -/
def visitReferencesAll (visit : Reference → m Reference) : List TypeExpr → m (List TypeExpr)
  | [] => return []
  | first :: rest => do
    let first ← visitReferences visit first
    let rest ← visitReferencesAll visit rest
    return first :: rest

/-- Visits the references in a parameter list. -/
def visitReferencesGiven (visit : Reference → m Reference) :
    Option (List TypeExpr) → m (Option (List TypeExpr))
  | none => return none
  | some types => do
    let types ← visitReferencesAll visit types
    return some types

end

end Visiting

/-! ### Text -/

/-- Arguments in brackets, which are left out when there is no argument. -/
def inBrackets : List String → String
  | [] => ""
  | texts => "[" ++ ", ".intercalate texts ++ "]"

mutual

/-- The text of a type. -/
def text : TypeExpr → String
  | .any => "Any"
  | .absent => "None"
  | .builtin name arguments => name ++ inBrackets (textsOf arguments)
  | .named reference arguments => reference.key ++ inBrackets (textsOf arguments)
  | .union members => "Union[" ++ ", ".intercalate (textsOf members) ++ "]"
  | .tuple items => "tuple[" ++ ", ".intercalate (textsOf items) ++ "]"
  | .callable parameters result =>
    "Callable[" ++ givenText parameters ++ ", " ++ text result ++ "]"
  | .literal values => "Literal[" ++ ", ".intercalate values ++ "]"
  | .unknown spelling => spelling

/-- The texts of types. -/
def textsOf : List TypeExpr → List String
  | [] => []
  | first :: rest => text first :: textsOf rest

/-- The text of a parameter list. -/
def givenText : Option (List TypeExpr) → String
  | none => "..."
  | some types => "[" ++ ", ".intercalate (textsOf types) ++ "]"

end

end TypeExpr

end Declarations
