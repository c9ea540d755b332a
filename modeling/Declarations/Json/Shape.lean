/-
This file reads typed values out of JSON values and says what is wrong with a value that
has another shape. The fields of a record are read in the order in which they stand, so the
first wrong one is reported, and only then those that are missing, in the order in which
the record declares them. A record may also be given as the list of its fields. A value
that was read as a whole has each field once; elsewhere a field may be given twice, and a
record refuses this of the fields it knows.

Records with a tag are read in two steps: their tag first, then their other fields from
what was set aside. Inside such a record a tag may also be given by its number, and a
list that is too long is reported with the number of items it should have.
-/

import Declarations.Json.Printer
import Declarations.Text.Quoted

namespace Declarations.Json

/-- Why a value does not have the shape that is asked for. -/
inductive ShapeError where
  | missing (field : String)
  | repeated (field : String)
  | unknownWord (word : String) (known : List String)
  | wrongType (value : Json) (expected : String)
  | wrongValue (value : Json) (expected : String)
  | wrongLength (length : Nat) (expected : String)
deriving Repr, Inhabited

/-- What a value is, as messages show it. -/
def kindText : Json → String
  | .null => "null"
  | .bool value => "boolean \x60" ++ (if value then "true" else "false") ++ "\x60"
  | .integer value => "integer \x60" ++ toString value ++ "\x60"
  | .decimal value => "floating point \x60" ++ decimalText value ++ "\x60"
  | .text value => "string " ++ Quoted.inQuotes value
  | .list _ => "sequence"
  | .object _ => "map"

/-- A word as messages quote it. -/
def marked (word : String) : String :=
  "\x60" ++ word ++ "\x60"

/-- The words that may stand in a place. -/
def choice : List String → String
  | [] => "there are no variants"
  | [word] => "expected " ++ marked word
  | [word, other] => "expected " ++ marked word ++ " or " ++ marked other
  | words => "expected one of " ++ ", ".intercalate (words.map marked)

/-- The message of an error. -/
def ShapeError.message : ShapeError → String
  | .missing field => "missing field " ++ marked field
  | .repeated field => "duplicate field " ++ marked field
  | .unknownWord word known => "unknown variant " ++ marked word ++ ", " ++ choice known
  | .wrongType value expected => "invalid type: " ++ kindText value ++ ", expected " ++ expected
  | .wrongValue value expected => "invalid value: " ++ kindText value ++ ", expected " ++ expected
  | .wrongLength length expected =>
    "invalid length " ++ toString length ++ ", expected " ++ expected

/-- Whether a value stands by itself, or among what a tagged record set aside. -/
inductive Standing where
  | direct
  | aside
deriving DecidableEq, Repr, Inhabited

/-- What reads a value of a type. -/
abbrev Shape (α : Type) : Type :=
  Json → Except ShapeError α

namespace Shape

/-- A text. -/
def text : Shape String
  | .text value => .ok value
  | other => .error (.wrongType other "a string")

/-- The text of a path. -/
def pathText : Shape String
  | .text value => .ok value
  | other => .error (.wrongType other "path string")

/-- A truth value. -/
def bool : Shape Bool
  | .bool value => .ok value
  | other => .error (.wrongType other "a boolean")

/-- A natural number of so many bits; messages name its type. -/
def natural (bits : Nat) (type : String) : Shape Nat
  | .integer value =>
    if 0 ≤ value ∧ value < Nat.pow 2 bits then .ok value.toNat
    else .error (.wrongValue (.integer value) type)
  | other => .error (.wrongType other type)

/-- A value that may be absent. -/
def optional {α : Type} (shape : Shape α) : Shape (Option α)
  | .null => .ok none
  | other => (shape other).map some

/-- A list. -/
def list {α : Type} (shape : Shape α) : Shape (List α)
  | .list items => items.mapM shape
  | other => .error (.wrongType other "a sequence")

/-- What a word stands for. -/
def ofWord {α : Type} (known : List (String × α)) (word : String) : Except ShapeError α :=
  match known.lookup word with
  | some value => .ok value
  | none => .error (.unknownWord word (known.map (·.1)))

/-- What the tag of a record stands for. -/
def tag {α : Type} (standing : Standing) (known : List (String × α)) : Shape α
  | .text word => ofWord known word
  | .integer place =>
    if standing = .aside ∧ 0 ≤ place then
      match known[place.toNat]? with
      | some (_, value) => .ok value
      | none => .error (.wrongValue (.integer place) s!"variant index 0 <= i < {known.length}")
    else .error (.wrongType (.integer place) "variant identifier")
  | other => .error (.wrongType other "variant identifier")

/-- What a word stands for. It may also be the only field of an object that holds nothing. -/
def word {α : Type} (standing : Standing) (known : List (String × α)) : Shape α
  | .text word => ofWord known word
  | .object [(word, content)] => do
    let value ← ofWord known word
    match standing, content with
    | _, .null => return value
    | .aside, .object [] => return value
    | _, other => throw (.wrongType other "unit")
  | .object fields => .error (.wrongValue (.object fields) "map with a single key")
  | other => .error (.wrongType other "string or map")

/-- How many fields a record has, as messages say it. -/
def elements (count : Nat) : String :=
  if count = 1 then "1 element" else s!"{count} elements"

/-- What is said when a field of a record given as a list is missing. -/
def tooShort (record : String) (count length : Nat) : ShapeError :=
  .wrongLength length s!"{record} with {elements count}"

/-- What is said when a record given as a list goes on after its last field. -/
def tooLong (standing : Standing) (count length : Nat) : ShapeError :=
  .wrongLength length <|
    match standing with
    | .direct => "fewer elements in array"
    | .aside => s!"{elements count} in sequence"

/-- What was read of a record, and what to say about a field that is missing. -/
structure Draft (σ : Type) where
  found : σ
  absent : String → ShapeError

/-- A field that a record must have. -/
def Draft.require {σ α : Type} (draft : Draft σ) (field : String) (get : σ → Option α) :
    Except ShapeError α :=
  match get draft.found with
  | some value => .ok value
  | none => .error (draft.absent field)

/-- Refuses fields of which one that is known is given twice. -/
def once (known : List String) : List (String × Json) → Except ShapeError Unit
  | [] => .ok ()
  | (field, _) :: rest =>
    if field ∈ known ∧ field ∈ rest.map (·.1) then .error (.repeated field)
    else once known rest

/-- Reads fields into a draft one after the other. -/
def fill {σ : Type} (read : σ → String → Shape σ) (start : σ) (fields : List (String × Json)) :
    Except ShapeError σ :=
  fields.foldlM (fun draft (field, value) => read draft field value) start

/-- Reads the fields of a record. -/
def record {σ : Type} (name : String) (standing : Standing) (fields : List String) (start : σ)
    (read : σ → String → Shape σ) : Shape (Draft σ)
  | .object given => do
    once fields given
    let found ← fill read start given
    return ⟨found, .missing⟩
  | .list items => do
    let found ← fill read start (fields.zip items)
    if fields.length < items.length then throw (tooLong standing fields.length items.length)
    return ⟨found, fun _ => tooShort name fields.length items.length⟩
  | other => .error (.wrongType other name)

end Shape

end Declarations.Json
