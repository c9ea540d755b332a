/-
This file holds TOML tables while they are filled. A table may be written in several
places, but none of it twice: a table that has a heading gets no other, a table that
grew out of dotted names grows by dotted names only, and a value is never replaced.
-/

import Declarations.Json.Value

namespace Declarations.Toml

/-- What a name in a table holds. -/
inductive Item where
  | value (content : Json)
  /-- A table. It is open while no heading named it, and dotted when names with dots made it. -/
  | table (isOpen isDotted : Bool) (fields : List (String × Item))
  /-- Tables under one repeated heading, last one first. -/
  | tables (elements : List (List (String × Item)))
deriving Repr, Inhabited

/-- The fields of a table. -/
abbrev Fields : Type :=
  List (String × Item)

/-- The fields with one that has a new content; a new one comes last. -/
def Fields.set (fields : Fields) (name : String) (item : Item) : Fields :=
  if fields.any fun field => field.1 == name then
    fields.map fun field => if field.1 == name then (name, item) else field
  else fields ++ [(name, item)]

/-- Changes the table at the end of a path. Tables that are missing on the way are made, and
`change` is told whether the table grew out of dotted names. Of repeated tables the last one
counts. -/
def Fields.alter (dotted : Bool) (change : Bool → Fields → Option Fields) :
    List String → Bool → Fields → Option Fields
  | [], isDotted, fields => change isDotted fields
  | name :: path, _, fields =>
    match fields.lookup name with
    | none => do
      let inner ← alter dotted change path dotted []
      return fields ++ [(name, .table true dotted inner)]
    | some (.value _) => none
    | some (.tables []) => none
    | some (.tables (last :: others)) => do
      let inner ← alter dotted change path false last
      return set fields name (.tables (inner :: others))
    | some (.table isOpen isDotted inner) =>
      if dotted && !isOpen then none
      else do
        let inner ← alter dotted change path isDotted inner
        return set fields name (.table isOpen isDotted inner)

/-- Puts a value under a name that may have dots. -/
def Fields.insert (fields : Fields) (path : List String) (name : String) (value : Json) :
    Option Fields :=
  fields.alter true (fun isDotted fields =>
    if isDotted == path.isEmpty || fields.any fun field => field.1 == name then none
    else some (fields ++ [(name, .value value)])) path false

/-- Puts the values under their names, one after the other. -/
def Fields.insertAll (fields : Fields) (entries : List (List String × String × Json)) :
    Option Fields :=
  entries.foldlM (fun fields (path, name, value) => fields.insert path name value) fields

/-- A table under a heading, with the values that follow the heading. -/
def Fields.insertTable (fields : Fields) (path : List String) (name : String)
    (entries : List (List String × String × Json)) : Option Fields :=
  fields.alter false (fun _ fields =>
    match fields.lookup name with
    | none => do
      return fields ++ [(name, .table false false (← Fields.insertAll [] entries))]
    | some (.table true false inner) => do
      return set fields name (.table false false (← Fields.insertAll inner entries))
    | some _ => none) path false

/-- One more table under a repeated heading. -/
def Fields.insertElement (fields : Fields) (path : List String) (name : String)
    (entries : List (List String × String × Json)) : Option Fields :=
  fields.alter false (fun _ fields =>
    match fields.lookup name with
    | none => do return fields ++ [(name, .tables [← Fields.insertAll [] entries])]
    | some (.tables elements) => do
      return set fields name (.tables ((← Fields.insertAll [] entries) :: elements))
    | some _ => none) path false

mutual

/-- What a name holds, as JSON. -/
def Item.toJson : Item → Json
  | .value content => content
  | .table _ _ fields => .object (fieldsToJson fields)
  | .tables elements => .list (elementsToJson elements).reverse

/-- Fields as JSON. -/
def fieldsToJson : List (String × Item) → List (String × Json)
  | [] => []
  | (name, item) :: rest => (name, item.toJson) :: fieldsToJson rest

/-- Tables as JSON. -/
def elementsToJson : List (List (String × Item)) → List Json
  | [] => []
  | first :: rest => .object (fieldsToJson first) :: elementsToJson rest

end

end Declarations.Toml
