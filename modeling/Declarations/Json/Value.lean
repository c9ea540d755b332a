/-
This file holds JSON values. The fields of an object keep the order they were written
in; a value that was read, or that stands in a snapshot, has them in ascending order of
their names, each name once.
-/

import Declarations.Json.Binary64
import Declarations.NameMap

namespace Declarations

/-- A JSON value. -/
inductive Json where
  | null
  | bool (value : Bool)
  | integer (value : Int)
  | decimal (value : Json.Binary64)
  | text (value : String)
  | list (items : List Json)
  | object (fields : List (String × Json))
deriving Repr, Inhabited

namespace Json

/-- The fields in ascending order of their names; the last value of a name stays. -/
def sortFields (fields : List (String × Json)) : List (String × Json) :=
  fields.foldl (fun sorted (name, value) => NameMap.insertEntry name value sorted) []

/-- The value of a field. -/
def field? (name : String) : Json → Option Json
  | .object fields => fields.lookup name
  | _ => none

mutual

/-- The same value with the fields of every object in ascending order. -/
def sorted : Json → Json
  | .list items => .list (sortedItems items)
  | .object fields => .object (sortFields (sortedFields fields))
  | other => other

/-- Sorts the fields inside every item. -/
def sortedItems : List Json → List Json
  | [] => []
  | item :: rest => sorted item :: sortedItems rest

/-- Sorts the fields inside every field. -/
def sortedFields : List (String × Json) → List (String × Json)
  | [] => []
  | (name, value) :: rest => (name, sorted value) :: sortedFields rest

end

end Json

end Declarations
