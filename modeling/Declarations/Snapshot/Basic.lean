/-
This file holds snapshots: modules by name, each as a JSON value that is not looked into
before the module is asked for, so that one that is malformed does not affect the others.
-/

import Declarations.Graph.ModuleSet
import Declarations.Json.Printer
import Declarations.Problem
import Declarations.Snapshot.Encoding

namespace Declarations

/-- Values by the names of modules. -/
abbrev Snapshot : Type :=
  NameMap Json

namespace Snapshot

/-- Puts a module under its name. -/
def addModule (snapshot : Snapshot) (module : Module) : Snapshot :=
  snapshot.insert module.name (ModuleEntry.ofModule module).toJson.sorted

/-- The snapshot of modules. -/
def ofModules (modules : ModuleSet) : Snapshot :=
  modules.values.foldl addModule NameMap.empty

/-- A snapshot with one module. -/
def ofModule (module : Module) : Snapshot :=
  addModule NameMap.empty module

/-- A snapshot with one value, under the name that stands in it. -/
def ofValue (value : Json) : Except Problem Snapshot :=
  match value.field? "name" with
  | some (.text name) => .ok (NameMap.empty.insert name value)
  | _ => .error (.malformed "<unnamed>" .unnamed)

/-- A snapshot as one JSON value. -/
def toJson (snapshot : Snapshot) : Json :=
  .object snapshot.entries

/-- A snapshot as text. -/
def render (indented : Bool) (snapshot : Snapshot) : String :=
  Json.render indented snapshot.toJson

/-- The snapshot of a text. A text that starts with something else than an object is refused
for it, before what follows is read. -/
def ofText (text : String) : Except JsonProblem Snapshot :=
  let place := (Json.ReadPlace.start text).skipBlanks
  match place.rest.head? with
  | some '{' =>
    match Json.read text with
    | .ok (.object fields) => .ok (NameMap.ofList fields)
    | .ok other => .error (.shape (.wrongType other "a map") place.line place.column)
    | .error error => .error (.text error)
  | some '[' => .error (.shape (.wrongType (.list []) "a map") place.line place.column)
  | _ =>
    match Json.readValue .whole 1 0 () place with
    | .ok (value, place) => .error (.shape (.wrongType value "a map") place.line place.column)
    | .error error => .error (.text error)

/-- Reads a snapshot from a file. -/
def read (disk : Disk) (path : Path) : Except Problem Snapshot :=
  match disk.readText path with
  | .error fault => .error (.disk (some path) fault)
  | .ok text =>
    match ofText text with
    | .ok snapshot => .ok snapshot
    | .error problem => .error (.json problem)

end Snapshot

end Declarations
