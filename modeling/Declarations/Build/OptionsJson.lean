/-
This file reads and writes the options of a build as a JSON record. Every option that is
left out has its default.
-/

import Declarations.Build.Options
import Declarations.Json.Shape

namespace Declarations

open Json (Shape ShapeError)

/-- The policies, in the order in which messages list them. -/
def FollowImports.all : List FollowImports :=
  [normal, silent, skip, error]

/-- The policies by their words. -/
def FollowImports.known : List (String × FollowImports) :=
  FollowImports.all.map fun policy => (policy.word, policy)

namespace BuildOptions

/-- The names of the options, in order. -/
def fieldNames : List String :=
  ["incremental", "fine_grained_incremental", "preserve_asts", "skip_version_check",
    "strict_optional", "follow_imports", "include_docstrings", "cache_dir", "exclude"]

/-- Puts a value into the place of its name. -/
def fill (options : BuildOptions) (field : String) : Shape BuildOptions := fun value =>
  match field with
  | "incremental" => return { options with incremental := ← Shape.bool value }
  | "fine_grained_incremental" => return { options with fineGrained := ← Shape.bool value }
  | "preserve_asts" => return { options with preserveAsts := ← Shape.bool value }
  | "skip_version_check" => return { options with skipVersionCheck := ← Shape.bool value }
  | "strict_optional" => return { options with strictOptional := ← Shape.bool value }
  | "follow_imports" =>
    return { options with followImports := ← Shape.word .direct FollowImports.known value }
  | "include_docstrings" => return { options with includeDocstrings := ← Shape.bool value }
  | "cache_dir" => return { options with cacheDir := ⟨← Shape.pathText value⟩ }
  | "exclude" => return { options with exclude := ← Shape.list Shape.text value }
  | _ => return options

/-- Options. -/
def ofJson : Shape BuildOptions := fun value => do
  let draft ← Shape.record "struct BuildOptions" .direct fieldNames default fill value
  return draft.found

/-- Options as JSON. -/
def toJson (options : BuildOptions) : Json :=
  .object
    [("incremental", .bool options.incremental),
      ("fine_grained_incremental", .bool options.fineGrained),
      ("preserve_asts", .bool options.preserveAsts),
      ("skip_version_check", .bool options.skipVersionCheck),
      ("strict_optional", .bool options.strictOptional),
      ("follow_imports", .text options.followImports.word),
      ("include_docstrings", .bool options.includeDocstrings),
      ("cache_dir", .text options.cacheDir.text),
      ("exclude", .list (options.exclude.map .text))]

end BuildOptions

end Declarations
