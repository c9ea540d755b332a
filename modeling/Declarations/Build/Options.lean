/-
This file holds the options of a build.
-/

import Declarations.Disk.Path

namespace Declarations

/-- What happens to imports that lead to files outside the inputs. -/
inductive FollowImports where
  | normal
  | silent
  | skip
  | error
deriving DecidableEq, Repr, Inhabited

namespace FollowImports

/-- Whether the imported files are read. -/
def follows : FollowImports → Bool
  | .normal | .silent => true
  | .skip | .error => false

/-- The word for a policy. -/
def word : FollowImports → String
  | .normal => "normal"
  | .silent => "silent"
  | .skip => "skip"
  | .error => "error"

/-- The policy of a word. -/
def ofWord? (word : String) : Option FollowImports :=
  [normal, silent, skip, error].find? fun policy => policy.word == word

end FollowImports

/-- The options that shape a module. -/
@[ext]
structure LoweringOptions where
  /-- Whether the absent value is kept as a member of unions. -/
  strictOptional : Bool
  /-- Whether lines and the texts of values are kept. -/
  preserveAsts : Bool
  includeDocstrings : Bool
deriving DecidableEq, Repr, Inhabited

/-- The options of a build. -/
structure BuildOptions where
  /-- Whether the cache is read and written. -/
  incremental : Bool
  /-- Whether entries of the cache count although the inputs changed. -/
  fineGrained : Bool
  /-- Whether lines and the texts of values are kept. -/
  preserveAsts : Bool
  /-- Whether a cache counts that another version wrote. -/
  skipVersionCheck : Bool
  /-- Whether the absent value is kept as a member of unions. -/
  strictOptional : Bool
  followImports : FollowImports
  includeDocstrings : Bool
  cacheDir : Path
  /-- Patterns for files that are not read. -/
  exclude : List String
deriving DecidableEq, Repr

namespace BuildOptions

/-- The options when none is given. -/
def default : BuildOptions where
  incremental := false
  fineGrained := false
  preserveAsts := true
  skipVersionCheck := true
  strictOptional := false
  followImports := .silent
  includeDocstrings := true
  cacheDir := ⟨".declgraph_cache"⟩
  exclude := ["__pycache__/**", ".git/**", "venv/**", ".venv/**"]

instance : Inhabited BuildOptions := ⟨default⟩

/-- The options that shape the modules of a build. -/
def lowering (options : BuildOptions) : LoweringOptions where
  strictOptional := options.strictOptional
  preserveAsts := options.preserveAsts
  includeDocstrings := options.includeDocstrings

instance : Coe BuildOptions LoweringOptions := ⟨lowering⟩

end BuildOptions

end Declarations
