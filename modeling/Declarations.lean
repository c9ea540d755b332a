/-
Cross-module declaration graphs: modules are read from source files, the names in them
are bound, and the result is written to and loaded from snapshots.
-/

import Declarations.Build.Analysis
import Declarations.Build.Builder
import Declarations.Build.Fingerprint
import Declarations.Build.Options
import Declarations.Build.OptionsJson
import Declarations.Build.Trial
import Declarations.Characters.Blank
import Declarations.Characters.Letters
import Declarations.Characters.Names
import Declarations.Characters.Printable
import Declarations.Characters.Ranges
import Declarations.Command.Grammar
import Declarations.Command.Invocation
import Declarations.Command.Run
import Declarations.Config.Basic
import Declarations.Disk.Basic
import Declarations.Disk.Path
import Declarations.Docstring.Index
import Declarations.Docstring.Literal
import Declarations.Docstring.Margin
import Declarations.Glob.Pattern
import Declarations.Graph.Declaration
import Declarations.Graph.Module
import Declarations.Graph.ModuleSet
import Declarations.Graph.TypeExpr
import Declarations.Json.Binary64
import Declarations.Json.Printer
import Declarations.Json.Reader
import Declarations.Json.Shape
import Declarations.Json.Value
import Declarations.Linking.Link
import Declarations.Lowering.Imports
import Declarations.Lowering.Module
import Declarations.Lowering.StandardLibrary
import Declarations.Lowering.Types
import Declarations.Main
import Declarations.NameMap
import Declarations.Outline.Basic
import Declarations.Outline.OfSource
import Declarations.Outline.TypeHint
import Declarations.Problem
import Declarations.Proofs.Build.Accounting
import Declarations.Proofs.Build.CacheHistory
import Declarations.Proofs.Build.Collecting
import Declarations.Proofs.Build.Entries
import Declarations.Proofs.Build.Finding
import Declarations.Proofs.Build.InputOrder
import Declarations.Proofs.Build.InputSets
import Declarations.Proofs.Build.KeySearch
import Declarations.Proofs.Build.Lookup
import Declarations.Proofs.Build.Naming
import Declarations.Proofs.Build.Outcomes
import Declarations.Proofs.Build.Rebuilding
import Declarations.Proofs.Build.Reordering
import Declarations.Proofs.Build.Reuse
import Declarations.Proofs.Build.Rounds
import Declarations.Proofs.Build.Runs
import Declarations.Proofs.Build.Searching
import Declarations.Proofs.Build.Storing
import Declarations.Proofs.Build.Work
import Declarations.Proofs.Build.Worklist
import Declarations.Proofs.Command.Loading
import Declarations.Proofs.Disk.Frames
import Declarations.Proofs.Disk.Joining
import Declarations.Proofs.Disk.Paths
import Declarations.Proofs.Disk.Places
import Declarations.Proofs.Disk.Rewriting
import Declarations.Proofs.Disk.Writing
import Declarations.Proofs.Docstring.Agreement
import Declarations.Proofs.Docstring.Cleaning
import Declarations.Proofs.Graph.Arena
import Declarations.Proofs.Graph.ModuleSet
import Declarations.Proofs.Graph.NameIndex
import Declarations.Proofs.Graph.References
import Declarations.Proofs.Graph.Visiting
import Declarations.Proofs.Json.Brackets
import Declarations.Proofs.Json.Order
import Declarations.Proofs.Json.Reading
import Declarations.Proofs.Json.Scanning
import Declarations.Proofs.Json.Shapes
import Declarations.Proofs.Json.Skipping
import Declarations.Proofs.Json.Sorting
import Declarations.Proofs.Json.Written
import Declarations.Proofs.Linking.Chains
import Declarations.Proofs.Linking.Effect
import Declarations.Proofs.Linking.Fullnames
import Declarations.Proofs.Linking.Growth
import Declarations.Proofs.Linking.Relinking
import Declarations.Proofs.Linking.Sessions
import Declarations.Proofs.Linking.Symbols
import Declarations.Proofs.Linking.Targets
import Declarations.Proofs.Lowering.Bindings
import Declarations.Proofs.Lowering.Bodies
import Declarations.Proofs.Lowering.DottedImports
import Declarations.Proofs.Lowering.Fresh
import Declarations.Proofs.Lowering.Imported
import Declarations.Proofs.Lowering.Keys
import Declarations.Proofs.Lowering.LocalNames
import Declarations.Proofs.Lowering.NamedKeys
import Declarations.Proofs.Lowering.Names
import Declarations.Proofs.Lowering.NormalUnions
import Declarations.Proofs.Lowering.Parameters
import Declarations.Proofs.Lowering.Pending
import Declarations.Proofs.Lowering.Projections
import Declarations.Proofs.Lowering.RelativeImports
import Declarations.Proofs.Lowering.Sites
import Declarations.Proofs.Lowering.Spellings
import Declarations.Proofs.Lowering.Standard
import Declarations.Proofs.Lowering.Unions
import Declarations.Proofs.NameMap
import Declarations.Proofs.Snapshot.Codec
import Declarations.Proofs.Snapshot.Exact
import Declarations.Proofs.Snapshot.Independence
import Declarations.Proofs.Snapshot.Layout
import Declarations.Proofs.Snapshot.Malformed
import Declarations.Proofs.Snapshot.Plain
import Declarations.Proofs.Snapshot.Renumbering
import Declarations.Proofs.Snapshot.Rereading
import Declarations.Proofs.Snapshot.RoundTrip
import Declarations.Proofs.Snapshot.Visits
import Declarations.Proofs.Source.Definitions
import Declarations.Proofs.Source.Forward
import Declarations.Proofs.Source.Headers
import Declarations.Proofs.Source.Imports
import Declarations.Proofs.Source.Parameters
import Declarations.Proofs.Source.Readers
import Declarations.Proofs.Source.Spelling
import Declarations.Proofs.Source.Steps
import Declarations.Proofs.Text.Dotted
import Declarations.Snapshot.Basic
import Declarations.Snapshot.Decoding
import Declarations.Snapshot.Load
import Declarations.Snapshot.Save
import Declarations.Source.Cursor
import Declarations.Source.Expressions
import Declarations.Source.Layout
import Declarations.Source.Places
import Declarations.Source.Statements
import Declarations.Source.Token
import Declarations.Source.Tree
import Declarations.Text.Blank
import Declarations.Text.Dotted
import Declarations.Toml.Reader
