/-
This file reads the words of a command line by a grammar: options that start with dashes,
with or without a value, one kind of place for other words, and the names of commands,
which have grammars of their own. A word with a value that is still to come takes the word
after it, unless that starts with a dash.
-/

import Declarations.Build.Options

namespace Declarations.CommandLine

/-- Why a command line is not understood, or is answered before anything is run. -/
inductive UsageError where
  | helpWanted
  | versionWanted
  | nothingGiven
  | noCommand
  | unknownCommand
  | missingArgument
  | unknownArgument
  | missingValue
  | invalidValue
  | extraValue
  | repeated
deriving DecidableEq, Repr, Inhabited

/-- What a value must be. -/
inductive ValueKind where
  | path
  | policy
  | text
deriving DecidableEq, Repr, Inhabited

/-- What is wrong with a value. -/
def ValueKind.check (value : String) : ValueKind → Except UsageError Unit
  | path => if value.isEmpty then .error .missingValue else .ok ()
  | policy => if (FollowImports.ofWord? value).isSome then .ok () else .error .invalidValue
  | text => .ok ()

/-- A place that values are given for. -/
structure Slot where
  name : String
  kind : ValueKind
  /-- Whether it takes values more than once. -/
  isMany : Bool
deriving DecidableEq, Repr, Inhabited

/-- What an option does. -/
inductive Effect where
  | help
  | version
  | flag
  | value (kind : ValueKind) (isMany : Bool)
deriving DecidableEq, Repr, Inhabited

/-- An option by its name, and the letter that is short for it. -/
structure OptionRule where
  name : String
  letter : Option Char
  effect : Effect
deriving DecidableEq, Repr, Inhabited

/-- What may stand on a command line. -/
structure Grammar where
  options : List OptionRule
  place : Option Slot
  commands : List String
deriving Repr, Inhabited

/-- What was read so far. -/
structure Scan where
  /-- Options and places with their values, in the order in which they were settled. -/
  found : List (String × List String)
  /-- What is being given values. -/
  pending : Option (Slot × List String)
  /-- Whether an option waits for its value. -/
  isWaiting : Bool
deriving Repr, Inhabited

namespace Scan

/-- Nothing. -/
def start : Scan :=
  ⟨[], none, false⟩

/-- Whether an option or place was given. -/
def has (scan : Scan) (name : String) : Bool :=
  scan.found.any fun entry => entry.1 == name

/-- The values that were given. -/
def values (scan : Scan) (name : String) : List String :=
  scan.found.flatMap fun entry => if entry.1 == name then entry.2 else []

/-- The value that was given. -/
def value? (scan : Scan) (name : String) : Option String :=
  (scan.values name).head?

/-- Gives values to a slot. -/
def give (scan : Scan) (slot : Slot) (values : List String) : Except UsageError Scan := do
  if values.isEmpty then throw .missingValue
  if !slot.isMany && scan.has slot.name then throw .repeated
  for value in values do slot.kind.check value
  return { scan with found := scan.found ++ [(slot.name, values)] }

/-- Settles what is being given values. -/
def settle (scan : Scan) : Except UsageError Scan :=
  match scan.pending with
  | none => .ok { scan with isWaiting := false }
  | some (slot, values) => { scan with pending := none, isWaiting := false }.give slot values

/-- Takes an option, with the value that is attached to it. -/
def take (scan : Scan) (rule : OptionRule) (attached : Option String) : Except UsageError Scan :=
  match rule.effect, attached with
  | .value kind isMany, some value => do
    (← scan.settle).give ⟨rule.name, kind, isMany⟩ [value]
  | .value kind isMany, none => do
    return { ← scan.settle with pending := some (⟨rule.name, kind, isMany⟩, []), isWaiting := true }
  | _, some _ => .error .extraValue
  | .help, none => do
    let _ ← scan.settle
    throw .helpWanted
  | .version, none => do
    let _ ← scan.settle
    throw .versionWanted
  | .flag, none => do
    let scan ← scan.settle
    if scan.has rule.name then throw .repeated
    return { scan with found := scan.found ++ [(rule.name, [])] }

/-- Takes an option by its name, which a value may be attached to. -/
def takeLong (grammar : Grammar) (scan : Scan) (word : List Char) : Except UsageError Scan :=
  let name := String.ofList (word.takeWhile (· ≠ '='))
  let attached := (word.dropWhile (· ≠ '=')).tail?.map String.ofList
  match grammar.options.find? fun rule => rule.name == name with
  | some rule => scan.take rule attached
  | none => .error .unknownArgument

/-- Takes options by their letters, the last of which a value may be attached to. -/
def takeLetters (grammar : Grammar) : Scan → List Char → Except UsageError Scan
  | scan, [] => .ok scan
  | scan, letter :: rest =>
    match grammar.options.find? fun rule => rule.letter == some letter with
    | none => .error .unknownArgument
    | some rule =>
      match rule.effect, rest with
      | .value _ _, [] => scan.take rule none
      | .value _ _, '=' :: value => scan.take rule (some (String.ofList value))
      | .value _ _, value => scan.take rule (some (String.ofList value))
      | _, _ => do takeLetters grammar (← scan.take rule none) rest

/-- Gives the option that waits its value. -/
def feed (scan : Scan) (word : String) : Scan :=
  { scan with
    pending := scan.pending.map fun (slot, values) => (slot, values ++ [word])
    isWaiting := false }

/-- Takes a word that is no option. -/
def takePlace (grammar : Grammar) (isTrailing : Bool) (scan : Scan) (word : String) :
    Except UsageError Scan :=
  let refuse : Except UsageError Scan :=
    if isTrailing && grammar.commands.contains word then .error .unknownArgument
    else if grammar.commands.isEmpty then .error .unknownArgument
    else .error .unknownCommand
  match grammar.place with
  | none => refuse
  | some slot =>
    let current := scan.pending.any fun (other, _) => other == slot
    if !slot.isMany && (current || scan.has slot.name) then refuse
    else if current then .ok (scan.feed word)
    else do
      return { ← scan.settle with pending := some (slot, [word]) }

end Scan

/-- Reads words after two dashes, none of which is an option. -/
def readTrailing (grammar : Grammar) (scan : Scan) (words : List String) :
    Except UsageError Scan :=
  words.foldlM (Scan.takePlace grammar true) scan

/-- Reads words up to the name of a command, which is given with the words that follow it. -/
def readWords (grammar : Grammar) :
    Scan → List String → Except UsageError (Scan × Option (String × List String))
  | scan, [] => .ok (scan, none)
  | scan, word :: rest =>
    if !scan.isWaiting && grammar.commands.contains word then .ok (scan, some (word, rest))
    else
      match word.toList with
      | ['-', '-'] => do return (← readTrailing grammar scan rest, none)
      | '-' :: '-' :: name => do readWords grammar (← Scan.takeLong grammar scan name) rest
      | '-' :: letter :: letters => do
        readWords grammar (← Scan.takeLetters grammar scan (letter :: letters)) rest
      | _ => do
        let scan ←
          if scan.isWaiting then pure (scan.feed word) else scan.takePlace grammar false word
        readWords grammar scan rest

end Declarations.CommandLine
