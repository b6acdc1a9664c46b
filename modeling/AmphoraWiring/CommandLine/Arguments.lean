/-!
The words of a command line. The options of the program stand in front of a command, those of the
command behind it. An option has a value, which is attached to it or is the next word; what stands
next may not look like an option itself.
-/
namespace AmphoraWiring.CommandLine

inductive Word where
  /-- The mark that ends the options. -/
  | endOfOptions
  | long (name : String) (value : Option String)
  | short (letter : Char) (rest : List Char)
  | plain (text : String)
deriving DecidableEq, Repr

/-- The name before an equals sign and the value behind it. -/
def splitValue (cs : List Char) : String × Option String :=
  match cs.dropWhile (· ≠ '=') with
  | [] => (String.ofList cs, none)
  | _ :: value => (String.ofList (cs.takeWhile (· ≠ '=')), some (String.ofList value))

def Word.ofText (s : String) : Word :=
  match s.toList with
  | ['-', '-'] => .endOfOptions
  | '-' :: '-' :: cs =>
    let (name, value) := splitValue cs
    .long name value
  | '-' :: c :: cs => .short c cs
  | _ => .plain s

/-- An option that is not repeatable may be given once. A path may not be empty. -/
structure OptionRule where
  name : String
  letter : Option Char := none
  repeatable : Bool := false
  isPath : Bool := false
deriving DecidableEq, Repr

/-- Why there is nothing to run. -/
inductive Stop where
  | usage
  | help
  | version
deriving DecidableEq, Repr

/-- The options that a part of the command line may hold. -/
structure Grammar where
  options : List OptionRule
  tellsVersion : Bool := false

/-- The values given so far, each under the name of its option. -/
abbrev Given := List (String × String)

def Given.valueOf? (given : Given) (name : String) : Option String :=
  (given.find? fun g => g.1 = name).map (·.2)

def Given.valuesOf (given : Given) (name : String) : List String :=
  (given.filter fun g => g.1 = name).map (·.2)

def OptionRule.accept (rule : OptionRule) (given : Given) (value : String) : Except Stop Given :=
  if rule.isPath && value.isEmpty then .error .usage
  else if !rule.repeatable && (given.valueOf? rule.name).isSome then .error .usage
  else .ok (given ++ [(rule.name, value)])

namespace Grammar

/-- What a long option asks for: to stop, or a value under a rule. -/
def long (g : Grammar) (name : String) (value : Option String) : Except Stop OptionRule :=
  if name = "help" then .error (if value.isSome then .usage else .help)
  else if name = "version" && g.tellsVersion then
    .error (if value.isSome then .usage else .version)
  else
    match g.options.find? fun rule => rule.name = name with
    | some rule => .ok rule
    | none => .error .usage

def short (g : Grammar) (letter : Char) : Except Stop OptionRule :=
  if letter = 'h' then .error .help
  else if letter = 'V' && g.tellsVersion then .error .version
  else
    match g.options.find? fun rule => rule.letter = some letter with
    | some rule => .ok rule
    | none => .error .usage

/-- The value that is attached to a short option, with or without an equals sign. -/
def attached : List Char → Option String
  | [] => none
  | '=' :: value => some (String.ofList value)
  | value => some (String.ofList value)

/-- What a word asks for, if it is an option. -/
def demand (g : Grammar) : Word → Except Stop (Option (OptionRule × Option String))
  | .plain _ | .endOfOptions => .ok none
  | .long name value => do return some (← g.long name value, value)
  | .short letter rest => do return some (← g.short letter, attached rest)

/-- What is left behind the options. Nothing may follow the mark that ends them. -/
def afterOptions (word : String) (words : List String) : Except Stop (List String) :=
  match Word.ofText word, words with
  | .endOfOptions, [] => .ok []
  | .endOfOptions, _ => .error .usage
  | _, _ => .ok (word :: words)

/-- Reads options up to the first word that is none; gives back the words from there on. -/
def readOptions (g : Grammar) (given : Given) : List String → Except Stop (Given × List String)
  | [] => .ok (given, [])
  | word :: words => do
    match ← g.demand (Word.ofText word), words with
    | none, _ => return (given, ← afterOptions word words)
    | some (rule, some value), words => g.readOptions (← rule.accept given value) words
    | some (_, none), [] => throw .usage
    | some (rule, none), next :: words =>
      match Word.ofText next with
      | .plain value => g.readOptions (← rule.accept given value) words
      | _ => throw .usage

end Grammar

/-- What to do: print the deltas, print and apply them, or print the settings. -/
inductive Command where
  | plan (snapshotPath : String)
  | simulate (snapshotPath : String)
  | config
deriving DecidableEq, Repr

structure Invocation where
  configPath : Option String
  bootNetworks : List String
  databaseUrl : Option String
  command : Command
deriving DecidableEq, Repr

def programGrammar : Grammar where
  options := [
    { name := "config", letter := some 'c', isPath := true },
    { name := "boot-network", repeatable := true },
    { name := "database-url" }]
  tellsVersion := true

def snapshotGrammar : Grammar where
  options := [{ name := "snapshot", letter := some 's', isPath := true }]

def readSnapshotPath (words : List String) : Except Stop String := do
  let (given, rest) ← snapshotGrammar.readOptions [] words
  match rest, given.valueOf? "snapshot" with
  | [], some path => return path
  | _, _ => throw .usage

def commandNames : List String := ["plan", "simulate", "config", "help"]

def readCommand : List String → Except Stop Command
  | "plan" :: words => do return .plan (← readSnapshotPath words)
  | "simulate" :: words => do return .simulate (← readSnapshotPath words)
  | "config" :: words => do
    match ← Grammar.readOptions ⟨[], false⟩ [] words with
    | (_, []) => return .config
    | _ => throw .usage
  | ["help"] => throw .help
  | ["help", name] => throw (if commandNames.contains name then .help else .usage)
  | _ => throw .usage

def Invocation.ofWords (words : List String) : Except Stop Invocation := do
  let (given, rest) ← programGrammar.readOptions [] words
  let command ← readCommand rest
  return {
    configPath := given.valueOf? "config"
    bootNetworks := given.valuesOf "boot-network"
    databaseUrl := given.valueOf? "database-url"
    command }

end AmphoraWiring.CommandLine
