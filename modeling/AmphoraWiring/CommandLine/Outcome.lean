import AmphoraWiring.CommandLine.Arguments
import AmphoraWiring.CommandLine.SnapshotFile
import AmphoraWiring.Config.File
import AmphoraWiring.Database.Opening
import AmphoraWiring.Saga.Attachment
import AmphoraWiring.Saga.Convergence
import AmphoraWiring.Substrate.Seed

/-!
What a run of the program prints and how it ends. A plan shows the deltas of a load balancer; a
simulation applies them too, and tells whether nothing is left to do then.
-/
namespace AmphoraWiring.CommandLine

/-- Why a run failed: what was being done, and the causes behind it, nearest first. -/
abbrev Failure := List String

def during (what : String) (causes : ε → List String) (r : Except ε α) : Except Failure α :=
  r.mapError fun e => what :: causes e

/-- The settings in force: those of the file, overridden by the command line. -/
def settings (files : Files) (i : Invocation) : Except Failure Config := do
  let config : Config ←
    match i.configPath with
    | some path => (Config.ofFile path (files.readText path)).mapError (·.chain)
    | none => pure {}
  let controller : ControllerConfig :=
    if i.bootNetworks.isEmpty then config.controller else { bootNetworks := i.bootNetworks }
  let database : DatabaseConfig :=
    match i.databaseUrl with
    | some url => { config.database with url }
    | none => config.database
  return { config with controller, database }

/-- What a plan works on. -/
structure Environment where
  deployment : Deployment
  bootNetworks : List String
  loadBalancerId : String
  zone : Option AvailabilityZone

namespace Environment

def load (files : Files) (config : Config) (path : String) : Except Failure Environment := do
  let content ← during ("failed to read snapshot " ++ path) (fun e => [e.message])
    (files.readText path)
  let snapshot ← during ("invalid snapshot " ++ path) (fun e => [e.message])
    (SnapshotFile.ofText content)
  let substrate ← during "failed to seed the simulated substrate" NetworkError.chain
    (Substrate.ofSnapshot snapshot.substrate)
  during ("failed to open database " ++ config.database.url)
    (fun e => StoreError.chain (.database e)) (config.database.check files)
  return {
    deployment := { substrate, repository := Repository.store {} snapshot.loadBalancer }
    bootNetworks := config.controller.bootNetworks
    loadBalancerId := snapshot.loadBalancer.id
    zone := snapshot.zone }

def perform (env : Environment) (what : String) (step : Step α) :
    Except Failure (α × Environment) := do
  let (result, run) := step.execute.runOn ⟨{}, env.deployment⟩
  let a ← during what NetworkError.chain result
  return (a, { env with deployment := run.state })

def calculate (env : Environment) : Except Failure (IdMap Delta × Environment) :=
  env.perform "failed to calculate network deltas"
    (.calculateDelta env.bootNetworks env.loadBalancerId env.zone)

def apply (env : Environment) (deltas : IdMap Delta) :
    Except Failure (IdMap (List Port) × Environment) :=
  env.perform "failed to apply network deltas" (.applyDeltas env.loadBalancerId deltas)

def plan (env : Environment) : Except Failure Json := do
  let (deltas, _) ← env.calculate
  return Delta.codec.idMap.encode deltas

def simulate (env : Environment) : Except Failure Json := do
  let (deltas, env) ← env.calculate
  let (ports, env) ← env.apply deltas
  let (left, _) ← env.calculate
  return .object [
    ("deltas", Delta.codec.idMap.encode deltas),
    ("ports", Port.codec.list.idMap.encode ports),
    ("converged", .bool (left.values.all (·.isEmpty)))]

end Environment

def Invocation.document (files : Files) (i : Invocation) : Except Failure Json := do
  let config ← settings files i
  match i.command with
  | .plan path => (← Environment.load files config path).plan
  | .simulate path => (← Environment.load files config path).simulate
  | .config => return Config.codec.encode config

structure Outcome where
  exitCode : Nat
  output : String := ""
  failure : Failure := []
deriving DecidableEq, Repr

namespace Outcome

def versionText : String := "amphora-net 0.1.0\n"

/-- The outcome of a command line. -/
def ofWords (files : Files) (words : List String) : Outcome :=
  match Invocation.ofWords words with
  | .error .usage => { exitCode := 2 }
  | .error .help => { exitCode := 0 }
  | .error .version => { exitCode := 0, output := versionText }
  | .ok i =>
    match i.document files with
    | .ok document => { exitCode := 0, output := document.indentedText ++ "\n" }
    | .error failure => { exitCode := 1, failure }

/-- A text whose further lines are indented. -/
def indented (indent s : String) : String := (("\n" ++ indent).intercalate (s.splitOn "\n"))

/-- Numbers are written with their last digit in the fifth column. -/
def numbered (n : Nat) : String :=
  String.ofList (List.replicate (5 - (toString n).length) ' ') ++ toString n ++ ": "

def causesText : List String → String
  | [] => ""
  | [cause] => "\n\nCaused by:\n    " ++ indented "    " cause
  | causes => "\n\nCaused by:" ++ String.join (causes.zipIdx.map fun (cause, n) =>
      "\n" ++ numbered n ++ indented "       " cause)

/-- What is told about a failure. The causes are numbered if there are several. -/
def failureText : Failure → String
  | [] => ""
  | what :: causes => "Error: " ++ what ++ causesText causes ++ "\n"

end Outcome

end AmphoraWiring.CommandLine
