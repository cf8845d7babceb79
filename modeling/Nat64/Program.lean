import Nat64.CommandLine.Help
import Nat64.Config
import Nat64.Gateway
import Nat64.Path

/-!
# The program

What a run of the program prints and how it ends, as a function of its arguments and of what it finds. Opening raw
sockets lies outside, so a run that comes that far ends there.

* `Program.load`, `Program.check`, `Program.start`: the steps of the two commands, each failure with its stage.
* `Program.report`: the outcome of a run.
-/

namespace Nat64

/-- What is found at a path. -/
inductive Entry where
  | absent
  /-- Something that holds no text. -/
  | unreadable
  | text (s : String)
deriving DecidableEq, Repr

/-- What the program finds around it. -/
structure Environment where
  home : String
  entry : String → Entry

/-- What the program was doing when it failed. -/
inductive Stage where
  | load
  | validate
  | embedding
  | pool
  | sockets
deriving DecidableEq, Repr

/-- What is said about a failure at a stage. -/
def Stage.message : Stage → String
  | load => "Failed to load config"
  | validate => "Invalid configuration"
  | embedding => "Invalid NAT64 prefix"
  | pool => "Failed to configure the IPv4 pool"
  | sockets => "Failed to open raw sockets (are you root?)"

/-- A failure that ends the program. -/
structure Failure where
  stage : Stage
  fault : Fault
deriving DecidableEq, Repr

namespace Failure

/-- The line that reports a failure. -/
def headline (f : Failure) : String := "Error: " ++ f.stage.message

/-- The texts of what lies behind a failure, outermost first. -/
def causes (f : Failure) : List String := f.fault.message :: f.fault.causes

end Failure

/-- How a run of the program ends. -/
structure Report where
  status : Nat
  output : String := ""
  /-- The failure, if it reports one. -/
  failure : Option Failure := none
deriving DecidableEq, Repr

namespace Program

/-- A result with the stage at which it may fail. -/
def during {α : Type} (stage : Stage) (r : Except Fault α) : Except Failure α := r.mapError (⟨stage, ·⟩)

/-! ## Loading -/

/-- The configuration in the file at a path. -/
def loadFrom (env : Environment) (path : String) : Except Fault Config :=
  match env.entry path with
  | .text s =>
    match Config.ofString? s with
    | some c => .ok c
    | none => .error (.config (.unparsable path) none)
  | .unreadable | .absent => .error (.config (.unreadable path) none)

/-- The configuration at a path if one is given, else at the default path if there is a file, else the default one. -/
def load (env : Environment) (path? : Option String) : Except Fault Config :=
  match path? with
  | some path => loadFrom env (Path.expandHome env.home path)
  | none =>
    let path := Path.defaultConfig env.home
    if env.entry path = .absent then .ok {} else loadFrom env path

/-- A configuration with the values of the command line in place of its own; addresses kept back are added. -/
def override (c : Config) (s : CommandLine.Settings) : Config where
  device := s.device.getD c.device
  mtu := s.mtu.getD c.mtu
  embedding := s.embedding.getD c.embedding
  pool := if s.pool.isEmpty then c.pool else s.pool
  reserved := c.reserved ++ s.reserved
  expiry := s.expiry.getD c.expiry
  installRoutes := c.installRoutes && !s.noRoutes

/-! ## The commands -/

/-- Checks the configuration at a path and shows it, with the number of addresses to lease. -/
def check (env : Environment) (path : String) : Except Failure String := do
  let c ← during .load (load env (some (Path.expandHome env.home path)))
  during .validate c.validate
  let t ← during .pool c.buildTable
  return c.render ++ s!"# {t.free.size} leasable address(es)\n"

/-- A gateway ready to work, made from a configuration. -/
def prepare (c : Config) : Except Failure Gateway := do
  during .validate c.validate
  let embedding ← during .embedding c.toPrefix
  let leases ← during .pool c.buildTable
  return { embedding, leases }

/-- Gets a gateway ready as the settings say. -/
def start (env : Environment) (s : CommandLine.Settings) : Except Failure Gateway := do
  let c ← during .load (load env s.config)
  prepare (override c s)

/-- The failure of a program that may not open raw sockets. -/
def noSockets : Failure := ⟨.sockets, .config (.noRawSocket .ipv4) none⟩

/-- How the program ends when it is asked for something. -/
def answer (env : Environment) : Invocation → Report
  | .version => { status := 0, output := versionText }
  | .help topic => { status := 0, output := topic.helpText }
  | .checkConfig path =>
    match check env path with
    | .ok output => { status := 0, output }
    | .error f => { status := 1, failure := some f }
  | .run settings =>
    match start env settings with
    | .ok _ => { status := 1, failure := some noSockets }
    | .error f => { status := 1, failure := some f }

/-- The only path that a run of the program looks at. -/
def path? (home : String) (args : List String) : Option String :=
  match Invocation.ofArguments? args with
  | some (.checkConfig path) => some (Path.expandHome home (Path.expandHome home path))
  | some (.run settings) => some ((settings.config.map (Path.expandHome home)).getD (Path.defaultConfig home))
  | _ => none

/-- How the program ends with a list of arguments. -/
def report (env : Environment) (args : List String) : Report :=
  match Invocation.ofArguments? args with
  | some invocation => answer env invocation
  | none => { status := 2 }

end Program

end Nat64
