import Nat64.CommandLine.Option

/-!
# What the command line asks for

The program has two commands, `run` and `check-config`, and tells about itself on request.

* `Invocation.ofArguments?`: what a list of arguments asks for, or nothing if it is not understood.
-/

namespace Nat64

open CommandLine

/-- What the user may be told about. -/
inductive Topic where
  | program
  /-- The command that translates. -/
  | run
  /-- The command that checks a configuration. -/
  | checkConfig
  /-- The command that tells about the others. -/
  | help
deriving DecidableEq, Repr

/-- What the program is asked for. -/
inductive Invocation where
  | version
  | help (topic : Topic)
  /-- To check the configuration at a path and to show it. -/
  | checkConfig (path : String)
  | run (settings : Settings)
deriving DecidableEq, Repr

namespace Invocation

/-- The topic of a command. -/
def topic? : String → Option Topic
  | "run" => some .run
  | "check-config" => some .checkConfig
  | "help" => some .help
  | _ => none

/-- The options of the command that translates. -/
def runFlags : List Flag := [.help, .config, .device, .embedding, .pool, .reserved, .expiry, .mtu, .noRoutes]

/-- The options of the command that checks a configuration. -/
def checkFlags : List Flag := [.help, .config]

/-- What a command with options asks for: help if an option says so and all before it are in order. -/
def ofOptions? (topic : Topic) (flags : List Flag) (finish : Settings → Option Invocation) (args : List String) :
    Option Invocation := do
  let items ← items? flags args
  let settings ← items.foldlM Settings.set {}
  if items.any (·.flag = .help) then some (.help topic) else finish settings

/-- What a list of arguments asks for. -/
def ofArguments? : List String → Option Invocation
  | [] => none
  | arg :: rest =>
    match topic? arg with
    | some .run => ofOptions? .run runFlags (fun s => some (.run s)) rest
    | some .checkConfig => ofOptions? .checkConfig checkFlags (fun s => s.config.map .checkConfig) rest
    | some _ =>
      match rest with
      | [] => some (.help .program)
      | [name] => (topic? name).map .help
      | _ => none
    | none =>
      match Flag.ofArgument? [.help, .version] arg with
      | some (.help, _) => some (.help .program)
      | some _ => some .version
      | none => none

end Invocation

end Nat64
