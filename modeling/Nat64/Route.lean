import Nat64.Address.Network
import Nat64.Fault
import Nat64.Text.Blank

/-!
# Routes through the device

Packets for the prefix and for the pool reach the translator over routes, which a command of the system keeps. Either
all routes are installed or none stays: a refusal withdraws those added before it, and so does the end of the work.

* `Route.install`: adds routes in order, and withdraws them again when one is refused.
* `Route.withdraw`: removes routes, last one first, whatever the command says about it.
-/

namespace Nat64

/-- A route that leads packets to the device. -/
inductive Route where
  /-- To a network of the pool. -/
  | pool (net : IPv4.Network)
  /-- To the prefix. -/
  | embedding (net : IPv6.Network)
deriving DecidableEq, Repr

/-- How the command that keeps the routes ended. -/
inductive CommandEnd where
  /-- It could not be run. -/
  | unavailable (why : IoFailure)
  /-- It ran, and left a status and perhaps a complaint. -/
  | exited (status : Nat) (complaint : String)
deriving DecidableEq, Repr

/-- The command that keeps the routes: what it does with its arguments and with all it remembers. -/
abbrev RouteCommand (σ : Type) := List String → σ → CommandEnd × σ

namespace Route

/-! ## Arguments -/

instance : ToString Route where
  toString
    | .pool net => toString net
    | .embedding net => toString net

/-- What a route is called in messages. -/
def label : Route → String
  | .pool _ => "IPv4 pool route"
  | .embedding _ => "NAT64 prefix route"

/-- The program that keeps the routes on Linux. -/
def program : String := "ip"

/-- The arguments of `ip` on Linux. -/
def linuxArguments (verb device : String) : Route → List String
  | .pool net => ["route", verb, toString net, "dev", device]
  | .embedding net => ["-6", "route", verb, toString net, "dev", device]

/-- The arguments of `route` on macOS. -/
def macArguments (verb device : String) : Route → List String
  | .pool net => [verb, "-net", toString net.first, "-netmask", toString net.mask, "-interface", device]
  | .embedding net => [verb, "-inet6", toString net, "-interface", device]

/-! ## Adding and removing -/

/-- Whether a text is part of another. -/
def isPart (part : List Char) : List Char → Bool
  | [] => part.isEmpty
  | c :: rest => part.isPrefixOf (c :: rest) || isPart part rest

/-- Whether the complaint is that the route exists already; capitals do not matter. -/
def saysExists (complaint : String) : Bool :=
  let text := complaint.toList.map Char.toLower
  isPart "file exists".toList text || isPart "eexist".toList text

/-- What it means for a route that the command to add it ended so. -/
def verdict (route : Route) : CommandEnd → Except Fault Unit
  | .unavailable why => .error (.device (.noCommand program) (some why))
  | .exited status complaint =>
    if status = 0 ∨ saysExists complaint then .ok ()
    else .error (.device (.routeRefused route.label (toString route) (Text.trim complaint)) none)

variable {σ : Type} (run : RouteCommand σ) (device : String)

/-- Adds one route; one that exists already counts as added. -/
def add (route : Route) (s : σ) : Except Fault Unit × σ :=
  let (ended, s) := run (route.linuxArguments "add" device) s
  (route.verdict ended, s)

/-- Removes one route, as far as that is possible. -/
def remove (s : σ) (route : Route) : σ := (run (route.linuxArguments "del" device) s).2

/-- Removes routes, last one first. -/
def withdraw (routes : List Route) (s : σ) : σ := routes.reverse.foldl (remove run device) s

/-- Adds routes up to the first that is refused: those added, the refusal, and the state reached. -/
def addEach : List Route → σ → List Route × Option Fault × σ
  | [], s => ([], none, s)
  | route :: rest, s =>
    match add run device route s with
    | (.error f, s) => ([], some f, s)
    | (.ok (), s) =>
      let (added, refusal, s) := addEach rest s
      (route :: added, refusal, s)

/-- Adds all routes, or none if one is refused. -/
def install (routes : List Route) (s : σ) : Except Fault (List Route) × σ :=
  match addEach run device routes s with
  | (added, none, s) => (.ok added, s)
  | (added, some f, s) => (.error f, withdraw run device added s)

end Route

end Nat64
