import Nat64.Address.Network

/-!
# Options of the command line

An option has a long name and perhaps a letter. Its value is attached to it or is the next argument, which then must
not look like an option itself.

* `CommandLine.items?`: the options in a list of arguments, in order.
* `CommandLine.Settings.set`: one more option taken into account; most may be given once only.
-/

namespace Nat64.CommandLine

/-- The options that there are. -/
inductive Flag where
  | help
  | version
  | config
  | device
  | embedding
  | pool
  | reserved
  | expiry
  | mtu
  | noRoutes
deriving DecidableEq, Repr

namespace Flag

/-- The name after two dashes. -/
def name : Flag → String
  | help => "help"
  | version => "version"
  | config => "config"
  | device => "tun-name"
  | embedding => "prefix"
  | pool => "pool"
  | reserved => "reserved"
  | expiry => "expiry-secs"
  | mtu => "mtu"
  | noRoutes => "no-routes"

/-- The letter after one dash. -/
def letter? : Flag → Option Char
  | help => some 'h'
  | version => some 'V'
  | config => some 'c'
  | _ => none

/-- Whether the option needs a value. -/
def takesValue : Flag → Bool
  | help | version | noRoutes => false
  | _ => true

/-- The option that an argument names, with the value attached to it. -/
def ofArgument? (flags : List Flag) (arg : String) : Option (Flag × Option String) :=
  match arg.toList with
  | '-' :: '-' :: cs => do
    let flag ← flags.find? fun f => f.name = String.ofList (cs.takeWhile (· ≠ '='))
    match cs.dropWhile (· ≠ '=') with
    | _ :: value => if flag.takesValue then some (flag, some (String.ofList value)) else none
    | [] => some (flag, none)
  | '-' :: letter :: cs => do
    let flag ← flags.find? fun f => f.letter? = some letter
    match cs with
    | [] => some (flag, none)
    | '=' :: value => some (flag, some (String.ofList value))
    | value => some (flag, some (String.ofList value))
  | _ => none

end Flag

/-! ## Arguments -/

/-- Whether an argument starts like an option; a dash alone does not. -/
def looksLikeOption (arg : String) : Bool := arg.toList.head? = some '-' ∧ arg ≠ "-"

/-- One option as given. -/
structure Item where
  flag : Flag
  /-- Its value, empty if it takes none. -/
  value : String
deriving DecidableEq, Repr

/-- The options in a list of arguments, up to the first request for help. Two dashes may end the list. -/
def items? (flags : List Flag) : List String → Option (List Item)
  | [] => some []
  | arg :: rest =>
    if arg = "--" then if rest = [] then some [] else none
    else match Flag.ofArgument? flags arg with
      | none => none
      | some (.help, _) => some [⟨.help, ""⟩]
      | some (flag, some value) => return ⟨flag, value⟩ :: (← items? flags rest)
      | some (flag, none) =>
        if flag.takesValue then
          match rest with
          | [] => none
          | value :: rest =>
            if looksLikeOption value then none else return ⟨flag, value⟩ :: (← items? flags rest)
        else return ⟨flag, ""⟩ :: (← items? flags rest)

/-! ## Values -/

/-- A number from `least` on and below `limit`, perhaps after a plus sign. -/
def number? (least limit : Nat) (s : String) : Option Nat := do
  let cs := match s.toList with
    | '+' :: cs => cs
    | cs => cs
  let digits ← cs.mapM (Text.digit? 10)
  let n := Text.ofDigits 10 digits
  if digits ≠ [] ∧ least ≤ n ∧ n < limit then some n else none

/-- The values given on the command line. -/
structure Settings where
  config : Option String := none
  device : Option String := none
  embedding : Option IPv6.Network := none
  pool : List IPv4.Network := []
  /-- Further addresses to be kept back. -/
  reserved : List IPv4 := []
  /-- The seconds that a lease lasts without being looked up. -/
  expiry : Option Nat := none
  /-- The size of the largest packet. -/
  mtu : Option UInt16 := none
  /-- No routes are to be installed. -/
  noRoutes : Bool := false
deriving DecidableEq, Repr

/-- A value that may be given once: the new one, if there was none before and it is one at all. -/
def once {α : Type} (old new : Option α) : Option α := if old.isSome then none else new

/-- The settings with one more option; nothing if its value is none or the option may not be repeated. -/
def Settings.set (s : Settings) (item : Item) : Option Settings :=
  let value := item.value
  match item.flag with
  | .config => return { s with config := ← once s.config (if value = "" then none else some value) }
  | .device => return { s with device := ← once s.device (some value) }
  | .embedding => return { s with embedding := ← once s.embedding (IPv6.Network.ofString? value) }
  | .pool => return { s with pool := s.pool ++ [← IPv4.Network.ofString? value] }
  | .reserved => return { s with reserved := s.reserved ++ [← IPv4.ofString? value] }
  | .expiry => return { s with expiry := ← once s.expiry (number? 1 0x10000000000000000 value) }
  | .mtu => return { s with mtu := ← once s.mtu ((number? 1280 0x10000 value).map UInt16.ofNat) }
  | .noRoutes => if s.noRoutes then none else some { s with noRoutes := true }
  | .help | .version => some s

end Nat64.CommandLine
