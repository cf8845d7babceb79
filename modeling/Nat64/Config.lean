import Nat64.Address.Prefix
import Nat64.LeaseTable
import Nat64.Toml.Document

/-!
# Configurations

A configuration names the device, the prefix and the addresses to lease. Every key may be left out.

* `Config.ofString?`: the configuration of a text; `Config.render` writes one.
* `Config.validate`: whether the fields are in range and agree with each other.
* `Config.buildTable`: the leases to start with.
-/

namespace Nat64

/-- The addresses that carriers share, `100.64.0.0/10`. -/
def IPv4.Network.shared : IPv4.Network where
  address := IPv4.ofNat 0x64400000
  length := 10

/-- What the translator has to know to start. -/
structure Config where
  device : String := "nat64"
  /-- The size of the largest packet that the device carries. -/
  mtu : UInt16 := 1500
  embedding : IPv6.Network := Prefix.wellKnown.network
  /-- The networks whose hosts' addresses are leased. -/
  pool : List IPv4.Network := [IPv4.Network.shared]
  /-- The addresses of the pool that are kept back. -/
  reserved : List IPv4 := []
  /-- The seconds that a lease lasts without being looked up. -/
  expiry : Nat := 1800
  /-- Whether packets for prefix and pool are routed to the device. -/
  installRoutes : Bool := true
deriving DecidableEq, Repr

namespace Config

/-! ## Keys -/

/-- A text. -/
def text? : Toml.Value → Option String
  | .scalar (.text s) => some s
  | _ => none

/-- A whole number from zero on and below a limit. -/
def number? (limit : Nat) : Toml.Value → Option Nat
  | .scalar (.integer (.ofNat n)) => if n < limit then some n else none
  | _ => none

/-- A truth value. -/
def boolean? : Toml.Value → Option Bool
  | .scalar (.boolean b) => some b
  | _ => none

/-- A list of texts, each read by the same reader. -/
def list? {α : Type} (read : String → Option α) : Toml.Value → Option (List α)
  | .array items => items.mapM fun item => text? (.scalar item) >>= read
  | .scalar _ => none

/-- The value of a key, or what stands for it if the key is left out. -/
def field? {α : Type} (doc : Toml.Document) (key : String) (read : Toml.Value → Option α) (absent : α) : Option α :=
  match doc.lookup key with
  | some value => read value
  | none => some absent

/-- The keys that there are. -/
def keys : List String :=
  ["tun_name", "mtu", "prefix", "pool", "reserved", "binding_expiry_secs", "install_routes"]

/-- The configuration that a document describes. -/
def ofDocument? (doc : Toml.Document) : Option Config :=
  let defaults : Config := {}
  if doc.all fun (key, _) => keys.contains key then
    return {
      device := ← field? doc "tun_name" text? defaults.device
      mtu := UInt16.ofNat (← field? doc "mtu" (number? 0x10000) defaults.mtu.toNat)
      embedding := ← field? doc "prefix" (text? · >>= IPv6.Network.ofString?) defaults.embedding
      pool := ← field? doc "pool" (list? IPv4.Network.ofString?) defaults.pool
      reserved := ← field? doc "reserved" (list? IPv4.ofString?) defaults.reserved
      expiry := ← field? doc "binding_expiry_secs" (number? 0x8000000000000000) defaults.expiry
      installRoutes := ← field? doc "install_routes" boolean? defaults.installRoutes }
  else none

/-- The document that describes a configuration, with every key. -/
def toDocument (c : Config) : Toml.Document :=
  let texts {α : Type} [ToString α] (items : List α) : Toml.Value := .array (items.map fun a => .text (toString a))
  [("tun_name", .scalar (.text c.device)),
    ("mtu", .scalar (.integer c.mtu.toNat)),
    ("prefix", .scalar (.text (toString c.embedding))),
    ("pool", texts c.pool),
    ("reserved", texts c.reserved),
    ("binding_expiry_secs", .scalar (.integer c.expiry)),
    ("install_routes", .scalar (.boolean c.installRoutes))]

/-- The configuration of a text. -/
def ofString? (s : String) : Option Config := Toml.Document.ofString? s >>= ofDocument?

/-- The text of a configuration, with every key. -/
def render (c : Config) : String := c.toDocument.render

/-- The configuration of a text that has to be one. -/
def read (s : String) : Except Fault Config :=
  match ofString? s with
  | some c => .ok c
  | none => .error (.config .invalidText none)

/-! ## Use -/

/-- Refuses a configuration whose fields are out of range or do not agree; the first such field counts. -/
def validate (c : Config) : Except Fault Unit := do
  if c.device.isEmpty then throw (.config .unnamedDevice none)
  if c.mtu.toNat < minimumMtu then throw (.config (.smallMtu c.mtu.toNat) none)
  Prefix.checkLength c.embedding.length
  if c.pool.isEmpty then throw (.config .noPool none)
  if c.expiry = 0 then throw (.config .noExpiry none)
  match c.reserved.find? fun a => ¬ c.pool.any (a ∈ ·) with
  | some a => throw (.config (.strayReserved a) none)
  | none => return ()

/-- The prefix. -/
def toPrefix (c : Config) : Except Fault Prefix := Prefix.ofNetwork c.embedding

/-- The leases to start with: none, on the addresses for hosts of all networks but those kept back. -/
def buildTable (c : Config) : Except Fault LeaseTable := do
  let t ← c.pool.foldlM LeaseTable.addNetwork { expiry := c.expiry * 1000000000 }
  return c.reserved.foldl LeaseTable.reserve t

end Config

end Nat64
