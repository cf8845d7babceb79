import Nat64.Address
import Nat64.Address.IPv4
import Nat64.Address.IPv6
import Nat64.Address.Network
import Nat64.Address.Prefix
import Nat64.Address.Text
import Nat64.Assembly
import Nat64.Bytes
import Nat64.Checksum
import Nat64.Checksum.PseudoHeader
import Nat64.CommandLine.Help
import Nat64.CommandLine.Invocation
import Nat64.CommandLine.Option
import Nat64.Config
import Nat64.Fault
import Nat64.Forwarding.Basic
import Nat64.Forwarding.ToIPv4
import Nat64.Forwarding.ToIPv6
import Nat64.Gateway
import Nat64.Header.IPv4
import Nat64.Header.IPv6
import Nat64.Header.Icmp
import Nat64.Header.Transport
import Nat64.HexDump
import Nat64.Icmp
import Nat64.LeaseTable
import Nat64.Main
import Nat64.Path
import Nat64.Pool
import Nat64.Program
import Nat64.Protocol
import Nat64.Route
import Nat64.Text.Blank
import Nat64.Toml.Document
import Nat64.Toml.Integer
import Nat64.Toml.Quoted
import Nat64.Toml.Token
import Nat64.Proofs.Pool
import Nat64.Proofs.LeaseTable
import Nat64.Proofs.Bytes
import Nat64.Proofs.Forwarding.Steps
import Nat64.Proofs.Header
import Nat64.Proofs.Forwarding.Passage
import Nat64.Proofs.Session
import Nat64.Proofs.Assembly
import Nat64.Proofs.Forwarding.Lookups
import Nat64.Proofs.Holding
import Nat64.Proofs.Return
import Nat64.Proofs.Checksum
import Nat64.Proofs.Checksum.Verification
import Nat64.Proofs.Header.RoundTrip
import Nat64.Proofs.Forwarding.WellFormed
import Nat64.Proofs.Checksum.Incremental
import Nat64.Proofs.Checksum.RoundTrip
import Nat64.Proofs.Forwarding.Quoted
import Nat64.Proofs.Forwarding.Contents
import Nat64.Proofs.Forwarding.Messages
import Nat64.Proofs.Forwarding.Transparent
import Nat64.Proofs.Forwarding.Errors
import Nat64.Proofs.Forwarding.QuotedEcho
import Nat64.Proofs.Forwarding.Presented
import Nat64.Proofs.Forwarding.Nesting
import Nat64.Proofs.Forwarding.Effect
import Nat64.Proofs.Forwarding.Sizes
import Nat64.Proofs.Forwarding.Shortened
import Nat64.Proofs.Forwarding.Internal
import Nat64.Proofs.Prefix
import Nat64.Proofs.Machine.Basic
import Nat64.Proofs.Machine.Checksum
import Nat64.Proofs.Machine.Header
import Nat64.Proofs.Machine.Assembly
import Nat64.Proofs.Machine.LeaseTable
import Nat64.Proofs.Machine.Messages
import Nat64.Proofs.Machine.Forwarding
import Nat64.Proofs.Forwarding.Answered
import Nat64.Proofs.Machine.Gateway
import Nat64.Proofs.Hairpin
import Nat64.Proofs.Forwarding.Declared
import Nat64.Proofs.Forwarding.Named
import Nat64.Proofs.Forwarding.Recipients
import Nat64.Proofs.Machine.Stream
import Nat64.Proofs.Tally
import Nat64.Proofs.Machine.RangeMap
import Nat64.Proofs.Pool.Runs
import Nat64.Proofs.Reclaiming
import Nat64.Proofs.Granting
import Nat64.Proofs.KeptBack
import Nat64.Proofs.Checksum.Changed
import Nat64.Proofs.Network
import Nat64.Proofs.Config
import Nat64.Proofs.Pool.Ascending
import Nat64.Proofs.Config.Leasable
import Nat64.Proofs.Route
import Nat64.Proofs.Route.Calls
import Nat64.Proofs.Icmp
import Nat64.Proofs.Assembly.Sealing
import Nat64.Proofs.HexDump
import Nat64.Proofs.Assembly.Shortening
import Nat64.Proofs.CommandLine
import Nat64.Proofs.Startup
