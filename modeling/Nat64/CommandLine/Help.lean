import Nat64.CommandLine.Invocation

/-!
# What the program says about itself
-/

namespace Nat64

/-- The name of the program. -/
def programName : String := "tunnel-rs-nat64"

/-- The version of the program. -/
def programVersion : String := "0.1.0"

/-- The lines of the help with a topic. -/
def Topic.helpLines : Topic → List String
  | program => [
    "Stateful NAT64 translator over a TUN device",
    "",
    "Usage: " ++ programName ++ " <COMMAND>",
    "",
    "Commands:",
    "  run           Run the translator",
    "  check-config  Validate a config file and print the effective configuration",
    "  help          Print this message or the help of the given subcommand(s)",
    "",
    "Options:",
    "  -h, --help     Print help",
    "  -V, --version  Print version"]
  | run => [
    "Run the translator",
    "",
    "Usage: " ++ programName ++ " run [OPTIONS]",
    "",
    "Options:",
    "  -c, --config <CONFIG>            Path to config file (default: ~/.config/tunnel-rs/nat64.toml if present)",
    "      --tun-name <TUN_NAME>        TUN device name",
    "      --prefix <PREFIX>            NAT64 prefix (only /96 is supported)",
    "      --pool <CIDR>                IPv4 pool network (repeatable; replaces the configured pool)",
    "      --reserved <ADDR>            Pool address that is never leased (repeatable)",
    "      --expiry-secs <EXPIRY_SECS>  Idle seconds before a binding can be reclaimed",
    "      --mtu <MTU>                  MTU for the TUN device (valid range: 1280-65535)",
    "      --no-routes                  Do not install routes for the prefix and pool",
    "  -h, --help                       Print help"]
  | checkConfig => [
    "Validate a config file and print the effective configuration",
    "",
    "Usage: " ++ programName ++ " check-config --config <CONFIG>",
    "",
    "Options:",
    "  -c, --config <CONFIG>  Path to config file",
    "  -h, --help             Print help"]
  | help => [
    "Print this message or the help of the given subcommand(s)",
    "",
    "Usage: " ++ programName ++ " help [COMMAND]...",
    "",
    "Arguments:",
    "  [COMMAND]...  Print help for the subcommand(s)"]

/-- The help with a topic. -/
def Topic.helpText (topic : Topic) : String := String.join (topic.helpLines.map (· ++ "\n"))

/-- The program with its version. -/
def versionText : String := programName ++ " " ++ programVersion ++ "\n"

end Nat64
