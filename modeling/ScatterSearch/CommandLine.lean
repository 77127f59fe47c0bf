import ScatterSearch.Node.Config

/-!
# The command line

A node is started with an address to listen on and the path of a file with its settings, both
optional; other arguments are ignored. Arguments are looked at from left to right, and the first
that is wrong or asks for help ends the program. The file is read last.
-/

namespace ScatterSearch

/-- What the arguments ask for. -/
structure LaunchOptions where
  bind : Option SocketAddress
  config : Option String
  deriving DecidableEq, Repr

/-- Why the program ends without starting a node. -/
inductive Exit where
  | help
  | badAddress
  | missingValue (option : String)
  | badConfig (e : ConfigError)
  deriving DecidableEq, Repr

namespace Exit

/-- How the program is called. -/
def usage (program : String) : List String :=
  ["Usage: " ++ program ++ " [--bind <addr:port>] [--config <file.json>]",
   "Example: " ++ program ++ " --bind 127.0.0.1:40020",
   "Example: " ++ program ++ " --bind 127.0.0.1:40021 --config cluster.json"]

/-- The exit code. -/
def code : Exit → Nat
  | .help => 0
  | _ => 1

/-- What the program says at its end, line by line. -/
def lines (program : String) : Exit → List String
  | .help => usage program
  | .badAddress => ["Error: invalid socket address syntax"]
  | .missingValue option => usage program ++ ["Error: " ++ option ++ " requires a value"]
  | .badConfig e => ["Error: " ++ e.context, "", "Caused by:", "    " ++ e.cause]

end Exit

namespace LaunchOptions

/-- No options. -/
def none : LaunchOptions := ⟨.none, .none⟩

/-- Reads arguments, from left to right. -/
def read (o : LaunchOptions) : List String → Except Exit LaunchOptions
  | [] => .ok o
  | ["--bind"] => .error (.missingValue "--bind")
  | ["--config"] => .error (.missingValue "--config")
  | "--bind" :: value :: rest =>
    match SocketAddress.parse? value with
    | some address => read { o with bind := some address } rest
    | .none => .error .badAddress
  | "--config" :: value :: rest => read { o with config := some value } rest
  | arg :: rest => if arg = "--help" ∨ arg = "-h" then .error .help else read o rest

/-- The settings of the node to start; `text` is what the file holds, or why it cannot be read. -/
def settings (o : LaunchOptions) (text : Except String String) : Except Exit NodeConfig := do
  let config ← match o.config with
    | some path => (NodeConfig.load path text).mapError .badConfig
    | .none => .ok .default
  return { config with bind := o.bind.getD config.bind }

end LaunchOptions

end ScatterSearch
