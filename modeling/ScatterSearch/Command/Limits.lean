import ScatterSearch.Cluster.Error
import ScatterSearch.Json.Printer

/-!
# Limits on commands

A command is checked before anything else happens: its name must have some bytes but not too many,
and its encoded arguments must not be too long. A node can also let everything pass.
-/

namespace ScatterSearch

/-- What a command has to keep to. -/
inductive CommandLimits where
  | none
  | within (maxArgumentBytes maxNameBytes : Nat)
  deriving DecidableEq, Repr

namespace CommandLimits

/-- How long a name may be when only the arguments are limited. -/
def defaultNameBytes : Nat := 256

/-- Checks a command's name and arguments. -/
def check (limits : CommandLimits) (command : String) (arguments : Json) :
    Except ClusterError Unit :=
  match limits with
  | .none => .ok ()
  | .within maxArgumentBytes maxNameBytes =>
    let size := arguments.encodedLength
    if command.isEmpty ∨ maxNameBytes < command.utf8ByteSize then
      .error (.rejected command ("name must be 1..=" ++ Nat.repr maxNameBytes ++ " bytes"))
    else if maxArgumentBytes < size then
      .error (.rejected command ("arguments are " ++ Nat.repr size ++ " bytes, limit is " ++
        Nat.repr maxArgumentBytes))
    else .ok ()

end CommandLimits

end ScatterSearch
