import ScatterSearch.CommandLine
import ScatterSearch.Node.Node
import Std.Time.DateTime.Timestamp

/-!
# The program

Starts a node as its arguments say, and answers the requests that come on standard input: a line
each, with the method, the path and, if there is one, the JSON body. An answer is a line as well,
with the status code and the body. Everything the program decides is decided elsewhere; here it
meets the clock and the files.
-/

namespace ScatterSearch.Program

/-- The text of a file, or why it cannot be read. -/
def readText (path : String) : IO (Except String String) := do
  try
    return .ok (← IO.FS.readFile path)
  catch
    | .noFileOrDirectory .. => return .error "No such file or directory (os error 2)"
    | .permissionDenied .. => return .error "Permission denied (os error 13)"
    | .inappropriateType .. => return .error "Is a directory (os error 21)"
    | .userError _ => return .error "stream did not contain valid UTF-8"
    | e => return .error (toString e)

/-- The request on a line. -/
def request (line : String) : HttpRequest :=
  match line.trimAscii.toString.splitOn " " with
  | method :: target :: body => ⟨method, target, some "application/json", " ".intercalate body⟩
  | method => ⟨" ".intercalate method, "", none, ""⟩

/-- The line of an answer. -/
def responseLine (r : HttpResponse) : String :=
  match r.body with
  | some body => Nat.repr r.code ++ " " ++ body.render
  | none => Nat.repr r.code

/-- Lets time pass until a request is answered. -/
partial def await (start : Nat) (ticket : Ticket) (n : Node) : IO (HttpResponse × Node) := do
  let now := (← IO.monoMsNow) - start
  let n := Clock.settle Node.machine now n
  match n.response? ticket, n.due with
  | some r, _ => return (r, n)
  | none, some due =>
    IO.sleep (UInt32.ofNat (due - now))
    await start ticket n
  | none, none => return (.empty 500, n)

/-- Answers one request after the other. -/
partial def serve (input : IO.FS.Stream) (start : Nat) (clock : UInt64) (n : Node) : IO Unit := do
  let line ← input.getLine
  if line.isEmpty then return
  let now := (← IO.monoMsNow) - start
  let (ticket, n) := (Clock.settle Node.machine now n).handle now clock (request line)
  let (response, n) ← await start ticket n
  IO.println (responseLine response)
  serve input start clock n

/-- A number that no other node is likely to draw. -/
def drawOrigin : IO Nat := do
  return (← IO.getRandomBytes 4).foldl (fun n b => 256 * n + b.toNat) 0

/-- Runs a node with the given settings until its input ends. -/
def run (config : NodeConfig) : IO Unit := do
  let server := Server.ofAddress config.bind
  let clock := (← Std.Time.Timestamp.now).toMillisecondsSinceUnixEpoch.val.toNat
  let node := Node.start server config none (← drawOrigin) (Node.unreachable config.client)
  serve (← IO.getStdin) (← IO.monoMsNow) (UInt64.ofNat clock) node

/-- Says why the program ends. -/
def leave (e : Exit) : IO UInt32 := do
  for line in e.lines "search-node" do
    IO.eprintln line
  return UInt32.ofNat e.code

end ScatterSearch.Program

open ScatterSearch in
/-- The program. -/
def main (args : List String) : IO UInt32 := do
  match LaunchOptions.none.read args with
  | .error e => Program.leave e
  | .ok options =>
    let text ← match options.config with
      | some path => Program.readText path
      | none => pure (.ok "")
    match options.settings text with
    | .error e => Program.leave e
    | .ok config =>
      Program.run config
      return 0
