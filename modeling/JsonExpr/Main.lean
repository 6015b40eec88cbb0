import JsonExpr.CommandLine.Outcome
import Std.Time.Zoned

-- The program: it reads what a command needs from outside, and prints what the command comes to.
namespace JsonExpr

namespace CommandLine

def usage : List String :=
  [ "Usage: dataexpr apply EXPRESSION [-d PATH] [OPTIONS]",
    "       dataexpr evaluate EXPRESSION [OPTIONS]",
    "       dataexpr validate EXPRESSION [OPTIONS]",
    "       dataexpr names [OPTIONS]",
    "",
    "EXPRESSION is JSON text, or '-' to read it from the standard input.",
    "",
    "  -d, --data PATH       JSON input data, or '-' for the standard input",
    "  -p, --pack NAME       pack name or module path; can be repeated",
    "  -x, --exclude NAME    operation to leave out; can be repeated",
    "  --no-base             do not include the base pack" ]

def readText? (path : String) : IO (Option String) := do
  let .ok text ← (IO.FS.readFile path).toBaseIO | return none
  return some text

-- The names of the current directory, the innermost one first.
def currentNames : IO (List String) := do
  return (((← IO.currentDir).toString.splitOn "/").filter (· ≠ "")).reverse

def documentPath (names : List String) : String :=
  "/" ++ "/".intercalate (Settings.documentName :: names).reverse

-- The nearest settings document, with its path.
def readDocument? : IO (Option (String × String)) := do
  let hasDocument := fun names => do return (← readText? (documentPath names)).isSome
  let some names ← Settings.findUpward hasDocument (← currentNames) | return none
  let some text ← readText? (documentPath names) | return none
  return some (documentPath names, text)

partial def readBytes (input : IO.FS.Stream) (before : ByteArray) : IO ByteArray := do
  let bytes ← input.read 65536
  if bytes.isEmpty then return before
  readBytes input (before ++ bytes)

def readInput : IO String := do
  let bytes ← readBytes (← IO.getStdin) .empty
  let some text := String.fromUTF8? bytes | throw (IO.userError "The standard input is not UTF-8")
  return text

-- Random numbers are different in each run.
def readSurroundings : IO Surroundings := do
  let bytes ← IO.getRandomBytes 8
  let seed := bytes.foldl (fun seed byte => 256 * seed + byte.toNat) 0
  let now ← Std.Time.DateTime.now
  return {
    generator := mkStdGen seed
    moment := {
      milliseconds := now.toTimestamp.toMillisecondsSinceUnixEpoch.val.toNat
      localOffset := now.offset.second.val / 60 } }

-- The host of a command. The standard input is read only if the command refers to it.
def readHost (command : Command) : IO Host := do
  let settings ← readDocument?
  let path := command.dataPath?.getD ""
  let data ← if path.isEmpty then pure none else readText? path
  let input ← if command.takesInput || data = some "-" then readInput else pure ""
  return {
    settings, input
    file? := fun name => if name = path then data else none
    surroundings := ← readSurroundings }

def rowText (row : List String) : String := "  ".intercalate row

-- Results and lists of operations go to the standard output, everything else to the error output.
def print (performance : Performance) : IO Unit := do
  performance.log.forM IO.eprintln
  let outcome := performance.outcome
  IO.print outcome.standardOutput
  match outcome with
  | .listed _ =>
    outcome.rows.forM fun row => IO.println (rowText row)
    IO.println outcome.summary
  | .help => usage.forM IO.println
  | .printed _ => return
  | _ =>
    outcome.rows.forM fun row => IO.eprintln (rowText row)
    IO.eprintln outcome.summary

end CommandLine

end JsonExpr

open JsonExpr CommandLine in
def main (arguments : List String) : IO UInt32 := do
  match Command.read? arguments with
  | none =>
    usage.forM IO.eprintln
    return 2
  | some command =>
    let performance := command.perform (← readHost command)
    print performance
    return performance.outcome.exitCode.toUInt32
