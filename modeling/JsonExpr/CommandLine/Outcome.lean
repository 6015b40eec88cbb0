import JsonExpr.CommandLine.Command
import JsonExpr.Engine.Validation
import JsonExpr.Settings.Document
import JsonExpr.Text.JsonReader

-- What a command comes to, given what it reads from outside.
namespace JsonExpr

namespace CommandLine

-- What a command can read: the settings document, if there is one, with its path, the standard
-- input, and files. Line ends are those of the outside. So is the reading of what is true or false
-- in the settings.
structure Host where
  settings : Option (String × String)
  readBoolean : Settings.BooleanReader := Settings.boolean
  input : String
  file? : String → Option String
  surroundings : Surroundings

inductive Outcome where
  | printed (result : Value)
  | valid
  | problems (messages : List String)
  | listed (operations : List (String × Bool × Bool))
  | failed (message : String)
  -- a breach that nothing foresees
  | crashed (failure : Failure)
  | help

namespace Outcome

-- Zero unless something is wrong.
def exitCode : Outcome → Nat
  | problems _ | failed _ | crashed _ => 1
  | _ => 0

def standardOutput : Outcome → String
  | printed result => JsonLayout.result.write result ++ "\n"
  | _ => ""

def check (supported : Bool) : String := if supported then "✓" else "-"

def problemRow (index : Nat) (message : String) : List String := [toString index, message]

-- The table of problems or of operations.
def rows : Outcome → List (List String)
  | problems messages => (List.range' 1 messages.length).zipWith problemRow messages
  | listed operations =>
    ["Operation", "Apply", "Evaluate"] ::
      operations.map fun (name, applies, evaluates) => [name, check applies, check evaluates]
  | _ => []

-- The line that sums the outcome up.
def summary : Outcome → String
  | valid => "✓ Expression is valid"
  | problems messages => "✗ " ++ toString messages.length ++ " unknown operator(s)"
  | listed operations => toString operations.length ++ " registered"
  | failed message => "Error: " ++ message
  | crashed _ => "An unforeseen fault stopped the command"
  | _ => ""

end Outcome

-- An outcome with what was logged on the way to it.
structure Performance where
  outcome : Outcome
  log : List String := []

-- What the run of an expression comes to.
def Performance.ofReport (report : Report Value) : Performance where
  outcome := match report.result with
    | .ok result => .printed result
    | .error failure => if failure.isRecoverable then .failed failure.message else .crashed failure
  log := Event.log false report.events

-- An outcome that a command stops with before its work is done.
abbrev Attempt := Except Outcome

def fail {α : Type} (message : String) : Attempt α := .error (.failed message)

def ofSettings {α : Type} : Except SettingsFailure α → Attempt α
  | .ok a => .ok a
  | .error (.fault cause) => .error (.crashed (.fault cause))
  | .error (.reference (.fault cause)) => .error (.crashed (.fault cause))
  | .error failure => fail failure.message

-- Every kind of line end becomes the one.
def unifyLineEnds : List Char → List Char
  | '\r' :: '\n' :: rest => '\n' :: unifyLineEnds rest
  | '\r' :: rest => '\n' :: unifyLineEnds rest
  | c :: rest => c :: unifyLineEnds rest
  | [] => []

def readSettings (host : Host) : Attempt Settings :=
  match host.settings with
  | none => .ok {}
  | some (path, source) => ofSettings (Settings.ofSource path source host.readBoolean)

-- The engine that the settings ask for. Packs given as options take the place of those in the
-- settings; what options leave out, they leave out in addition.
def buildEngine (host : Host) (options : Options) : Attempt Engine := do
  let settings ← readSettings host
  let references := if options.packs.isEmpty then settings.packs else options.packs
  let packs ← ofSettings (references.mapM fun reference =>
    (resolvePack reference).mapError SettingsFailure.reference)
  return .ofPacks packs none (settings.includeBase && !options.noBase)
    (settings.exclude ++ options.exclude)

-- JSON text given directly, or a hyphen for the standard input, which can be read only once.
def readJson (host : Host) (inputTaken : Bool) (source : List Char) (subject : String) :
    Attempt Value :=
  let text :=
    if source = ['-'] then (if inputTaken then [] else unifyLineEnds host.input.toList) else source
  match Value.ofJson text with
  | .ok value => .ok value
  | .error problem => fail ("Invalid JSON in " ++ subject ++ ": " ++ problem.message text)

def splitPath : List Char → List (List Char)
  | [] => [[]]
  | '/' :: rest => [] :: splitPath rest
  | c :: rest =>
    match splitPath rest with
    | part :: parts => (c :: part) :: parts
    | [] => [[c]]

-- A path without empty parts and points. Two slashes in front, and no more, are kept.
def normalPath (path : String) : String :=
  let chars := path.toList
  let parts := (splitPath chars).filter fun part => part ≠ [] && part ≠ ['.']
  let slashes := (chars.takeWhile (· == '/')).length
  let root := if slashes = 0 then "" else if slashes = 2 then "//" else "/"
  let text := root ++ "/".intercalate (parts.map String.ofList)
  if text.isEmpty then "." else text

def inputData : String := "input data"

-- The data that an expression is applied to.
def readData (host : Host) (inputTaken : Bool) : Option String → Attempt Value
  | none => .ok .null
  | some "-" => readJson host inputTaken ['-'] inputData
  | some path =>
    match host.file? path with
    | some text => readJson host inputTaken (unifyLineEnds text.toList) inputData
    | none => fail ("Input data file not found: " ++ normalPath path)

def runApply (host : Host) (expression : String) (data : Option String) (options : Options) :
    Attempt Performance := do
  if expression = "-" ∧ data = some "-" then
    fail "Only one of the expression and the input data can be read from stdin"
  let engine ← buildEngine host options
  let value ← readJson host false expression.toList "expression"
  let input ← readData host (expression == "-") data
  return .ofReport (engine.apply value input host.surroundings)

def runEvaluate (host : Host) (expression : String) (options : Options) : Attempt Performance := do
  let engine ← buildEngine host options
  let value ← readJson host false expression.toList "expression"
  return .ofReport (engine.evaluate value host.surroundings)

def runValidate (host : Host) (expression : String) (options : Options) : Attempt Performance := do
  let engine ← buildEngine host options
  let value ← readJson host false expression.toList "expression"
  match engine.validate value with
  | [] => return { outcome := .valid }
  | messages => return { outcome := .problems messages }

-- A registered entry that is no operation cannot be asked for its modes.
def modesOf : String × Definition → Attempt (String × Bool × Bool)
  | (name, .operation o) => .ok (name, o.supports .apply, o.supports .evaluate)
  | (_, .inert _) => .error (.crashed (.fault .notAnOperation))

def runNames (host : Host) (options : Options) : Attempt Performance := do
  let engine ← buildEngine host options
  return { outcome := .listed (← engine.definitions.mapM modesOf) }

def Command.attempt (host : Host) : Command → Attempt Performance
  | apply expression data options => runApply host expression data options
  | evaluate expression options => runEvaluate host expression options
  | validate expression options => runValidate host expression options
  | names options => runNames host options
  | help => .ok { outcome := .help }

def Command.perform (host : Host) (command : Command) : Performance :=
  match command.attempt host with
  | .ok performance => performance
  | .error outcome => { outcome }

end CommandLine

end JsonExpr
