-- Commands as they are given on the command line.
namespace JsonExpr

namespace CommandLine

structure Options where
  -- packs in place of those of the settings
  packs : List String := []
  exclude : List String := []
  noBase : Bool := false
deriving Repr, DecidableEq

inductive Command where
  | apply (expression : String) (data : Option String) (options : Options)
  | evaluate (expression : String) (options : Options)
  | validate (expression : String) (options : Options)
  | names (options : Options)
  | help
deriving Repr, DecidableEq

-- What has been read of the arguments of a command.
structure Arguments where
  options : Options := {}
  data : Option String := none
  help : Bool := false
  positional : List String := []

-- An option that takes a value.
inductive ValueOption where
  | pack
  | exclude
  | data
deriving Repr, DecidableEq

inductive Argument where
  | positional
  -- two hyphens, after which there are no options
  | lastOption
  | noBase
  | help
  -- an option with the value that is attached to it, if there is one
  | valued (option : ValueOption) (attached : Option String)
  | unknown

namespace Argument

def shortOption? (takesData : Bool) : Char → Option ValueOption
  | 'p' => some .pack
  | 'x' => some .exclude
  | 'd' => if takesData then some .data else none
  | _ => none

def longOption? (takesData : Bool) : String → Option ValueOption
  | "pack" => some .pack
  | "exclude" => some .exclude
  | "data" => if takesData then some .data else none
  | _ => none

-- An argument after two hyphens. Only an option that takes a value can have one attached.
def ofLong (takesData : Bool) (text : List Char) : Argument :=
  let name := String.ofList (text.takeWhile (· != '='))
  match text.dropWhile (· != '=') with
  | '=' :: value =>
    match longOption? takesData name with
    | some option => valued option (some (String.ofList value))
    | none => unknown
  | _ =>
    match name with
    | "no-base" => noBase
    | "help" => help
    | name =>
      match longOption? takesData name with
      | some option => valued option none
      | none => unknown

def ofText (takesData : Bool) (text : String) : Argument :=
  match text.toList with
  | ['-', '-'] => lastOption
  | '-' :: '-' :: long => ofLong takesData long
  | '-' :: c :: value =>
    match shortOption? takesData c with
    | some option => valued option (if value.isEmpty then none else some (String.ofList value))
    | none => unknown
  | _ => positional

end Argument

namespace Arguments

def give (arguments : Arguments) (value : String) : ValueOption → Arguments
  | .pack =>
    { arguments with
      options := { arguments.options with packs := arguments.options.packs ++ [value] } }
  | .exclude =>
    { arguments with
      options := { arguments.options with exclude := arguments.options.exclude ++ [value] } }
  | .data => { arguments with data := some value }

-- Options may stand before and after the positional arguments, up to two hyphens alone. An option
-- may wait for its value.
def read? (takesData : Bool) : Option ValueOption → List String → Arguments → Option Arguments
  | none, [], arguments => some arguments
  | some _, [], _ => none
  | some option, value :: rest, arguments => read? takesData none rest (arguments.give value option)
  | none, text :: rest, arguments =>
    match Argument.ofText takesData text with
    | .positional =>
      read? takesData none rest { arguments with positional := arguments.positional ++ [text] }
    | .lastOption => some { arguments with positional := arguments.positional ++ rest }
    | .noBase =>
      read? takesData none rest
        { arguments with options := { arguments.options with noBase := true } }
    | .help => read? takesData none rest { arguments with help := true }
    | .valued option (some value) => read? takesData none rest (arguments.give value option)
    | .valued option none => read? takesData (some option) rest arguments
    | .unknown => none

end Arguments

namespace Command

-- Where the data of a command is, if it is a file.
def dataPath? : Command → Option String
  | apply _ (some path) _ => if path = "-" then none else some path
  | _ => none

-- Whether a command refers to the standard input.
def takesInput : Command → Bool
  | apply expression data _ => expression == "-" || data == some "-"
  | evaluate expression _ => expression == "-"
  | validate expression _ => expression == "-"
  | names _ | help => false

-- A command with arguments; nothing if there are too many or too few of them.
def ofArguments? (name : String) (arguments : Arguments) : Option Command :=
  match name, arguments.help, arguments.positional with
  | _, true, _ => some help
  | "apply", _, [expression] => some (apply expression arguments.data arguments.options)
  | "evaluate", _, [expression] => some (evaluate expression arguments.options)
  | "validate", _, [expression] => some (validate expression arguments.options)
  | "names", _, [] => some (names arguments.options)
  | _, _, _ => none

def commandNames : List String := ["apply", "evaluate", "validate", "names"]

def named? (name : String) (rest : List String) : Option Command := do
  if commandNames.contains name then
    ofArguments? name (← Arguments.read? (name == "apply") none rest {})
  else none

-- The command of all arguments; nothing if they are not used as they are meant to be.
def read? : List String → Option Command
  | [] => none
  | "--verbose" :: rest => read? rest
  | "--no-verbose" :: rest => read? rest
  | "--help" :: _ => some help
  | ["--"] => none
  | "--" :: name :: rest => named? name rest
  | name :: rest => named? name rest

end Command

end CommandLine

end JsonExpr
