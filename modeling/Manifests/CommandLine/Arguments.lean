import Manifests.Output
import Manifests.Text.Split

/-!
The arguments of the command line.  They are read from left to right, and the value of an option is
held against its type when the next option begins or the arguments end.
-/
namespace Manifests.CommandLine

/-- Why arguments give nothing to run. -/
inductive Refusal where
  | help
  | version
  | noArguments
  | noCommand
  | unknownCommand (word : String)
  | unknownArgument (argument : String)
  | missingConfig
  | missingValue (option : String)
  | surplusValue (option : String)
  | invalidValue (option : String) (fault : Error)
  | repeated (option : String)
  deriving Repr, DecidableEq

/-- How the program is called. -/
def usage : String :=
  "Usage: manifests [-v] generate --config PATH [--resources DIR] [--overrides DIR]\n" ++
    "         [--output PATH] [--format yaml|json] [-D KEY=VALUE]...\n"

def Refusal.message : Refusal → String
  | help | version | noArguments => usage
  | noCommand => "a command is missing\n" ++ usage
  | unknownCommand word => "there is no command " ++ word ++ "\n" ++ usage
  | unknownArgument argument => "unexpected argument " ++ argument ++ "\n" ++ usage
  | missingConfig => "the option --config is required\n" ++ usage
  | missingValue option => "a value is required for " ++ option ++ "\n" ++ usage
  | surplusValue option => "no value is expected for " ++ option ++ "\n" ++ usage
  | invalidValue option fault => "invalid value for " ++ option ++ ": " ++ fault.message ++ "\n"
  | repeated option => option ++ " can not be given more than once\n" ++ usage

/-- Whether the refusal answers a question and is no error. -/
def Refusal.isAnswer : Refusal → Bool
  | help | version => true
  | _ => false

/-- The options that take a value. -/
inductive ValueOption where
  | config
  | resources
  | overrides
  | output
  | format
  | property
  deriving Repr, DecidableEq

namespace ValueOption

def all : List ValueOption := [config, resources, overrides, output, format, property]

/-- The option as usage texts name it. -/
def name : ValueOption → String
  | config => "--config"
  | resources => "--resources"
  | overrides => "--overrides"
  | output => "--output"
  | format => "--format"
  | property => "-D"

def ofLong? (s : String) : Option ValueOption := all.find? (·.name == "--" ++ s)

def ofShort? : Char → Option ValueOption
  | 'c' => some config
  | 'o' => some output
  | 'D' => some property
  | _ => none

end ValueOption

/-- What a command to generate asks for. -/
structure Options where
  verbose : Bool
  config : String
  resources : Option String
  overrides : Option String
  output : Option String
  format : OutputFormat
  properties : List String
  deriving Repr, DecidableEq

/-- The options given so far, and the last one while its value may still be to come. -/
structure Reading where
  verbose : Bool
  values : List (ValueOption × String)
  pending : Option (ValueOption × Option String)
  trailing : Bool

namespace Reading

def start : Reading := ⟨false, [], none, false⟩

def valuesOf (r : Reading) (o : ValueOption) : List String :=
  (r.values.filter (·.1 = o)).map (·.2)

/-- Adds a value.  Only properties may be given more than once, and paths are not empty. -/
def assign (r : Reading) (o : ValueOption) (value : String) : Except Refusal Reading :=
  let added := { r with values := r.values ++ [(o, value)], pending := none }
  if o = .property then .ok added
  else if r.valuesOf o ≠ [] then .error (.repeated o.name)
  else if o = .format then
    match OutputFormat.parse value with
    | .ok _ => .ok added
    | .error e => .error (.invalidValue o.name e)
  else if value = "" then .error (.missingValue o.name)
  else .ok added

/-- Closes the option that is pending. -/
def settle (r : Reading) : Except Refusal Reading :=
  match r.pending with
  | none => .ok r
  | some (o, none) => .error (.missingValue o.name)
  | some (o, some value) => r.assign o value

def beginOption (r : Reading) (o : ValueOption) (value : Option String) :
    Except Refusal Reading := do
  let r ← r.settle
  match value with
  | some value => r.assign o value
  | none => return { r with pending := some (o, none) }

def setVerbose (r : Reading) : Except Refusal Reading := do
  let r ← r.settle
  if r.verbose then throw (.repeated "--verbose")
  return { r with verbose := true }

/-- Reads letters behind one hyphen; what follows the letter of an option is its value. -/
def shorts (r : Reading) : List Char → Except Refusal Reading
  | [] => .ok r
  | c :: rest =>
    if c = 'v' then do shorts (← r.setVerbose) rest
    else if c = 'h' then do
      let _ ← r.settle
      throw .help
    else match ValueOption.ofShort? c with
      | none => throw (.unknownArgument (String.ofList ['-', c]))
      | some o => r.beginOption o <| match rest with
        | [] => none
        | '=' :: value => some (String.ofList value)
        | value => some (String.ofList value)

/-- Reads an option with a long name. -/
def long (r : Reading) (name : String) (value : Option String) : Except Refusal Reading :=
  match ValueOption.ofLong? name with
  | some o => r.beginOption o value
  | none =>
    if name ≠ "verbose" ∧ name ≠ "help" then throw (.unknownArgument ("--" ++ name))
    else if value.isSome then throw (.surplusValue ("--" ++ name))
    else if name = "verbose" then r.setVerbose
    else do
      let _ ← r.settle
      throw .help

/-- The name and the value of the text behind two hyphens. -/
def nameAndValue (cs : List Char) : String × Option String :=
  match Text.cutFirst? '=' cs with
  | some (name, value) => (String.ofList name, some (String.ofList value))
  | none => (String.ofList cs, none)

def argument (r : Reading) (a : String) : Except Refusal Reading :=
  if r.trailing then throw (.unknownArgument a)
  else match a.toList with
    | ['-', '-'] => return { r with trailing := true }
    | '-' :: '-' :: rest =>
      let (name, value) := nameAndValue rest
      r.long name value
    | '-' :: c :: rest => r.shorts (c :: rest)
    | _ => match r.pending with
      | some (o, none) => return { r with pending := some (o, some a) }
      | _ => throw (.unknownArgument a)

/-- The options of a command, which need a build document. -/
def finish (r : Reading) (verbose : Bool) : Except Refusal Options := do
  let r ← r.settle
  let some config := (r.valuesOf .config).head? | throw .missingConfig
  return {
    verbose := verbose || r.verbose
    config := config
    resources := (r.valuesOf .resources).head?
    overrides := (r.valuesOf .overrides).head?
    output := (r.valuesOf .output).head?
    format := match (r.valuesOf .format).head?.map OutputFormat.parse with
      | some (.ok format) => format
      | _ => .yaml
    properties := r.valuesOf .property }

end Reading

namespace Options

/-- The arguments behind the word `generate`. -/
def generate (verbose : Bool) (arguments : List String) : Except Refusal Options := do
  (← arguments.foldlM Reading.argument Reading.start).finish verbose

/-- Reads letters behind one hyphen in front of a command. -/
def flags (verbose : Bool) : List Char → Except Refusal Bool
  | [] => .ok verbose
  | 'v' :: rest => if verbose then throw (.repeated "--verbose") else flags true rest
  | 'h' :: _ => throw .help
  | 'V' :: _ => throw .version
  | c :: _ => throw (.unknownArgument (String.ofList ['-', c]))

/-- Reads a long name in front of a command. -/
def flag (verbose : Bool) (name : String) (value : Option String) : Except Refusal Bool :=
  let letter := match name with
    | "verbose" => ['v']
    | "help" => ['h']
    | "version" => ['V']
    | _ => []
  if letter = [] then throw (.unknownArgument ("--" ++ name))
  else if value.isSome then throw (.surplusValue ("--" ++ name))
  else flags verbose letter

/-- The commands: to generate, and to help with a command. -/
def isCommand (word : String) : Bool := word = "generate" || word = "help"

/-- What the help command answers for the words behind it. -/
def helpFor : List String → Refusal
  | [] => .help
  | [word] => if isCommand word then .help else .unknownCommand word
  | word :: next :: _ => if isCommand word then .unknownCommand next else .unknownCommand word

/-- Reads the flags in front of the command and then the command. -/
def parseWith (verbose : Bool) : List String → Except Refusal Options
  | [] => throw (if verbose then .noCommand else .noArguments)
  | "generate" :: rest => generate verbose rest
  | "help" :: rest => throw (helpFor rest)
  | "--" :: [] => throw (if verbose then .noCommand else .noArguments)
  | "--" :: word :: _ =>
    throw (if isCommand word then .unknownArgument word else .unknownCommand word)
  | a :: rest =>
    match a.toList with
    | '-' :: '-' :: cs => do
      let (name, value) := Reading.nameAndValue cs
      parseWith (← flag verbose name value) rest
    | '-' :: c :: cs => do parseWith (← flags verbose (c :: cs)) rest
    | _ => throw (.unknownCommand a)

/-- The options of all arguments. -/
def parse (arguments : List String) : Except Refusal Options := parseWith false arguments

end Options
end Manifests.CommandLine
