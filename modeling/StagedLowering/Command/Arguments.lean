import StagedLowering.Registry

/-! The command line. -/
namespace StagedLowering.Command

/-- Options that take a value. -/
inductive ValueOption where
  | output
  | pipeline
  | config
  deriving DecidableEq, Repr

/-- Options that take none. -/
inductive Switch where
  | strict
  | printPipeline
  | printOptions
  | listPipelines
  | timings
  deriving DecidableEq, Repr

inductive UsageError where
  | unknown (argument : String)
  | noValue (option : String)
  | needlessValue (argument : String)
  | repeated (argument : String)
  | emptyValue (option : String)
  | extra (argument : String)
  deriving DecidableEq, Repr

def UsageError.message : UsageError → String
  | .unknown a => "unexpected argument '" ++ a ++ "' found"
  | .noValue o => "a value is required for '" ++ o ++ "' but none was supplied"
  | .needlessValue a => "unexpected value in '" ++ a ++ "'"
  | .repeated a => "'" ++ a ++ "' cannot be used multiple times"
  | .emptyValue o => "the value of '" ++ o ++ "' must not be empty"
  | .extra a => "unexpected argument '" ++ a ++ "' found"

def ValueOption.name : ValueOption → String
  | .output => "--output"
  | .pipeline => "--pipeline"
  | .config => "--config"

def ValueOption.letter : ValueOption → Char
  | .output => 'o'
  | .pipeline => 'p'
  | .config => 'c'

def ValueOption.all : List ValueOption := [.output, .pipeline, .config]

def Switch.name : Switch → String
  | .strict => "--strict"
  | .printPipeline => "--print-pipeline"
  | .printOptions => "--print-options"
  | .listPipelines => "--list-pipelines"
  | .timings => "--timings"

def Switch.all : List Switch :=
  [.strict, .printPipeline, .printOptions, .listPipelines, .timings]

/-- What a command line asks for. -/
structure Arguments where
  input : String := "-"
  output : Option String := none
  pipeline : String := Registration.transformation.name
  config : Option String := none
  strict : Bool := false
  printPipeline : Bool := false
  printOptions : Bool := false
  listPipelines : Bool := false
  timings : Bool := false
  deriving DecidableEq, Repr

/-- A command line that is being read. -/
structure Draft where
  input : Option String := none
  values : List (ValueOption × String) := []
  switches : List Switch := []

namespace Draft

def value? (d : Draft) (o : ValueOption) : Option String := d.values.lookup o

/-- Gives an option its value. Files have a name. -/
def setValue (d : Draft) (o : ValueOption) (v : String) : Except UsageError Draft :=
  if (d.value? o).isSome then .error (.repeated o.name)
  else if v = "" ∧ o ≠ .pipeline then .error (.emptyValue o.name)
  else .ok { d with values := (o, v) :: d.values }

def setSwitch (d : Draft) (s : Switch) : Except UsageError Draft :=
  if s ∈ d.switches then .error (.repeated s.name)
  else .ok { d with switches := s :: d.switches }

def setInput (d : Draft) (v : String) : Except UsageError Draft :=
  if d.input.isSome then .error (.extra v) else .ok { d with input := some v }

def finish (d : Draft) : Arguments where
  input := d.input.getD "-"
  output := d.value? .output
  pipeline := (d.value? .pipeline).getD Registration.transformation.name
  config := d.value? .config
  strict := .strict ∈ d.switches
  printPipeline := .printPipeline ∈ d.switches
  printOptions := .printOptions ∈ d.switches
  listPipelines := .listPipelines ∈ d.switches
  timings := .timings ∈ d.switches

end Draft

/-- Where the reader is: among options, before the value of an option, or behind the mark that ends
options. -/
inductive Position where
  | options
  | valueOf (o : ValueOption)
  | operands

/-- The name of a long option, and the value behind an equals sign. -/
def splitEquals (a : String) : String × Option String :=
  let cs := a.toList
  let name := String.ofList (cs.takeWhile (· ≠ '='))
  match cs.dropWhile (· ≠ '=') with
  | [] => (name, none)
  | _ :: v => (name, some (String.ofList v))

def readLong (d : Draft) (a : String) : Except UsageError (Draft × Position) :=
  let (name, v) := splitEquals a
  match ValueOption.all.find? (·.name = name), Switch.all.find? (·.name = name), v with
  | some o, _, some v => do return (← d.setValue o v, .options)
  | some o, _, none => .ok (d, .valueOf o)
  | none, some s, none => do return (← d.setSwitch s, .options)
  | none, some _, some _ => .error (.needlessValue a)
  | none, none, _ => .error (.unknown a)

/-- A letter with its value right behind it, perhaps after an equals sign. -/
def readShort (d : Draft) (a : String) (letter : Char) (rest : List Char) :
    Except UsageError (Draft × Position) :=
  match ValueOption.all.find? (·.letter = letter), rest with
  | none, _ => .error (.unknown a)
  | some o, [] => .ok (d, .valueOf o)
  | some o, '=' :: v => do return (← d.setValue o (String.ofList v), .options)
  | some o, v => do return (← d.setValue o (String.ofList v), .options)

def readArgument (d : Draft) (a : String) : Position → Except UsageError (Draft × Position)
  | .operands => do return (← d.setInput a, .operands)
  | .valueOf o =>
    match a.toList with
    | '-' :: _ :: _ => .error (.noValue o.name)
    | _ => do return (← d.setValue o a, .options)
  | .options =>
    match a.toList with
    | ['-', '-'] => .ok (d, .operands)
    | '-' :: '-' :: _ => readLong d a
    | '-' :: letter :: rest => readShort d a letter rest
    | _ => do return (← d.setInput a, .options)

def readArguments : List String → Draft → Position → Except UsageError Draft
  | [], _, .valueOf o => .error (.noValue o.name)
  | [], d, _ => .ok d
  | a :: rest, d, p => do
    let (d, p) ← readArgument d a p
    readArguments rest d p

/-- Reads a command line. -/
def Arguments.parse (args : List String) : Except UsageError Arguments :=
  (readArguments args {} .options).map (·.finish)

end StagedLowering.Command
