import RequestSuite.Command.Basic
import RequestSuite.Variable.File

/-!
# Arguments

A command line is read argument by argument.  An option is written with two dashes and its name, or
with one dash and a letter; letters may be joined behind one dash.  The value of an option follows
it as an argument of its own, or behind an equals sign, or directly behind the letter.  After two
dashes alone no argument is an option any more.

The value of an option or of the bundle is checked when the next option is met or the line ends, so
that an unknown option is complained about first.
-/

namespace RequestSuite

/-- The values that a command takes. -/
inductive Slot where
  | bundle
  | environment
  | variableFile
  | assignment
  | request
  | settings
deriving DecidableEq, Repr

namespace Slot

/-- What a value is called on the command line. -/
def name : Slot → String
  | bundle => "<BUNDLE>"
  | environment => "--env <ENV>"
  | variableFile => "--var-file <PATH>"
  | assignment => "--var <KEY=VALUE>"
  | request => "--request <REQUEST>"
  | settings => "--config <CONFIG>"

/-- Whether more than one value may be given. -/
def isRepeatable : Slot → Bool
  | variableFile | assignment => true
  | _ => false

end Slot

/-- Why a command line cannot be carried out. -/
inductive UsageError where
  /-- The line asks how commands are used. -/
  | help
  /-- The line asks for the version. -/
  | version
  /-- The line is empty. -/
  | empty
  | missingCommand
  | unknownCommand (name : String)
  | unknownArgument (text : String)
  | missingBundle
  /-- An option that takes no value was given one. -/
  | unexpectedValue (option : String)
  | missingValue (slot : Slot)
  | emptyValue (slot : Slot)
  | invalidAssignment (text : String)
  /-- Something was given twice that may be given only once. -/
  | repeated (name : String)
deriving DecidableEq, Repr

/-- What a refused command line is reported as. -/
def UsageError.message : UsageError → String
  | help | empty => "Usage: <run|envs|help> [OPTIONS] <BUNDLE>"
  | version => "0.1.0"
  | missingCommand => "a command is required: run, envs or help"
  | unknownCommand name => "unrecognized command '" ++ name ++ "'"
  | unknownArgument text => "unexpected argument '" ++ text ++ "'"
  | missingBundle => "the argument <BUNDLE> is required"
  | unexpectedValue option => "the option '" ++ option ++ "' takes no value"
  | missingValue slot | emptyValue slot => "a value is required for '" ++ slot.name ++ "'"
  | invalidAssignment text => "expected KEY=VALUE, got '" ++ text ++ "'"
  | repeated name => "'" ++ name ++ "' cannot be used multiple times"

/-! ## Single arguments -/

/-- What an argument looks like. -/
inductive Argument where
  /-- Two dashes alone. -/
  | divider
  /-- A named option, with a value behind an equals sign. -/
  | long (name : String) (value : Option String)
  /-- Letters behind one dash. -/
  | short (letters : List Char)
  | plain (text : String)
deriving DecidableEq, Repr

/-- The name before the first equals sign of a text, and the value behind it. -/
def splitValue (s : List Char) : String × Option String :=
  match s.dropWhile (· != '=') with
  | [] => (String.ofList s, none)
  | _ :: value => (String.ofList (s.takeWhile (· != '=')), some (String.ofList value))

/-- What an argument looks like. -/
def Argument.ofText (text : String) : Argument :=
  match text.toList with
  | ['-', '-'] => .divider
  | '-' :: '-' :: rest => .long (splitValue rest).1 (splitValue rest).2
  | '-' :: c :: rest => .short (c :: rest)
  | _ => .plain text

/-! ## The arguments of a command -/

/-- The commands that take a bundle. -/
inductive Subcommand where
  | run
  | environments
deriving DecidableEq, Repr

namespace Subcommand

/-- The command of a name. -/
def ofName? : String → Option Subcommand
  | "run" => some run
  | "envs" => some environments
  | _ => none

/-- The value that a named option takes. -/
def longSlot? : Subcommand → String → Option Slot
  | run, "env" => some .environment
  | run, "var" => some .assignment
  | run, "request" => some .request
  | run, "config" => some .settings
  | _, "var-file" => some .variableFile
  | _, _ => none

/-- The value that a lettered option takes. -/
def shortSlot? : Subcommand → Char → Option Slot
  | run, 'e' => some .environment
  | run, 'r' => some .request
  | run, 'c' => some .settings
  | _, _ => none

end Subcommand

/-- How far the arguments of a command have been read. -/
structure Draft where
  /-- The checked values in their order. -/
  values : List (Slot × String) := []
  /-- A value that is still to be checked, or that is still to come. -/
  pending : Option (Slot × Option String) := none
  verbose : Bool := false
  /-- Whether the bundle was given. -/
  hasBundle : Bool := false
  /-- Whether no argument is an option any more. -/
  optionsEnded : Bool := false
deriving DecidableEq, Repr

namespace Draft

/-- The first value of a slot. -/
def value? (d : Draft) (slot : Slot) : Option String :=
  d.values.lookup slot

/-- All values of a slot. -/
def allValues (d : Draft) (slot : Slot) : List String :=
  (d.values.filter fun v => v.1 == slot).map (·.2)

/-- A name and a value that make an assignment. -/
def assignment? (text : String) : Option (String × String) :=
  (readAssignment? text).filter fun a => !a.1.isEmpty

/-- Why a value is unusable. -/
def valueFault? (slot : Slot) (value : String) : Option UsageError :=
  match slot with
  | .bundle | .variableFile | .settings =>
    if value.isEmpty then some (.emptyValue slot) else none
  | .assignment =>
    if (assignment? value).isNone then some (.invalidAssignment value) else none
  | .environment | .request => none

/-- Takes a value. -/
def fill (d : Draft) (slot : Slot) (value : String) : Except UsageError Draft :=
  if !slot.isRepeatable && (d.value? slot).isSome then .error (.repeated slot.name)
  else
    match valueFault? slot value with
    | some e => .error e
    | none => .ok { d with values := d.values ++ [(slot, value)], pending := none }

/-- Checks the value that is still to be checked. -/
def settle (d : Draft) : Except UsageError Draft :=
  match d.pending with
  | none => .ok d
  | some (slot, none) => .error (.missingValue slot)
  | some (slot, some value) => d.fill slot value

/-- Reads an option that takes a value, which may stand with it. -/
def readValued (d : Draft) (slot : Slot) (value : Option String) : Except UsageError Draft := do
  let d ← d.settle
  match value with
  | some value => d.fill slot value
  | none => return { d with pending := some (slot, none) }

/-- Reads the option to tell everything. -/
def readVerbose (d : Draft) : Except UsageError Draft := do
  let d ← d.settle
  if d.verbose then throw (.repeated "--verbose")
  return { d with verbose := true }

/-- Reads the option that asks for help. -/
def readHelp (d : Draft) : Except UsageError Draft := do
  let _ ← d.settle
  throw .help

/-- Reads a named option. -/
def readLong (d : Draft) (sub : Subcommand) (name : String) (value : Option String) :
    Except UsageError Draft :=
  match sub.longSlot? name with
  | some slot => d.readValued slot value
  | none =>
    if name ≠ "verbose" ∧ name ≠ "help" then .error (.unknownArgument ("--" ++ name))
    else if value.isSome then .error (.unexpectedValue ("--" ++ name))
    else if name = "verbose" then d.readVerbose
    else d.readHelp

/-- Reads lettered options. -/
def readShort (d : Draft) (sub : Subcommand) : List Char → Except UsageError Draft
  | [] => .ok d
  | c :: rest =>
    match sub.shortSlot? c with
    | some slot =>
      match rest with
      | [] => d.readValued slot none
      | '=' :: value => d.readValued slot (some (String.ofList value))
      | value => d.readValued slot (some (String.ofList value))
    | none =>
      if c = 'v' then do (← d.readVerbose).readShort sub rest
      else if c = 'h' then d.readHelp
      else .error (.unknownArgument ("-" ++ String.singleton c))

/-- Reads an argument that stands for the bundle. -/
def readBundle (d : Draft) (text : String) : Except UsageError Draft := do
  if d.hasBundle then throw (.unknownArgument text)
  let d ← d.settle
  return { d with pending := some (.bundle, some text), hasBundle := true }

/-- Reads an argument that is no option. -/
def readPlain (d : Draft) (text : String) : Except UsageError Draft :=
  match d.pending with
  | some (slot, none) => .ok { d with pending := some (slot, some text) }
  | _ => d.readBundle text

/-- Reads an argument. -/
def read (sub : Subcommand) (d : Draft) (text : String) : Except UsageError Draft :=
  if d.optionsEnded then d.readBundle text
  else
    match Argument.ofText text with
    | .divider => .ok { d with optionsEnded := true }
    | .long name value => d.readLong sub name value
    | .short letters => d.readShort sub letters
    | .plain text => d.readPlain text

/-- The command that the arguments ask for. -/
def command (d : Draft) (sub : Subcommand) : Except UsageError Command :=
  match d.value? .bundle with
  | none => .error .missingBundle
  | some bundle =>
    match sub with
    | .environments => .ok (.environments bundle (d.allValues .variableFile))
    | .run => .ok (.run {
        bundle := bundle
        environment := d.value? .environment
        variableFiles := d.allValues .variableFile
        assignments := (d.allValues .assignment).filterMap assignment?
        request := d.value? .request
        settings := d.value? .settings })

end Draft

/-- Reads the arguments of a command. -/
def Subcommand.read (sub : Subcommand) (verbose : Bool) (args : List String) :
    Except UsageError Invocation := do
  let d ← (← args.foldlM (Draft.read sub) {}).settle
  return ⟨← d.command sub, verbose || d.verbose⟩

/-! ## Whole command lines -/

namespace Invocation

/-- Whether a text names a command. -/
def isCommandName (text : String) : Bool :=
  (Subcommand.ofName? text).isSome || text == "help"

/-- The answer to a question for help with commands, which have no parts of their own. -/
def helpWith : List String → UsageError
  | [] => .help
  | name :: rest =>
    if !isCommandName name then .unknownCommand name
    else
      match rest with
      | [] => .help
      | part :: _ => .unknownCommand part

/-- What is wrong with a line that ends without a command. -/
def withoutCommand (verbose : Bool) : UsageError :=
  if verbose then .missingCommand else .empty

/-- What is wrong with a line that has no option before its command any more. -/
def afterDivider (verbose : Bool) : List String → UsageError
  | [] => withoutCommand verbose
  | name :: _ => if isCommandName name then .unknownArgument name else .unknownCommand name

/-- Reads a named option before the command; `verbose` tells whether everything is to be told. -/
def readLong (verbose : Bool) (name : String) (value : Option String) : Except UsageError Bool :=
  if name ≠ "verbose" ∧ name ≠ "help" ∧ name ≠ "version" then
    .error (.unknownArgument ("--" ++ name))
  else if value.isSome then .error (.unexpectedValue ("--" ++ name))
  else if name = "help" then .error .help
  else if name = "version" then .error .version
  else if verbose then .error (.repeated "--verbose")
  else .ok true

/-- Reads lettered options before the command. -/
def readShort (verbose : Bool) : List Char → Except UsageError Bool
  | [] => .ok verbose
  | c :: rest =>
    if c = 'h' then .error .help
    else if c = 'V' then .error .version
    else if c ≠ 'v' then .error (.unknownArgument ("-" ++ String.singleton c))
    else if verbose then .error (.repeated "--verbose")
    else readShort true rest

/-- Reads a command line behind options that were read already. -/
def readFrom (verbose : Bool) : List String → Except UsageError Invocation
  | [] => .error (withoutCommand verbose)
  | text :: rest =>
    match Subcommand.ofName? text with
    | some sub => sub.read verbose rest
    | none =>
      if text = "help" then .error (helpWith rest)
      else
        match Argument.ofText text with
        | .divider => .error (afterDivider verbose rest)
        | .long name value => do readFrom (← readLong verbose name value) rest
        | .short letters => do readFrom (← readShort verbose letters) rest
        | .plain text => .error (.unknownCommand text)

/-- What a command line asks for. -/
def ofArguments (args : List String) : Except UsageError Invocation :=
  readFrom false args

end Invocation

end RequestSuite
