import MetricsGateway.Number.Literal
import MetricsGateway.Setup.Flags
import MetricsGateway.Text.Space

/-!
Reading flags from the arguments of the command line. A value follows its flag after an equals sign
or as the next argument; a value of its own argument is checked only when the next flag is reached
or the arguments end.
-/

namespace MetricsGateway

inductive CommandLineError where
  | help (long : Bool)
  | unknownArgument (shown : String)
  | missingValue (flag : Flag)
  | unknownChoice (flag : Flag) (value : String)
  | invalidNumber (flag : Flag) (value reason : String)
  | repeated (flag : Flag)
  | valueForHelp (value : String)
  deriving DecidableEq, Repr

namespace CommandLineError

/-- The first line of a complaint. Help itself is not a complaint. -/
def message : CommandLineError → String
  | help _ => ""
  | unknownArgument shown => "error: unexpected argument '" ++ shown ++ "' found"
  | missingValue flag =>
    "error: a value is required for '" ++ flag.usage ++ "' but none was supplied"
  | unknownChoice flag value =>
    if value.isEmpty then
      "error: a value is required for '" ++ flag.usage ++ "' but none was supplied"
    else "error: invalid value '" ++ value ++ "' for '" ++ flag.usage ++ "'"
  | invalidNumber flag value reason =>
    "error: invalid value '" ++ value ++ "' for '" ++ flag.usage ++ "': " ++ reason
  | repeated flag => "error: the argument '" ++ flag.usage ++ "' cannot be used multiple times"
  | valueForHelp value =>
    "error: unexpected value '" ++ value ++ "' for '--help' found; no more were expected"

def argument? : CommandLineError → Option String
  | help _ => none
  | unknownArgument shown => some shown
  | missingValue flag => some flag.usage
  | unknownChoice flag _ => some flag.usage
  | invalidNumber flag _ _ => some flag.usage
  | repeated flag => some flag.usage
  | valueForHelp _ => some "--help"

/-- Asking for help succeeds. -/
def exitCode : CommandLineError → Nat
  | help _ => 0
  | _ => 2

end CommandLineError

namespace Flags

def choice {α : Type} (flag : Flag) (value : String) (all : List α) (name : α → String) :
    Except CommandLineError α :=
  match all.find? (name · == value) with
  | some a => .ok a
  | none => .error (.unknownChoice flag value)

def count (flag : Flag) (value : String) : Except CommandLineError Nat :=
  match Number.readUnsigned (1 <<< 64) value.toList with
  | .ok n => .ok n
  | .error e => .error (.invalidNumber flag value e.message)

def set (v : Flags) (flag : Flag) (value : String) : Except CommandLineError Flags :=
  match flag with
  | .listen => .ok { v with listen := value }
  | .maxConnections => (count flag value).map ({ v with maxConnections := · })
  | .gracePeriod => .ok { v with gracePeriod := value }
  | .debugName => .ok { v with debugName := value }
  | .logLevel => (choice flag value LogLevel.all LogLevel.name).map ({ v with logLevel := · })
  | .logFormat => (choice flag value LogFormat.all LogFormat.name).map ({ v with logFormat := · })
  | .queryEndpoint => .ok { v with queryEndpoint := value }
  | .writeEndpoint => .ok { v with writeEndpoint := value }
  | .bufferCount => (count flag value).map ({ v with bufferCount := · })
  | .bufferSize => (count flag value).map ({ v with bufferSize := · })
  | .traceExporter =>
    (choice flag value TraceExporter.all TraceExporter.name).map ({ v with traceExporter := · })
  | .traceEndpoint => .ok { v with traceEndpoint := value }
  | .samplerProbability =>
    match Number.readFloat value.toList with
    | .ok x => .ok { v with samplerProbability := x }
    | .error e => .error (.invalidNumber flag value e.message)

end Flags

/-- The flags read so far, which of them were given, and a flag whose value is still to come or to
be checked. -/
structure CommandLine where
  flags : Flags
  given : List Flag
  pending : Option (Flag × Option String)

namespace CommandLine

def start : CommandLine := ⟨Flags.default, [], none⟩

/-- Takes the value of a flag; each flag may be given once. -/
def give (c : CommandLine) (flag : Flag) (value : String) : Except CommandLineError CommandLine :=
  if c.given.contains flag then .error (.repeated flag)
  else (c.flags.set flag value).map fun flags => ⟨flags, flag :: c.given, none⟩

def settle (c : CommandLine) : Except CommandLineError CommandLine :=
  match c.pending with
  | none => .ok c
  | some (flag, none) => .error (.missingValue flag)
  | some (flag, some value) => { c with pending := none }.give flag value

def splitLong (cs : List Char) : String × Option String :=
  match Text.splitOnce '=' cs with
  | some (name, value) => (String.ofList name, some (String.ofList value))
  | none => (String.ofList cs, none)

def long (c : CommandLine) (cs : List Char) : Except CommandLineError CommandLine :=
  match splitLong cs with
  | ("help", none) => c.settle.bind fun _ => .error (.help true)
  | ("help", some value) => .error (.valueForHelp value)
  | (name, value) =>
    match Flag.ofName? name, value with
    | none, _ => .error (.unknownArgument ("--" ++ name))
    | some flag, some value => c.settle.bind (·.give flag value)
    | some flag, none => c.settle.map ({ · with pending := some (flag, none) })

def readArguments (c : CommandLine) : List String → Except CommandLineError CommandLine
  | [] => c.settle
  | argument :: rest =>
    match argument.toList with
    | ['-', '-'] =>
      match rest with
      | [] => c.settle
      | extra :: _ => .error (.unknownArgument extra)
    | '-' :: '-' :: name => (c.long name).bind (readArguments · rest)
    | '-' :: 'h' :: _ => c.settle.bind fun _ => .error (.help false)
    | '-' :: letter :: _ => .error (.unknownArgument (String.ofList ['-', letter]))
    | _ =>
      match c.pending with
      | some (flag, none) => readArguments { c with pending := some (flag, some argument) } rest
      | _ => .error (.unknownArgument argument)

end CommandLine

/-- Reads the flags from the arguments after the program's name. -/
def Flags.read (arguments : List String) : Except CommandLineError Flags :=
  (CommandLine.start.readArguments arguments).map (·.flags)

end MetricsGateway
