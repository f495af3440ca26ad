import MetricsGateway.Setup.ListenAddress
import MetricsGateway.Setup.Options
import MetricsGateway.Time.DurationText

/-!
Checking flags. Every flag is checked on its own value, all faults are reported, and the
configuration exists exactly when there are none.
-/

namespace MetricsGateway

/-- Switches from the environment: set to a text that is not empty. -/
structure Environment where
  debug : Bool
  profile : Bool
  deriving DecidableEq, Repr

namespace Environment

def isSet (value : Option String) : Bool :=
  match value with
  | some text => !text.isEmpty
  | none => false

/-- The switches for the values of the variables `DEBUG` and `PROFILE`. -/
def ofVariables (debug profile : Option String) : Environment :=
  ⟨isSet debug, isSet profile⟩

end Environment

inductive FlagFault where
  | noEndpoint
  | url (e : UrlError)
  | duration (raw : String) (e : DurationError)
  | listen (e : ListenError)
  | zero
  | notAProbability (shown : String)
  | emptyName
  deriving DecidableEq, Repr

def UrlError.message : UrlError → String
  | emptyHost => "empty host"
  | invalidDomain => "invalid international domain name"
  | invalidPort => "invalid port number"
  | invalidIpv4 => "invalid IPv4 address"
  | invalidIpv6 => "invalid IPv6 address"
  | invalidDomainCharacter => "invalid domain character"
  | noScheme => "relative URL without a base"
  | unsupportedScheme scheme => "unsupported scheme " ++ Text.quoted scheme

def FlagFault.message : FlagFault → String
  | noEndpoint => "no endpoint given"
  | url e => e.message
  | duration raw e => e.message raw
  | listen e => e.message
  | zero => "must be greater than zero"
  | notAProbability shown => shown ++ " is not within [0, 1]"
  | emptyName => "must not be empty"

structure FlagError where
  flag : Flag
  fault : FlagFault
  deriving DecidableEq, Repr

def FlagError.message (e : FlagError) : String :=
  "--" ++ e.flag.name ++ " is invalid: " ++ e.fault.message

def joinedMessage (errors : List FlagError) : String :=
  ", ".intercalate (errors.map (·.message))

/-- Reads an absolute `http` or `https` URL. -/
def readEndpoint (raw : String) : Except FlagFault Url :=
  if raw.isEmpty then .error .noEndpoint
  else match Url.read raw with
    | .ok url => .ok url
    | .error e => .error (.url e)

namespace Flags

def checkedQuery (v : Flags) : Except FlagFault Url := readEndpoint v.queryEndpoint

def checkedWrite (v : Flags) : Except FlagFault Url := readEndpoint v.writeEndpoint

def checkedGrace (v : Flags) : Except FlagFault Duration :=
  match Duration.read v.gracePeriod with
  | .ok d => .ok d
  | .error e => .error (.duration v.gracePeriod e)

def checkedListen (v : Flags) : Except FlagFault String :=
  match ListenAddress.read v.listen with
  | .ok address => .ok address
  | .error e => .error (.listen e)

def faultOf {α : Type} : Except FlagFault α → Option FlagFault
  | .ok _ => none
  | .error e => some e

def positive (n : Nat) : Option FlagFault :=
  if n = 0 then some .zero else none

/-- The fault of one flag, which depends on the value of that flag alone. -/
def fault? (v : Flags) : Flag → Option FlagFault
  | .queryEndpoint => faultOf v.checkedQuery
  | .writeEndpoint => faultOf v.checkedWrite
  | .gracePeriod => faultOf v.checkedGrace
  | .listen => faultOf v.checkedListen
  | .maxConnections => positive v.maxConnections
  | .bufferCount => positive v.bufferCount
  | .bufferSize => positive v.bufferSize
  | .samplerProbability =>
    if 0.0 ≤ v.samplerProbability && v.samplerProbability ≤ 1.0 then none
    else some (.notAProbability (Number.displayText v.samplerProbability))
  | .debugName => if Text.isBlank v.debugName then some .emptyName else none
  | .logLevel => none
  | .logFormat => none
  | .traceExporter => none
  | .traceEndpoint => none

/-- The flags that are checked, in the order in which their faults are reported. -/
def checkOrder : List Flag :=
  [.queryEndpoint, .writeEndpoint, .gracePeriod, .listen, .maxConnections, .bufferCount,
    .bufferSize, .samplerProbability, .debugName]

def errors (v : Flags) : List FlagError :=
  checkOrder.filterMap fun flag => (v.fault? flag).map fun fault => ⟨flag, fault⟩

def validate (v : Flags) (env : Environment) : Except (List FlagError) Options :=
  match v.checkedQuery, v.checkedWrite, v.checkedGrace, v.checkedListen, v.errors with
  | .ok queryEndpoint, .ok writeEndpoint, .ok gracePeriod, .ok listen, [] =>
    .ok {
      server := { listen, maxConnections := v.maxConnections, gracePeriod }
      logging :=
        { name := v.debugName, level := v.logLevel, format := v.logFormat, debug := env.debug }
      proxy :=
        { queryEndpoint, writeEndpoint, bufferCount := v.bufferCount, bufferSize := v.bufferSize }
      tracing :=
        { exporter := v.traceExporter, endpoint := v.traceEndpoint,
          samplerProbability := v.samplerProbability, serviceName := v.debugName }
      profile := env.profile }
  | _, _, _, _, errors => .error errors

end Flags

end MetricsGateway
