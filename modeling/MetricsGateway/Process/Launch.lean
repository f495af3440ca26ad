import MetricsGateway.Process.Startup
import MetricsGateway.Setup.CommandLine
import MetricsGateway.Setup.Help
import MetricsGateway.Telemetry.Logging

/-!
A launch of the program, from its arguments to its exit status. Flags are read and checked before
anything starts; whatever is refused ends the launch with the reason.
-/

namespace MetricsGateway

/-- What a launch meets: the switches and the log filter of the environment, a runtime with its
number of workers or the reason why there is none, the ports, and the signal that will end it. -/
structure Machine where
  environment : Environment
  logFilter : Option String
  runtime : Except SystemFault Nat
  ports : Ports
  signal : Signal

inductive Printed where
  | record (r : LogRecord)
  | span (s : SpanRecord)

/-- A launch reads no flags, or it runs and comes to an exit status. -/
inductive Launch where
  | unread (e : CommandLineError)
  | ran (log : LogOptions) (printed : List Printed) (status : Nat)

namespace Launch

def target : String := "observatorium"

def version : String := "0.1.0"

def starting : LogRecord :=
  ⟨.info, target, [], "observatorium starting", [("version", .text version)]⟩

def runtimeMissing (fault : SystemFault) : LogRecord :=
  ⟨.error, target, [], "Failed to build runtime", [("error", .shown fault.message)]⟩

def runtimeConfigured (workers : Nat) : LogRecord :=
  ⟨.info, target, [], "Runtime configured", [("workers", .count workers)]⟩

def crashed : Nat := 101

/-- The batch of all spans of a run leaves at its end: it is printed, or nobody takes it. -/
def exported (o : TracingOptions) (spans : List SpanRecord) : List Printed :=
  match o.exporter with
  | .stdout => spans.map .span
  | .jaeger =>
    if spans.isEmpty then []
    else [.record (SpanExport.delivered spans.length (SpanExport.send o.endpoint none).2)]

/-- A launch with checked options. Services with more buffers than there can be crash it. -/
def withOptions (m : Machine) (o : Options) : Launch :=
  let ran (records : List LogRecord) (rest : List Printed) (status : Nat) : Launch :=
    .ran o.logging (records.map .record ++ rest) status
  match m.runtime with
  | .error fault => ran [starting, runtimeMissing fault] [] 1
  | .ok workers =>
    let before := [starting, runtimeConfigured workers, SpanExport.started o.tracing]
    if Pool.maxSize < o.proxy.bufferCount then ran before [] crashed
    else
      let (services, records) := Startup.run o m.ports m.signal
      let log := LogFilter.ofVariable m.logFilter o.logging.level.level
      let outcome := services.group.outcome
      ran (before ++ records)
        (exported o.tracing (Startup.spans o log services) ++
          (Exit.records outcome o.logging.name).map .record)
        outcome.exitStatus

/-- A launch with some arguments. What is refused is logged as the flags ask, as far as they were
read. -/
def run (m : Machine) (arguments : List String) : Launch :=
  match Flags.read arguments with
  | .error e => .unread e
  | .ok flags =>
    match flags.validate m.environment with
    | .error errors =>
      .ran ⟨flags.debugName, flags.logLevel, flags.logFormat, m.environment.debug⟩
        ((Exit.refusal errors).map .record) 1
    | .ok o => withOptions m o

def status : Launch → Nat
  | .unread e => e.exitCode
  | .ran _ _ status => status

def logged (m : Machine) : Launch → List Json
  | .unread _ => []
  | .ran log printed _ =>
    writeLog (.ofVariable m.logFilter log.level.level) log.format log.debug
      (printed.filterMap fun | .record r => some r | .span _ => none)

def lines (m : Machine) : Launch → List String
  | .unread (.help long) => Text.lines (Help.text long)
  | .unread _ => []
  | .ran log printed _ =>
    printed.flatMap fun
      | .span s => [s.toJson.text]
      | .record r =>
        (writeLog (.ofVariable m.logFilter log.level.level) log.format log.debug [r]).map fun
          | .str line => line
          | j => j.text

def complaint : Launch → String
  | .unread e => e.message
  | .ran _ _ _ => ""

end Launch

end MetricsGateway
