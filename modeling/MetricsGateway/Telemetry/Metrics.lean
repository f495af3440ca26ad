import MetricsGateway.Number.Binary64
import MetricsGateway.Number.Text
import MetricsGateway.Traffic.Handler

/-!
The metrics of the gateway: counters by series, the gauge of open connections, and their text.
-/

namespace MetricsGateway

inductive Upstream where
  | query
  | write
  deriving DecidableEq, Repr

def Upstream.name : Upstream → String
  | query => "query"
  | write => "write"

/-- What is counted, with the labels that tell counters of one name apart. -/
inductive Series where
  | requests (handler : Handler) (method : String) (status : Nat)
  | durations (handler : Handler)
  | proxied (upstream : Upstream) (status : Nat)
  | forcedShutdowns
  | actorExits (actor : String) (success : Bool)
  deriving DecidableEq, Repr

namespace Series

/-- A label value: line breaks, quotation marks and single backslashes are escaped; a backslash that
escapes another, or a quotation mark, is taken with it. -/
def labelText (held : Bool) : List Char → List Char
  | [] => if held then ['\\', '\\'] else []
  | '\n' :: rest => '\\' :: 'n' :: labelText held rest
  | '"' :: rest => '\\' :: '"' :: labelText false rest
  | '\\' :: rest => if held then '\\' :: '\\' :: labelText false rest else labelText true rest
  | c :: rest => (if held then ['\\', '\\', c] else [c]) ++ labelText false rest

def label (name value : String) : String :=
  name ++ "=\"" ++ String.ofList (labelText false value.toList) ++ "\""

def withLabels (name : String) (labels : List String) : String :=
  if labels.isEmpty then name else name ++ "\x7b" ++ ",".intercalate labels ++ "\x7d"

def text : Series → String
  | requests handler method status =>
    withLabels "http_requests_total"
      [label "handler" handler.label, label "method" method, label "status" (toString status)]
  | durations handler =>
    withLabels "http_request_duration_seconds_count" [label "handler" handler.label]
  | proxied upstream status =>
    withLabels "observatorium_proxy_requests_total"
      [label "upstream" upstream.name, label "status" (toString status)]
  | forcedShutdowns => "observatorium_forced_shutdowns_total"
  | actorExits actor success =>
    withLabels "observatorium_actor_exits_total"
      [label "actor" actor, label "result" (if success then "success" else "error")]

end Series

/-- The counters that were ever raised, and the gauge once it was set. -/
structure Metrics where
  counts : List (Series × Nat)
  openConnections : Option Nat
  deriving DecidableEq, Repr

namespace Metrics

def empty : Metrics := ⟨[], none⟩

/-- The count of a series; a series that was never raised counts nothing. -/
def count (m : Metrics) (s : Series) : Nat :=
  (m.counts.lookup s).getD 0

def raised (s : Series) : List (Series × Nat) → List (Series × Nat)
  | [] => [(s, 1)]
  | (t, n) :: rest => if t = s then (t, n + 1) :: rest else (t, n) :: raised s rest

def raise (m : Metrics) (s : Series) : Metrics :=
  { m with counts := raised s m.counts }

/-- A completed request is counted and its duration recorded. -/
def request (m : Metrics) (handler : Handler) (method : String) (status : Nat) : Metrics :=
  (m.raise (.requests handler method status)).raise (.durations handler)

def setOpen (m : Metrics) (n : Nat) : Metrics :=
  { m with openConnections := some n }

inductive Record where
  | request (handler : Handler) (method : String) (status : Nat)
  | proxied (upstream : Upstream) (status : Nat)
  | openConnections (n : Nat)
  | forcedShutdown
  | actorExit (actor : String) (success : Bool)
  deriving DecidableEq, Repr

def record (m : Metrics) : Record → Metrics
  | .request handler method status => m.request handler method status
  | .proxied upstream status => m.raise (.proxied upstream status)
  | .openConnections n => m.setOpen n
  | .forcedShutdown => m.raise .forcedShutdowns
  | .actorExit actor success => m.raise (.actorExits actor success)

def gaugeText (n : Nat) : String :=
  Number.displayText (Number.nearestDecimal false n 0)

def lines (m : Metrics) : List String :=
  let counters := m.counts.map fun (s, n) => s.text ++ " " ++ toString n
  let gauges := m.openConnections.toList.map fun n =>
    "observatorium_active_connections " ++ gaugeText n
  (counters ++ gauges).mergeSort

theorem count_raise (m : Metrics) (s t : Series) :
    (m.raise s).count t = m.count t + if s = t then 1 else 0 := by
  obtain ⟨counts, gauge⟩ := m
  simp only [count, raise]
  induction counts with
  | nil =>
    by_cases h : s = t
    · simp [raised, h]
    · simp [raised, List.lookup_cons, beq_eq_false_iff_ne.mpr (Ne.symm h), h]
  | cons c rest ih =>
    obtain ⟨u, n⟩ := c
    by_cases hu : u = s
    · subst hu
      by_cases h : u = t
      · simp [raised, h]
      · simp [raised, List.lookup_cons, beq_eq_false_iff_ne.mpr (Ne.symm h), h]
    · by_cases h : t = u
      · subst h
        simp [raised, hu, Ne.symm hu]
      · simpa [raised, hu, List.lookup_cons, beq_eq_false_iff_ne.mpr h] using ih

section Record

variable {m : Metrics} {handler label : Handler} {method named : String} {upstream target : Upstream}
  {status other : Nat}

@[simp] theorem count_requests_record_request :
    (m.record (.request label named status)).count (.requests handler method other) =
      m.count (.requests handler method other) +
        if handler = label ∧ method = named ∧ other = status then 1 else 0 := by
  simp only [record, request, count_raise, reduceCtorEq, if_false, Nat.add_zero, Series.requests.injEq,
    eq_comm]

@[simp] theorem count_requests_record_proxied :
    (m.record (.proxied target status)).count (.requests handler method other) =
      m.count (.requests handler method other) := by
  simp only [record, count_raise, reduceCtorEq, if_false, Nat.add_zero]

@[simp] theorem count_proxied_record_request :
    (m.record (.request label named status)).count (.proxied upstream other) =
      m.count (.proxied upstream other) := by
  simp only [record, request, count_raise, reduceCtorEq, if_false, Nat.add_zero]

@[simp] theorem count_proxied_record_proxied :
    (m.record (.proxied target status)).count (.proxied upstream other) =
      m.count (.proxied upstream other) + if upstream = target ∧ other = status then 1 else 0 := by
  simp only [record, count_raise, Series.proxied.injEq, eq_comm]

end Record

/-- What the failure says when the recorder of the process is installed a second time. -/
def reinstallMessage : String :=
  "failed to install exporter as global recorder: " ++
    "attempted to set a recorder after the metrics system was already initialized"

end Metrics

end MetricsGateway
