import Mathlib
import MetricsGateway.Telemetry.SpanRecord

/-!
A reader of the OTLP requests that carry finished spans. Main statement: it finds the service and the
spans of every request that was written, all but their targets, which are not written.

Whole numbers are read by `String.toInt?`. That it reads back what is written (`Int.toInt?_repr`) is known
to no smaller part of Mathlib than all of it.
-/

namespace MetricsGateway

theorem mapM_eq_some_map {α β : Type} {xs : List α} {f : α → Option β} {g : α → β}
    (h : ∀ a ∈ xs, f a = some (g a)) : xs.mapM f = some (xs.map g) := by
  induction xs with
  | nil => rfl
  | cons a xs ih =>
    have hxs := ih fun b hb => h b (List.mem_cons_of_mem a hb)
    rw [List.mapM_cons, h a List.mem_cons_self, hxs]
    rfl

namespace Json

/-- A value that a span records for a field: no structure, and not nothing. -/
inductive IsPlain : Json → Prop where
  | bool (b : Bool) : IsPlain (.bool b)
  | int (n : Int) : IsPlain (.int n)
  | float (x : Float) : IsPlain (.float x)
  | str (s : String) : IsPlain (.str s)

def text? (j : Json) (key : String) : Option String :=
  match j.get? key with
  | some (.str s) => some s
  | _ => none

def items? (j : Json) (key : String) : Option (List Json) :=
  match j.get? key with
  | some (.arr items) => some items
  | _ => none

/-- The item of a member that is a list of one. -/
def only? (j : Json) (key : String) : Option Json :=
  match j.items? key with
  | some [item] => some item
  | _ => none

end Json

/-- The span without its target. -/
def SpanRecord.untargeted (r : SpanRecord) : SpanRecord := { r with target := "" }

/-- A span whose attributes are plain and whose parent, if it has one, has an id. -/
structure SpanRecord.IsPlain (r : SpanRecord) : Prop where
  attributes : ∀ a ∈ r.attributes, a.2.IsPlain
  parent : r.parentSpanId ≠ some ""

namespace Otlp

variable {service key : String} {v : Json} {r : SpanRecord} {batch : List SpanRecord}

/-- The value of an attribute; the name of its only member tells its kind. -/
def readValue? : Json → Option Json
  | .obj [("boolValue", .bool b)] => some (.bool b)
  | .obj [("intValue", .str s)] => s.toInt?.map .int
  | .obj [("doubleValue", .float x)] => some (.float x)
  | .obj [("stringValue", .str s)] => some (.str s)
  | _ => none

def readAttribute? (j : Json) : Option (String × Json) := do
  let key ← j.text? "key"
  let value ← (← j.get? "value") |> readValue?
  pure (key, value)

/-- A span; a parent without an id is none. -/
def readSpan? (j : Json) : Option SpanRecord := do
  let attributes ← (← j.items? "attributes").mapM readAttribute?
  let finish ← (← j.text? "endTimeUnixNano").toNat?
  let name ← j.text? "name"
  let parent ← j.text? "parentSpanId"
  let spanId ← j.text? "spanId"
  let start ← (← j.text? "startTimeUnixNano").toNat?
  let traceId ← j.text? "traceId"
  pure {
    traceId, spanId, name, start, finish, attributes
    parentSpanId := if parent = "" then none else some parent
    target := "" }

def readService? (resource : Json) : Option String := do
  let (key, value) ← (← resource.only? "attributes") |> readAttribute?
  match key, value with
  | "service.name", .str service => some service
  | _, _ => none

/-- The service and the spans of a request. -/
def read? (j : Json) : Option (String × List SpanRecord) := do
  let resourceSpans ← j.only? "resourceSpans"
  let service ← (← resourceSpans.get? "resource") |> readService?
  let scopeSpans ← resourceSpans.only? "scopeSpans"
  let batch ← (← scopeSpans.items? "spans").mapM readSpan?
  pure (service, batch)

theorem readValue?_value (h : v.IsPlain) : readValue? (value v) = some v := by
  cases h with
  | bool b => rfl
  | int n =>
    have hread : (toString n).toInt? = some n := Int.toInt?_repr n
    simp only [value, readValue?, hread, Option.map_some]
  | float x => rfl
  | str s => rfl

theorem readAttribute?_keyValue (h : v.IsPlain) : readAttribute? (keyValue key v) = some (key, v) := by
  have hkey : (keyValue key v).text? "key" = some key := rfl
  have hvalue : (keyValue key v).get? "value" = some (value v) := rfl
  simp only [readAttribute?, hkey, hvalue, readValue?_value h, Option.bind_eq_bind, Option.bind_some,
    Option.pure_def]

theorem readAttributes?_keyValues {attributes : List (String × Json)}
    (h : ∀ a ∈ attributes, a.2.IsPlain) :
    (attributes.map fun (k, v) => keyValue k v).mapM readAttribute? = some attributes := by
  rw [List.mapM_map]
  refine (mapM_eq_some_map fun a ha => ?_).trans (by rw [List.map_id'])
  exact readAttribute?_keyValue (h a ha)

/-- The parent is not confused: only a root has the empty id. -/
theorem parent_getD (h : r.parentSpanId ≠ some "") :
    (if r.parentSpanId.getD "" = "" then none else some (r.parentSpanId.getD "")) =
      r.parentSpanId := by
  cases hparent : r.parentSpanId with
  | none => rfl
  | some id =>
    have hid : id ≠ "" := fun he => h (he ▸ hparent)
    simp only [Option.getD_some, if_neg hid]

theorem readSpan?_span (h : r.IsPlain) : readSpan? (span r) = some r.untargeted := by
  have hstart : (toString r.start).toNat? = some r.start := Nat.toNat?_repr r.start
  have hfinish : (toString r.finish).toNat? = some r.finish := Nat.toNat?_repr r.finish
  have hattributes : (span r).items? "attributes" =
    some (r.attributes.map fun (k, v) => keyValue k v) := rfl
  have hend : (span r).text? "endTimeUnixNano" = some (toString r.finish) := rfl
  have hname : (span r).text? "name" = some r.name := rfl
  have hparent : (span r).text? "parentSpanId" = some (r.parentSpanId.getD "") := rfl
  have hspan : (span r).text? "spanId" = some r.spanId := rfl
  have hbegin : (span r).text? "startTimeUnixNano" = some (toString r.start) := rfl
  have htrace : (span r).text? "traceId" = some r.traceId := rfl
  simp only [readSpan?, hattributes, readAttributes?_keyValues h.attributes, hend, hfinish, hname,
    hparent, hspan, hbegin, hstart, htrace, parent_getD h.parent, Option.bind_eq_bind,
    Option.bind_some, Option.pure_def, SpanRecord.untargeted]

theorem readSpans?_spans (h : ∀ r ∈ batch, r.IsPlain) :
    (batch.map span).mapM readSpan? = some (batch.map SpanRecord.untargeted) := by
  rw [List.mapM_map]
  exact mapM_eq_some_map fun r hr => readSpan?_span (h r hr)

theorem readService?_resource : readService? (.obj [("attributes",
    .arr [keyValue "service.name" (.str service)])]) = some service := rfl

/-- A request is read as it was written: the service, and the spans in their order, each with its ids,
its name, its times and its attributes. A root stays a root, and each value stays of its kind. -/
theorem read_of_body (h : ∀ r ∈ batch, r.IsPlain) :
    read? (body service batch) = some (service, batch.map SpanRecord.untargeted) := by
  let resource : Json := .obj [("attributes", .arr [keyValue "service.name" (.str service)])]
  let scopeSpans : Json := .obj [
    ("scope", .obj [("name", .str "observatorium"), ("version", .str version)]),
    ("spans", .arr (batch.map span))]
  let resourceSpans : Json := .obj [("resource", resource), ("scopeSpans", .arr [scopeSpans])]
  have hresourceSpans : (body service batch).only? "resourceSpans" = some resourceSpans := rfl
  have hresource : resourceSpans.get? "resource" = some resource := rfl
  have hservice : readService? resource = some service := readService?_resource
  have hscopeSpans : resourceSpans.only? "scopeSpans" = some scopeSpans := rfl
  have hspans : scopeSpans.items? "spans" = some (batch.map span) := rfl
  simp only [read?, hresourceSpans, hresource, hservice, hscopeSpans, hspans, readSpans?_spans h,
    Option.bind_eq_bind, Option.bind_some, Option.pure_def]

/-- A root and its child, whose attributes tell alike looking values of four kinds apart. -/
def related : List SpanRecord :=
  [⟨"4bf92f3577b34da6a3ce929d0e0e4736", "00f067aa0ba902b7", none, "request", "gateway", 10, 20,
      [("method", .str "GET"), ("ok", .bool true), ("status", .int 200)]⟩,
    ⟨"4bf92f3577b34da6a3ce929d0e0e4736", "53995c3f42cd8ad8", some "00f067aa0ba902b7", "upstream",
      "gateway", 12, 18446744073709551615,
      [("delta", .int (-9223372036854775808)), ("ratio", .float 200), ("status", .str "200")]⟩]

theorem read_of_related : (∀ r ∈ related, r.IsPlain) ∧
    read? (body "gateway" related) = some ("gateway", related.map SpanRecord.untargeted) := by
  have h : ∀ r ∈ related, r.IsPlain := by
    intro r hr
    simp only [related, List.mem_cons, List.not_mem_nil, or_false] at hr
    obtain rfl | rfl := hr
    · exact ⟨by simp [Json.IsPlain.str, Json.IsPlain.bool, Json.IsPlain.int], by simp⟩
    · exact ⟨by simp [Json.IsPlain.str, Json.IsPlain.float, Json.IsPlain.int], by simp⟩
  exact ⟨h, read_of_body h⟩

end Otlp

end MetricsGateway
