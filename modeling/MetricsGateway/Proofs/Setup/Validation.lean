import MetricsGateway.Setup.Validation

/-!
What checking the flags reports. Main statement: the flags whose own value is wrong are reported, each once, in
one order, and with the same message whatever the other flags are; there are options exactly when there is
nothing to report, and they hold the values of the flags.
-/

namespace MetricsGateway.Flags

variable {v w : Flags} {env : Environment} {o : Options} {flag : Flag} {fault : FlagFault}
  {errors : List FlagError}

/-! ## One flag -/

/-- What is wrong with the value of a flag. -/
inductive Wrong (v : Flags) : Flag → FlagFault → Prop where
  | query {fault : FlagFault} (h : readEndpoint v.queryEndpoint = .error fault) : Wrong v .queryEndpoint fault
  | write {fault : FlagFault} (h : readEndpoint v.writeEndpoint = .error fault) : Wrong v .writeEndpoint fault
  | grace {e : DurationError} (h : Duration.read v.gracePeriod = .error e) :
      Wrong v .gracePeriod (.duration v.gracePeriod e)
  | listen {e : ListenError} (h : ListenAddress.read v.listen = .error e) : Wrong v .listen (.listen e)
  | maxConnections (h : v.maxConnections = 0) : Wrong v .maxConnections .zero
  | bufferCount (h : v.bufferCount = 0) : Wrong v .bufferCount .zero
  | bufferSize (h : v.bufferSize = 0) : Wrong v .bufferSize .zero
  /-- What is not a number is on neither side of the bounds. -/
  | probability (h : ¬ (0.0 ≤ v.samplerProbability ∧ v.samplerProbability ≤ 1.0)) :
      Wrong v .samplerProbability (.notAProbability (Number.displayText v.samplerProbability))
  | name (h : ∀ c ∈ v.debugName.toList, Text.isSpace c = true) : Wrong v .debugName .emptyName

theorem faultOf_eq_some_iff {α : Type} {x : Except FlagFault α} :
    faultOf x = some fault ↔ x = .error fault := by
  cases x <;> simp [faultOf]

theorem positive_eq_some_iff {n : Nat} : positive n = some fault ↔ n = 0 ∧ .zero = fault := by
  simp [positive]

theorem fault?_eq_some_iff : v.fault? flag = some fault ↔ v.Wrong flag fault := by
  constructor
  · intro h
    cases flag with
    | queryEndpoint => exact .query (faultOf_eq_some_iff.mp h)
    | writeEndpoint => exact .write (faultOf_eq_some_iff.mp h)
    | gracePeriod =>
      have hchecked := faultOf_eq_some_iff.mp h
      unfold checkedGrace at hchecked
      split at hchecked
      · cases hchecked
      · next e hread =>
        obtain rfl := Except.error.inj hchecked
        exact .grace hread
    | listen =>
      have hchecked := faultOf_eq_some_iff.mp h
      unfold checkedListen at hchecked
      split at hchecked
      · cases hchecked
      · next e hread =>
        obtain rfl := Except.error.inj hchecked
        exact .listen hread
    | maxConnections =>
      obtain ⟨hzero, rfl⟩ := positive_eq_some_iff.mp h
      exact .maxConnections hzero
    | bufferCount =>
      obtain ⟨hzero, rfl⟩ := positive_eq_some_iff.mp h
      exact .bufferCount hzero
    | bufferSize =>
      obtain ⟨hzero, rfl⟩ := positive_eq_some_iff.mp h
      exact .bufferSize hzero
    | samplerProbability =>
      simp only [fault?] at h
      split at h
      · cases h
      · next hbounds =>
        obtain rfl := Option.some.inj h
        exact .probability (by simpa using hbounds)
    | debugName =>
      simp only [fault?] at h
      split at h
      · next hblank =>
        obtain rfl := Option.some.inj h
        exact .name (List.all_eq_true.mp hblank)
      · cases h
    | logLevel | logFormat | traceExporter | traceEndpoint => cases h
  · intro h
    cases h with
    | query h => exact faultOf_eq_some_iff.mpr h
    | write h => exact faultOf_eq_some_iff.mpr h
    | grace h => simp only [fault?, checkedGrace, h, faultOf]
    | listen h => simp only [fault?, checkedListen, h, faultOf]
    | maxConnections h => exact positive_eq_some_iff.mpr ⟨h, rfl⟩
    | bufferCount h => exact positive_eq_some_iff.mpr ⟨h, rfl⟩
    | bufferSize h => exact positive_eq_some_iff.mpr ⟨h, rfl⟩
    | probability h => simp only [fault?]; rw [if_neg (by simpa using h)]
    | name h => simp only [fault?]; rw [if_pos (show Text.isBlank v.debugName = true from List.all_eq_true.mpr h)]

/-- The two settings give a flag the same value. -/
def AgreeOn (v w : Flags) : Flag → Prop
  | .listen => v.listen = w.listen
  | .maxConnections => v.maxConnections = w.maxConnections
  | .gracePeriod => v.gracePeriod = w.gracePeriod
  | .debugName => v.debugName = w.debugName
  | .logLevel => v.logLevel = w.logLevel
  | .logFormat => v.logFormat = w.logFormat
  | .queryEndpoint => v.queryEndpoint = w.queryEndpoint
  | .writeEndpoint => v.writeEndpoint = w.writeEndpoint
  | .bufferCount => v.bufferCount = w.bufferCount
  | .bufferSize => v.bufferSize = w.bufferSize
  | .traceExporter => v.traceExporter = w.traceExporter
  | .traceEndpoint => v.traceEndpoint = w.traceEndpoint
  | .samplerProbability => v.samplerProbability = w.samplerProbability

theorem AgreeOn.fault?_eq (h : v.AgreeOn w flag) : v.fault? flag = w.fault? flag := by
  cases flag <;> simp only [AgreeOn] at h <;>
    simp only [fault?, checkedQuery, checkedWrite, checkedGrace, checkedListen, h]

/-! ## All flags -/

/-- A report on all flags. -/
structure Reports (v : Flags) (errors : List FlagError) : Prop where
  exact : ∀ e, e ∈ errors ↔ v.Wrong e.flag e.fault
  order : (errors.map (·.flag)).Sublist [.queryEndpoint, .writeEndpoint, .gracePeriod, .listen,
    .maxConnections, .bufferCount, .bufferSize, .samplerProbability, .debugName]
  once : (errors.map (·.flag)).Nodup

theorem mem_checkOrder (h : v.Wrong flag fault) : flag ∈ checkOrder := by
  cases h <;> decide

theorem map_flag_errors : v.errors.map (·.flag) = checkOrder.filter fun flag => (v.fault? flag).isSome := by
  rw [errors, List.map_filterMap, ← List.filterMap_eq_filter]
  refine congrArg (checkOrder.filterMap ·) (funext fun flag => ?_)
  cases h : v.fault? flag <;> simp [Option.guard, h]

theorem reports_errors (v : Flags) : v.Reports v.errors where
  exact e := by
    simp only [errors, List.mem_filterMap, Option.map_eq_some_iff, fault?_eq_some_iff]
    constructor
    · rintro ⟨flag, -, fault, hwrong, rfl⟩
      exact hwrong
    · exact fun h => ⟨e.flag, mem_checkOrder h, e.fault, h, rfl⟩
  order := by
    rw [map_flag_errors]
    exact List.filter_sublist
  once := by
    rw [map_flag_errors]
    exact List.Nodup.sublist List.filter_sublist (by decide)

/-- Options with the values of the flags: texts that stand for something are read, and all else is as it was
given. One name goes into the log records and names the service in traces. -/
structure Configures (v : Flags) (env : Environment) (o : Options) : Prop where
  query : readEndpoint v.queryEndpoint = .ok o.proxy.queryEndpoint
  write : readEndpoint v.writeEndpoint = .ok o.proxy.writeEndpoint
  grace : Duration.read v.gracePeriod = .ok o.server.gracePeriod
  listen : ListenAddress.read v.listen = .ok o.server.listen
  connections : o.server.maxConnections = v.maxConnections
  buffers : o.proxy.bufferCount = v.bufferCount ∧ o.proxy.bufferSize = v.bufferSize
  logging : o.logging = ⟨v.debugName, v.logLevel, v.logFormat, env.debug⟩
  tracing : o.tracing = ⟨v.traceExporter, v.traceEndpoint, v.samplerProbability, v.debugName⟩
  profile : o.profile = env.profile

theorem read_of_checkedGrace {d : Duration} (h : v.checkedGrace = .ok d) :
    Duration.read v.gracePeriod = .ok d := by
  unfold checkedGrace at h
  split at h
  · next hread => rw [hread, Except.ok.inj h]
  · cases h

theorem read_of_checkedListen {address : String} (h : v.checkedListen = .ok address) :
    ListenAddress.read v.listen = .ok address := by
  unfold checkedListen at h
  split at h
  · next hread => rw [hread, Except.ok.inj h]
  · cases h

theorem configures_of_validate (h : v.validate env = .ok o) : v.errors = [] ∧ v.Configures env o := by
  unfold validate at h
  split at h
  · next hquery hwrite hgrace hlisten herrors =>
    obtain rfl := Except.ok.inj h
    exact ⟨herrors, hquery, hwrite, read_of_checkedGrace hgrace, read_of_checkedListen hlisten, rfl, ⟨rfl, rfl⟩,
      rfl, rfl, rfl⟩
  · cases h

theorem fault?_eq_none (flag : Flag) (h : v.errors = []) (hflag : flag ∈ checkOrder) :
    v.fault? flag = none := by
  have hnone := List.filterMap_eq_nil_iff.mp h flag hflag
  exact Option.map_eq_none_iff.mp hnone

theorem exists_of_faultOf {α : Type} {x : Except FlagFault α} (h : faultOf x = none) : ∃ a, x = .ok a := by
  cases x with
  | error fault => cases h
  | ok a => exact ⟨a, rfl⟩

/-- Flags without a fault are accepted. -/
theorem exists_validate (env : Environment) (h : v.errors = []) : ∃ o, v.validate env = .ok o := by
  obtain ⟨query, hquery⟩ := exists_of_faultOf (fault?_eq_none .queryEndpoint h (by decide))
  obtain ⟨write, hwrite⟩ := exists_of_faultOf (fault?_eq_none .writeEndpoint h (by decide))
  obtain ⟨grace, hgrace⟩ := exists_of_faultOf (fault?_eq_none .gracePeriod h (by decide))
  obtain ⟨listen, hlisten⟩ := exists_of_faultOf (fault?_eq_none .listen h (by decide))
  unfold validate
  rw [hquery, hwrite, hgrace, hlisten, h]
  exact ⟨_, rfl⟩

theorem validate_of_errors (env : Environment) (h : v.errors ≠ []) : v.validate env = .error v.errors := by
  unfold validate
  split
  · next hnil => exact absurd hnil h
  · rfl

/-! ## Each flag by itself -/

/-- What is said about one flag when the flags are checked. -/
def messagesOn (v : Flags) (env : Environment) (flag : Flag) : List String :=
  match v.validate env with
  | .ok _ => []
  | .error errors => (errors.filter (·.flag = flag)).map (·.message)

theorem messagesOn_eq : v.messagesOn env flag = (v.errors.filter (·.flag = flag)).map (·.message) := by
  rw [messagesOn]
  by_cases h : v.errors = []
  · obtain ⟨o, hvalid⟩ := exists_validate env h
    rw [hvalid, h]
    rfl
  · rw [validate_of_errors env h]

/-- The errors about a flag are those of the other setting that gives it the same value. -/
theorem AgreeOn.filter_errors (h : v.AgreeOn w flag) :
    v.errors.filter (·.flag = flag) = w.errors.filter (·.flag = flag) := by
  simp only [errors, List.filter_filterMap]
  refine congrArg (checkOrder.filterMap ·) (funext fun other => ?_)
  by_cases hflag : other = flag
  · rw [hflag, h.fault?_eq]
  · have hnone (fault? : Option FlagFault) :
        (fault?.map (FlagError.mk other)).filter (fun e => decide (e.flag = flag)) = none := by
      cases fault? <;> simp [hflag]
    exact (hnone _).trans (hnone _).symm

/-- Checking the flags reports those with a wrong value, each once and in one order, or gives the options if
there are none. What it says about a flag depends on the value of that flag alone. -/
theorem validate_reports (v : Flags) (env : Environment) :
    (∃ errors, v.Reports errors ∧
      (errors = [] → ∃ o, v.validate env = .ok o ∧ v.Configures env o) ∧
      (errors ≠ [] → v.validate env = .error errors)) ∧
    ∀ w env' flag, v.AgreeOn w flag → v.messagesOn env flag = w.messagesOn env' flag := by
  refine ⟨⟨v.errors, reports_errors v, fun hnil => ?_, validate_of_errors env⟩, fun w env' flag hagree => ?_⟩
  · obtain ⟨o, hvalid⟩ := exists_validate env hnil
    exact ⟨o, hvalid, (configures_of_validate hvalid).2⟩
  · rw [messagesOn_eq, messagesOn_eq, hagree.filter_errors]

end MetricsGateway.Flags
