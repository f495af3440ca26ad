import Mathlib.Data.List.Induction
import Mathlib.Tactic.Tauto
import MetricsGateway.Proofs.Text.Case
import MetricsGateway.Proofs.Traffic.Fields
import MetricsGateway.Traffic.Reply

/-!
Which fields are passed on. It is read off their names alone: nine names are for one connection, and so are
those that a Connection field lists, in letters of either case.

Main statement: `MetricsGateway.Headers.stripHopByHop_restricts`.
-/

namespace MetricsGateway.Headers

open HeaderField

variable {hs more : Headers} {name : String} {cs : List Char} {c : Char}

/-- A name that a field can have: legal, and in small letters. -/
def IsName (name : String) : Prop := name? name.toList = some name

instance : DecidablePred IsName := fun _ => inferInstanceAs (Decidable (_ = _))

/-- What stands between the commas of a value that is text, without the space around it. -/
def tokens (value : Bytes) : List (List Char) :=
  match text? value with
  | some cs => (Text.splitOnChar ',' cs).map Text.trimmed
  | none => []

def connectionTokens (hs : Headers) : List (List Char) := (values hs "connection").flatMap tokens

/-- A Connection field has the name among its tokens, in letters of either case. -/
def Listed (hs : Headers) (name : String) : Prop :=
  ∃ token ∈ connectionTokens hs, token.map Char.toLower = name.toList.map Char.toLower

instance : DecidablePred (Listed hs) := fun _ => inferInstanceAs (Decidable (∃ _ ∈ _, _))

/-- A field of this name is for one connection only. -/
def OfConnection (hs : Headers) (name : String) : Prop := name ∈ hopByHop ∨ Listed hs name

instance : DecidablePred (OfConnection hs) := fun _ => inferInstanceAs (Decidable (_ ∨ _))

theorem isTokenChar_toLower : isTokenChar c.toLower = isTokenChar c := by
  obtain hc | ⟨-, hhigh, -⟩ := Text.toLower_cases c
  · rw [hc]
  · have hcapitals : ∀ n, n < 0x5B →
        isTokenChar (Char.ofNat n).toLower = isTokenChar (Char.ofNat n) := by decide
    have hc := hcapitals c.toNat (Nat.lt_succ_of_le hhigh)
    rwa [Char.ofNat_toNat] at hc

theorem name?_eq_some_iff : name? cs = some name ↔
    cs ≠ [] ∧ (∀ c ∈ cs, isTokenChar c = true) ∧ cs.map Char.toLower = name.toList := by
  have htext : String.ofList (cs.map Char.toLower) = name ↔ cs.map Char.toLower = name.toList := by
    rw [← String.toList_inj, String.toList_ofList]
  rw [name?, ← htext, ← List.isEmpty_eq_false_iff, ← List.all_eq_true]
  cases cs.isEmpty <;> cases cs.all isTokenChar <;> simp

theorem IsName.toLower (h : IsName name) : name.toList.map Char.toLower = name.toList :=
  (name?_eq_some_iff.mp h).2.2

/-- A token gives the name that it spells in letters of either case. -/
theorem name?_eq_some_iff_isName : name? cs = some name ↔
    IsName name ∧ cs.map Char.toLower = name.toList.map Char.toLower := by
  constructor
  · intro h
    obtain ⟨hne, hall, hsmall⟩ := name?_eq_some_iff.mp h
    have hname : IsName name := by
      rw [IsName, name?_eq_some_iff, ← hsmall]
      refine ⟨mt List.map_eq_nil_iff.mp hne, fun c hc => ?_, ?_⟩
      · obtain ⟨d, hd, rfl⟩ := List.mem_map.mp hc
        rw [isTokenChar_toLower, hall d hd]
      · rw [List.map_map]
        exact List.map_congr_left fun c _ => Text.toLower_toLower c
    exact ⟨hname, hsmall.trans hname.toLower.symm⟩
  · rintro ⟨hname, hcs⟩
    obtain ⟨hne, hall, hsmall⟩ := name?_eq_some_iff.mp hname
    rw [hsmall] at hcs
    refine name?_eq_some_iff.mpr ⟨?_, fun c hc => ?_, hcs⟩
    · rintro rfl
      exact hne hcs.symm
    · rw [← isTokenChar_toLower, hall _ (hcs ▸ List.mem_map_of_mem hc)]

/-- The fields of a head that is read have such names. -/
theorem isName_of_readFields {limit : Nat} {bs rest : Bytes} (h : Reply.readFields limit bs = some (hs, rest)) :
    ∀ field ∈ hs, IsName field.name := by
  fun_induction Reply.readFields limit bs generalizing hs rest with
  | case1 | case2 =>
    obtain ⟨rfl, -⟩ := Prod.mk.inj (Option.some.inj h)
    nofun
  | case4 =>
    rename_i hname _ _ _ ih
    obtain ⟨⟨fields, _⟩, hfields, hcons⟩ := Option.map_eq_some_iff.mp h
    obtain ⟨rfl, -⟩ := Prod.mk.inj hcons
    exact List.forall_mem_cons.mpr ⟨(name?_eq_some_iff_isName.mp hname).1, ih hfields⟩
  | case3 | case5 | case6 => cases h

theorem mem_tokens {value : Bytes} {token : List Char} : token ∈ tokens value ↔
    ∃ cs, text? value = some cs ∧ ∃ part ∈ Text.splitOnChar ',' cs, Text.trimmed part = token := by
  rw [tokens]
  cases text? value <;> simp

theorem mem_listedByConnection : name ∈ listedByConnection hs ↔ IsName name ∧ Listed hs name := by
  rw [listedByConnection, Listed, connectionTokens]
  simp only [List.mem_flatMap, List.mem_filterMap, mem_tokens]
  constructor
  · rintro ⟨cs, ⟨value, hvalue, htext⟩, part, hpart, hname⟩
    obtain ⟨hname, hsame⟩ := name?_eq_some_iff_isName.mp hname
    exact ⟨hname, Text.trimmed part, ⟨value, hvalue, cs, htext, part, hpart, rfl⟩, hsame⟩
  · rintro ⟨hname, _, ⟨value, hvalue, cs, htext, part, hpart, rfl⟩, hsame⟩
    exact ⟨cs, ⟨value, hvalue, htext⟩, part, hpart, name?_eq_some_iff_isName.mpr ⟨hname, hsame⟩⟩

/-- Fields are kept by their names: all of one name, in the order in which they came. -/
theorem values_filter (keep : String → Bool) : values (hs.filter fun h => keep h.name) name =
    if keep name then values hs name else [] := by
  have hsame (h : HeaderField) : (h.name == name && keep h.name) = (keep name && h.name == name) := by
    by_cases hname : h.name = name
    · rw [hname, Bool.and_comm]
    · rw [beq_false_of_ne hname, Bool.false_and, Bool.and_false]
  simp only [values, List.filter_filter, hsame]
  cases keep name <;> simp

theorem stripHopByHop_eq_filter (hnames : ∀ h ∈ hs, IsName h.name) :
    stripHopByHop hs = hs.filter fun h => ¬ OfConnection hs h.name := by
  refine List.filter_congr fun h hh => ?_
  have hlisted : h.name ∈ listedByConnection hs ↔ Listed hs h.name := by
    rw [mem_listedByConnection, and_iff_right (hnames h hh)]
  by_cases hhop : h.name ∈ hopByHop <;> simp [OfConnection, hlisted, hhop]

theorem values_stripHopByHop (hnames : ∀ h ∈ hs, IsName h.name) : values (stripHopByHop hs) name =
    if OfConnection hs name then [] else values hs name := by
  rw [stripHopByHop_eq_filter hnames, values_filter fun name => ¬ OfConnection hs name]
  by_cases hof : OfConnection hs name <;> simp [hof]

theorem values_eq_nil (hnames : ∀ h ∈ hs, IsName h.name) (h : ¬ IsName name) : values hs name = [] := by
  rw [values, List.map_eq_nil_iff, List.filter_eq_nil_iff]
  intro field hfield hname
  exact h (eq_of_beq hname ▸ hnames field hfield)

/-- Only names count among the tokens, each as often as it likes. -/
theorem Listed.congr (h : ∀ token, (name? token).isSome →
      (token ∈ connectionTokens more ↔ token ∈ connectionTokens hs))
    (hname : IsName name) : Listed more name ↔ Listed hs name := by
  refine exists_congr fun token => and_congr_left fun hsame => h token ?_
  rw [name?_eq_some_iff_isName.mpr ⟨hname, hsame⟩]
  rfl

theorem listedByConnection_stripHopByHop : listedByConnection (stripHopByHop hs) = [] := by
  have hgone : values (stripHopByHop hs) "connection" = [] := by
    rw [stripHopByHop, values_filter fun n => !(listedByConnection hs).contains n && !hopByHop.contains n]
    simp [hopByHop]
  rw [listedByConnection, hgone]
  rfl

theorem stripHopByHop_stripHopByHop : stripHopByHop (stripHopByHop hs) = stripHopByHop hs := by
  have hlisted : listedByConnection (stripHopByHop hs) = [] := listedByConnection_stripHopByHop
  refine List.filter_eq_self.mpr fun h hh => ?_
  rw [hlisted]
  exact (Bool.and_eq_true_iff.mp (List.mem_filter.mp hh).2).2

/-- The names can be taken out one after another, as all of them are read first. -/
theorem stripHopByHop_eq_foldl : stripHopByHop hs = (listedByConnection hs ++ hopByHop).foldl without hs := by
  have hfold (names : List String) : names.foldl without hs = hs.filter fun h => !names.contains h.name := by
    induction names using List.reverseRecOn with
    | nil => exact (List.filter_eq_self.mpr fun _ _ => rfl).symm
    | append_singleton names name ih =>
      rw [List.foldl_append, ih, List.foldl_cons, List.foldl_nil, without, List.filter_filter]
      refine List.filter_congr fun h _ => ?_
      by_cases hname : h.name = name <;> simp [hname]
  rw [hfold, stripHopByHop]
  simp

/-- What is passed on is what is left of the fields without the names of one connection. Every other name
keeps its values in their order, and of the Connection fields it counts only which names are among their
tokens. -/
theorem stripHopByHop_restricts (hnames : ∀ h ∈ hs, IsName h.name) :
    stripHopByHop hs = hs.filter (fun h => ¬ OfConnection hs h.name) ∧
    (∀ name, values (stripHopByHop hs) name = if OfConnection hs name then [] else values hs name) ∧
    (∀ more : Headers, (∀ h ∈ more, IsName h.name) →
      (∀ name ≠ "connection", values more name = values hs name) →
      (∀ token, (name? token).isSome → (token ∈ connectionTokens more ↔ token ∈ connectionTokens hs)) →
      ∀ name, values (stripHopByHop more) name = values (stripHopByHop hs) name) ∧
    stripHopByHop (stripHopByHop hs) = stripHopByHop hs := by
  refine ⟨stripHopByHop_eq_filter hnames, fun _ => values_stripHopByHop hnames, ?_,
    stripHopByHop_stripHopByHop⟩
  intro more hmore hvalues htokens name
  rw [values_stripHopByHop hmore, values_stripHopByHop hnames]
  by_cases hname : IsName name
  · have hof : OfConnection more name ↔ OfConnection hs name :=
      or_congr_right (Listed.congr htokens hname)
    by_cases hconnection : name = "connection"
    · have hhop : OfConnection hs name := .inl (hconnection ▸ by decide)
      rw [if_pos (hof.mpr hhop), if_pos hhop]
    · simp only [hof, hvalues name hconnection]
  · rw [values_eq_nil hmore hname, values_eq_nil hnames hname, ite_self, ite_self]

theorem stripHopByHop_restricts_repeated :
    let hs := [ofText "connection" "close, X-Trace", ofText "x-trace" "1", ofText "accept" "a"]
    let more := [ofText "connection" "X-Trace ,x@y,, close", ofText "x-trace" "1",
      ofText "connection" "X-Trace", ofText "accept" "a"]
    stripHopByHop hs = [ofText "accept" "a"] ∧
      ∀ name, values (stripHopByHop more) name = values (stripHopByHop hs) name := by
  intro hs more
  have hnames : ∀ h ∈ hs, IsName h.name := by decide
  have hmore : ∀ h ∈ more, IsName h.name := by decide
  obtain ⟨hfilter, -, hsame, -⟩ := stripHopByHop_restricts hnames
  refine ⟨hfilter.trans (by decide +kernel), hsame more hmore ?_ ?_⟩
  · intro name hname
    simp [values, hs, more, ofText, List.filter_cons, hname.symm]
  · have htokens : connectionTokens hs = ["close".toList, "X-Trace".toList] := by decide +kernel
    have htokensMore : connectionTokens more =
        ["X-Trace".toList, "x@y".toList, [], "close".toList, "X-Trace".toList] := by decide +kernel
    intro token htoken
    have hillegal : token ≠ "x@y".toList ∧ token ≠ [] := by
      constructor <;> (rintro rfl; revert htoken; decide)
    rw [htokens, htokensMore]
    simp only [List.mem_cons, hillegal, List.not_mem_nil, false_or, or_false]
    tauto

end MetricsGateway.Headers
