import SeriesCatalog.Proofs.Catalog.DeclaredFaults
import SeriesCatalog.Proofs.Catalog.Scope

/-! What a source asks for. Its metric splits at the first dot or is refused, and so is an id under which no filter is
found; nothing else about a source is refused, and what is refused has no effect. Every other source asks for the time
series of one namespace, by one filter made of its metric and of the filter that it adds. -/

namespace SeriesCatalog

/-- A fault of what a source asks for. -/
def Fault.isOfRequest : Fault → Bool
  | .malformedMetric _ | .unknownFilter _ => true
  | _ => false

theorem Fault.not_isOfRequest_of_isOfKind {fault : Fault} (h : fault.isOfKind = true) : fault.isOfRequest = false := by
  cases fault <;> first | rfl | cases h

/-! ### Metrics -/

namespace MetricName

/-- A metric is written with something before its first dot and something after it. -/
structure Splits (metric : Option String) (before after : String) : Prop where
  written : metric = some (before ++ "." ++ after)
  first : '.' ∉ before.toList
  before_ne : before ≠ ""
  after_ne : after ≠ ""

/-- A metric is missing, has no dot, or has nothing before or nothing after its first dot. -/
inductive IsMalformed : Option String → Prop
  | missing : IsMalformed none
  | undotted {s : String} (h : '.' ∉ s.toList) : IsMalformed (some s)
  | nothingBefore (after : String) : IsMalformed (some ("." ++ after))
  | nothingAfter {before : String} (h : '.' ∉ before.toList) : IsMalformed (some (before ++ "."))

theorem isMalformed_or_splits (metric : Option String) :
    IsMalformed metric ∨ ∃ before after, Splits metric before after := by
  rcases metric with _ | s
  · exact .inl .missing
  by_cases hdot : '.' ∈ s.toList
  · obtain ⟨before, after, hs, hbefore⟩ : ∃ before after, s.toList = before ++ '.' :: after ∧ '.' ∉ before := by
      cases hcut : Text.cut? '.' s.toList with
      | none => exact absurd hdot (Text.cut?_eq_none_iff.mp hcut)
      | some parts => exact ⟨parts.1, parts.2, Text.eq_append_of_cut? hcut⟩
    obtain rfl : s = String.ofList before ++ "." ++ String.ofList after := by
      apply String.toList_inj.mp
      simp [hs]
    have hfirst : '.' ∉ (String.ofList before).toList := by simpa using hbefore
    by_cases hempty : before = []
    · subst hempty
      exact .inl (.nothingBefore _)
    · by_cases hempty' : after = []
      · subst hempty'
        rw [String.ofList_nil, String.append_empty]
        exact .inl (.nothingAfter hfirst)
      · exact .inr ⟨_, _, rfl, hfirst, by simpa using hempty, by simpa using hempty'⟩
  · exact .inl (.undotted hdot)

/-- A metric splits in one way. -/
theorem Splits.unique {metric : Option String} {before after before' after' : String}
    (h : Splits metric before after) (h' : Splits metric before' after') : before = before' ∧ after = after' := by
  have hcut : ∀ {b a : String}, Splits metric b a →
      metric.bind (fun s => Text.cut? '.' s.toList) = some (b.toList, a.toList) := by
    intro b a hsplits
    rw [hsplits.written, Option.bind_some, ← Text.cut?_append a.toList hsplits.first]
    simp
  have hparts := (hcut h).symm.trans (hcut h')
  simpa [String.toList_inj] using hparts

theorem read_of_splits {metric : Option String} {before after : String} (h : Splits metric before after) :
    read (.ofString? metric) = .ok ⟨Text.lower before, Text.lower after⟩ := by
  rw [h.written]
  exact Catalog.read_of_ofText? (ofText?_dotted h.first h.before_ne h.after_ne)

/-- A malformed metric is refused with its own text. -/
theorem read_of_isMalformed {metric : Option String} (h : IsMalformed metric) :
    read (.ofString? metric) = .error (.malformedMetric (metric.getD "None")) := by
  have hread : ∀ {s : String}, ofText? s = none → read (.str s) = .error (.malformedMetric s) := by
    intro s hs
    rw [read]
    split
    · rfl
    · simp only [hs]
  cases h with
  | missing => rfl
  | undotted hdot =>
      apply hread
      rw [ofText?, Text.splitFirst?_eq_none_iff.mpr hdot]
  | nothingBefore after =>
      apply hread
      rw [ofText?, Text.splitFirst?, String.toList_append]
      simp [Text.cut?]
  | nothingAfter hdot =>
      apply hread
      rw [ofText?, Text.splitFirst?, String.toList_append]
      have hcut := Text.cut?_append [] hdot
      simp [hcut]

theorem Splits.not_isMalformed {metric : Option String} {before after : String} (h : Splits metric before after) :
    ¬IsMalformed metric := by
  intro hmalformed
  have hread := read_of_splits h
  rw [read_of_isMalformed hmalformed] at hread
  cases hread

end MetricName

/-! ### Filters -/

theorem Filter.isAbsent_iff {f : Filter} : f.isAbsent = true ↔ f = .absent := by
  rcases f with v | metric | ⟨op, parts⟩
  · cases v <;> simp [isAbsent, absent]
  · simp [isAbsent, absent]
  · simp [isAbsent, absent]

namespace Catalog

/-- The filters that a source adds to its metric: the one given, else the one found under its id, else none. -/
inductive AddsFilters (find : Json → Filter) : Filter → Option String → List Filter → Prop
  | given {filter : Filter} (h : filter ≠ .absent) (id : Option String) : AddsFilters find filter id [filter]
  | found {id : String} (h : id ≠ "") (hfound : find (.str id) ≠ .absent) :
    AddsFilters find .absent (some id) [find (.str id)]
  | unnamed {id : Option String} (h : id.getD "" = "") : AddsFilters find .absent id []

/-- A source without a filter of its own names one, and there is none of that name. -/
def FindsNothing (find : Json → Filter) (filter : Filter) (id : Option String) : Prop :=
  filter = .absent ∧ ∃ name, id = some name ∧ name ≠ "" ∧ find (.str name) = .absent

variable {find : Json → Filter} {filter : Filter} {id : Option String}

theorem findsNothing_or_addsFilters (find : Json → Filter) (filter : Filter) (id : Option String) :
    FindsNothing find filter id ∨ ∃ filters, AddsFilters find filter id filters := by
  by_cases hfilter : filter = .absent
  · subst hfilter
    rcases id with _ | name
    · exact .inr ⟨_, .unnamed rfl⟩
    · by_cases hblank : name = ""
      · exact .inr ⟨_, .unnamed hblank⟩
      · by_cases hfound : find (.str name) = .absent
        · exact .inl ⟨rfl, name, rfl, hblank, hfound⟩
        · exact .inr ⟨_, .found hblank hfound⟩
  · exact .inr ⟨_, .given hfilter id⟩

/-- A filter of its own is all that a source looks at. -/
theorem sourceFilter_of_ne (context : Json → Except Fault Filter) {s : Source} (h : s.filter ≠ .absent) :
    sourceFilter context s = .ok s.filter := by
  have habsent : s.filter.isAbsent = false := by
    simpa using mt Filter.isAbsent_iff.mp h
  rw [sourceFilter, habsent]
  rfl

theorem sourceFilter_of_id {metric : Json} {name : String} (context : Json → Except Fault Filter) (h : name ≠ "") :
    sourceFilter context ⟨metric, .absent, .str name⟩ = (do
      let found ← context (.str name)
      if found.isAbsent then .error (.unknownFilter name) else .ok found) := by
  have hblank : (Json.str name).isBlank = false := decide_eq_false h
  rw [sourceFilter, hblank]
  rfl

theorem sourceFilter_of_findsNothing (metric : Json) (h : FindsNothing find filter id) :
    sourceFilter (fun id => .ok (find id)) ⟨metric, filter, .ofString? id⟩ = .error (.unknownFilter (id.getD "")) := by
  obtain ⟨rfl, name, rfl, hname, hfound⟩ := h
  rw [Json.ofString?, sourceFilter_of_id _ hname]
  simp [bind, Except.bind, hfound, Filter.isAbsent_iff]

/-- The filters that a source adds are those that the combination with its metric keeps. -/
theorem exists_sourceFilter (metric : Json) {filters : List Filter} (h : AddsFilters find filter id filters) :
    ∃ resolved, sourceFilter (fun id => .ok (find id)) ⟨metric, filter, .ofString? id⟩ = .ok resolved ∧
      [resolved].filter (!·.isAbsent) = filters := by
  have hkept : ∀ {f : Filter}, f ≠ .absent → [f].filter (!·.isAbsent) = [f] := by
    intro f hf
    simpa using mt Filter.isAbsent_iff.mp hf
  cases h with
  | given hfilter => exact ⟨filter, sourceFilter_of_ne _ hfilter, hkept hfilter⟩
  | found hname hfound =>
      refine ⟨_, ?_, hkept hfound⟩
      rw [Json.ofString?, sourceFilter_of_id _ hname]
      simp [bind, Except.bind, mt Filter.isAbsent_iff.mp hfound]
  | unnamed hblank =>
      refine ⟨.absent, ?_, rfl⟩
      rcases id with _ | name
      · rfl
      · obtain rfl : name = "" := hblank
        rfl

/-- A filter of its own makes the query of a source the same for every context. -/
theorem sourceQuery_congr (context other : Json → Except Fault Filter) {s : Source} (h : s.filter ≠ .absent) :
    sourceQuery context s = sourceQuery other s := by
  rw [sourceQuery_eq, sourceQuery_eq, sourceFilter_of_ne context h, sourceFilter_of_ne other h]

/-! ### Queries -/

/-- The query for the series of a metric that some filters let through. -/
def seriesQuery (before after : String) (filters : List Filter) : Query :=
  ⟨.timeSeries, Text.lower before, .chain .all (.metricLiteral (.str (Text.lower after)) :: filters), .int 0, .int 0⟩

variable {c : Catalog} {make : Query → Request} {search : Submission → Answer} {elapsed : Elapsed} {trace : Json}
  {metric : Option String}

theorem sourceQuery_of_isMalformed (context : Json → Except Fault Filter) {s : Source}
    (h : MetricName.IsMalformed metric) (hmetric : s.metric = .ofString? metric) :
    sourceQuery context s = .error (.malformedMetric (metric.getD "None")) := by
  rw [sourceQuery_eq, hmetric, MetricName.read_of_isMalformed h]
  rfl

/-- What is neither malformed nor finds nothing has a query. -/
theorem exists_splits_and_addsFilters (hmetric : ¬MetricName.IsMalformed metric)
    (hfinds : ¬FindsNothing find filter id) :
    ∃ before after filters, MetricName.Splits metric before after ∧ AddsFilters find filter id filters := by
  obtain ⟨before, after, hsplits⟩ := (MetricName.isMalformed_or_splits metric).resolve_left hmetric
  obtain ⟨filters, hadds⟩ := (findsNothing_or_addsFilters find filter id).resolve_left hfinds
  exact ⟨before, after, filters, hsplits, hadds⟩

theorem sourceQuery_of_findsNothing (hmetric : ¬MetricName.IsMalformed metric) (h : FindsNothing find filter id) :
    sourceQuery (fun id => .ok (find id)) ⟨.ofString? metric, filter, .ofString? id⟩ =
      .error (.unknownFilter (id.getD "")) := by
  obtain ⟨before, after, hsplits⟩ := (MetricName.isMalformed_or_splits metric).resolve_left hmetric
  rw [sourceQuery_eq, MetricName.read_of_splits hsplits, sourceFilter_of_findsNothing _ h]
  rfl

theorem sourceQuery_of_splits {before after : String} {filters : List Filter}
    (hsplits : MetricName.Splits metric before after) (hadds : AddsFilters find filter id filters) :
    sourceQuery (fun id => .ok (find id)) ⟨.ofString? metric, filter, .ofString? id⟩ =
      .ok (⟨Text.lower before, Text.lower after⟩, seriesQuery before after filters) := by
  obtain ⟨resolved, hresolved, hkept⟩ := exists_sourceFilter (.ofString? metric) hadds
  have hquery : queryOf ⟨Text.lower before, Text.lower after⟩ resolved = seriesQuery before after filters := by
    rw [queryOf, Text.lower_lower, Filter.allOf, seriesQuery, ← hkept]
    rfl
  rw [sourceQuery_eq, MetricName.read_of_splits hsplits, hresolved, ← hquery]
  rfl

theorem prepare_of_splits {before after : String} {filters : List Filter}
    (hsplits : MetricName.Splits metric before after) (hadds : AddsFilters find filter id filters) :
    let q := seriesQuery before after filters
    let request := c.envelope c.config.maxResults (make q)
    c.prepare (fun q => .ok (make q)) trace
        (.source (fun id => .ok (find id)) ⟨.ofString? metric, filter, .ofString? id⟩) =
      .ok ⟨q, ⟨request, q.namespaceName, trace⟩,
        .sourceSubmitted (Text.lower before) (Text.lower after) request.size⟩ := by
  intro q request
  rw [prepare, sourceQuery_of_splits hsplits hadds]
  rfl

theorem runSource_of_error {build : RequestBuilder} {context : Json → Except Fault Filter} {s : Source} {fault : Fault}
    (h : sourceQuery context s = .error fault) :
    c.runSource build search elapsed context s trace = refused [] fault := by
  rw [runSource, h]

theorem runSource_congr {build : RequestBuilder} {context other : Json → Except Fault Filter} {s : Source}
    (h : sourceQuery context s = sourceQuery other s) :
    c.runSource build search elapsed context s trace = c.runSource build search elapsed other s trace := by
  rw [runSource, runSource, h]

/-! ### Faults -/

/-- Nothing that happens after a source is prepared is a fault of what it asks for. -/
theorem not_isOfRequest_of_prepared {build : RequestBuilder} {context : Json → Except Fault Filter} {s : Source}
    {p : Prepared} {fault : Fault} (hprepare : c.prepare build trace (.source context s) = .ok p)
    (hseries : ∀ metric tags, Fallible.FailsWith (fun fault => fault.isOfRequest = false) (c.builder metric tags))
    (h : (c.dispatch build search elapsed trace (.source context s)).result = some (.error fault)) :
    fault.isOfRequest = false := by
  rw [dispatch_result, hprepare] at h
  obtain ⟨settled, -, hconclude⟩ := Option.map_eq_some_iff.mp h
  cases settled with
  | error cause =>
      rw [conclude_error] at hconclude
      split at hconclude
      · next hcancelled =>
          cases hconclude
          cases fault <;> first | rfl | cases hcancelled
      · cases hconclude
  | ok batch =>
      exact faultOf_failsOn_source (p := fun fault => fault.isOfRequest = false)
        (fun _ => Fault.not_isOfRequest_of_isOfKind) hseries (conclude_batch_eq_error_iff.mp hconclude)

/-! ### All or nothing -/

/-- A source whose metric is malformed, or whose id finds no filter, is refused, and nothing else is done. Any other
one asks once, for the series of its namespace that its metric and the filters that it adds let through, and the
target is the namespace of that query. A malformed metric is refused before a filter is looked for, and a source with
a filter of its own looks for none. Unless the building of series has such faults itself, no other source ends with
one. -/
theorem runSource_allOrNothing (c : Catalog) (make : Query → Request) (search : Submission → Answer)
    (elapsed : Elapsed) (find : Json → Filter) (metric : Option String) (filter : Filter) (id : Option String)
    (trace : Json) :
    let run (context : Json → Except Fault Filter) : Dispatch :=
      c.runSource (fun q => .ok (make q)) search elapsed context ⟨.ofString? metric, filter, .ofString? id⟩ trace
    let d := run fun id => .ok (find id)
    ((∀ name tags fault, c.builder name tags = .error fault → fault.isOfRequest = false) →
      ((∃ fault, d.result = some (.error fault) ∧ fault.isOfRequest = true) ↔
        MetricName.IsMalformed metric ∨ FindsNothing find filter id)) ∧
    (MetricName.IsMalformed metric → ∀ context, run context = refused [] (.malformedMetric (metric.getD "None"))) ∧
    (¬MetricName.IsMalformed metric → FindsNothing find filter id →
      d = refused [] (.unknownFilter (id.getD ""))) ∧
    (¬MetricName.IsMalformed metric → ¬FindsNothing find filter id →
      ∃ before after filters, MetricName.Splits metric before after ∧ AddsFilters find filter id filters ∧
        let q := seriesQuery before after filters
        d.built = [q] ∧ d.submissions = [⟨c.envelope c.config.maxResults (make q), q.namespaceName, trace⟩]) ∧
    (filter ≠ .absent → ∀ context, run context = d) := by
  intro run d
  have hmalformed : MetricName.IsMalformed metric →
      ∀ context, run context = refused [] (.malformedMetric (metric.getD "None")) :=
    fun h context => runSource_of_error (sourceQuery_of_isMalformed context h rfl)
  have hunknown : ¬MetricName.IsMalformed metric → FindsNothing find filter id →
      d = refused [] (.unknownFilter (id.getD "")) :=
    fun hmetric hfinds => runSource_of_error (sourceQuery_of_findsNothing hmetric hfinds)
  refine ⟨fun hseries => ⟨?_, ?_⟩, hmalformed, hunknown, ?_, ?_⟩
  · rintro ⟨fault, hresult, hrequest⟩
    by_contra hrefused
    obtain ⟨hmetric, hfinds⟩ := not_or.mp hrefused
    obtain ⟨before, after, filters, hsplits, hadds⟩ := exists_splits_and_addsFilters hmetric hfinds
    have hother := not_isOfRequest_of_prepared (prepare_of_splits hsplits hadds) hseries hresult
    rw [hrequest] at hother
    cases hother
  · intro hrefused
    by_cases hmetric : MetricName.IsMalformed metric
    · exact ⟨_, congrArg Dispatch.result (hmalformed hmetric _), rfl⟩
    · exact ⟨_, congrArg Dispatch.result (hunknown hmetric (hrefused.resolve_left hmetric)), rfl⟩
  · intro hmetric hfinds
    obtain ⟨before, after, filters, hsplits, hadds⟩ := exists_splits_and_addsFilters hmetric hfinds
    refine ⟨before, after, filters, hsplits, hadds, ?_⟩
    intro q
    have hsubmit : d = _ := dispatch_of_prepared search elapsed (prepare_of_splits hsplits hadds)
    rw [hsubmit, built_submit, submissions_submit]
    exact ⟨rfl, rfl⟩
  · intro hfilter context
    have hquery := sourceQuery_congr context (fun id => .ok (find id))
      (s := ⟨.ofString? metric, filter, .ofString? id⟩) hfilter
    exact runSource_congr hquery

/-- A filter under the id `hosts` and no other one: a source that names it asks for its series, and one that names
another filter is refused, as is one whose metric begins with its first dot. -/
theorem runSource_allOrNothing_of_three :
    let c : Catalog := ⟨.null, {}, Series.canonical⟩
    let find : Json → Filter := fun id => if id.text = "hosts" then .value (.bool true) else .absent
    let run (metric id : String) : Dispatch :=
      c.runSource (fun _ => .ok {}) (fun _ => ⟨none, [], [], []⟩) {} (fun id => .ok (find id))
        ⟨.str metric, .absent, .str id⟩ .null
    (∀ name tags fault, c.builder name tags = .error fault → fault.isOfRequest = false) ∧
      ¬MetricName.IsMalformed (some "Sys.Cpu.Load") ∧ ¬FindsNothing find .absent (some "hosts") ∧
      (run "Sys.Cpu.Load" "hosts").built = [seriesQuery "Sys" "Cpu.Load" [.value (.bool true)]] ∧
      (run "Sys.Cpu.Load" "hosts").submissions.map (·.target) = ["sys"] ∧
      FindsNothing find .absent (some "racks") ∧ run "Sys.Cpu.Load" "racks" = refused [] (.unknownFilter "racks") ∧
      MetricName.IsMalformed (some ".Load") ∧ run ".Load" "hosts" = refused [] (.malformedMetric ".Load") ∧
      ∃ fault, (run ".Load" "hosts").result = some (.error fault) ∧ fault.isOfRequest = true := by
  intro c find run
  have hseries : ∀ name tags fault, c.builder name tags = .error fault → fault.isOfRequest = false :=
    fun name tags fault h => Fault.not_isOfRequest_of_isOfKind (Series.canonical_ofKind name tags fault h)
  have hsplits : MetricName.Splits (some "Sys.Cpu.Load") "Sys" "Cpu.Load" := ⟨rfl, by decide, by decide, by decide⟩
  have hmalformed : MetricName.IsMalformed (some ".Load") := .nothingBefore "Load"
  have hhosts : find (.str "hosts") = .value (.bool true) := rfl
  have hfinds : ¬FindsNothing find .absent (some "hosts") := by
    rintro ⟨-, name, hname, -, hnothing⟩
    cases hname
    rw [hhosts] at hnothing
    cases hnothing
  have hracks : FindsNothing find .absent (some "racks") := ⟨rfl, "racks", rfl, by decide, rfl⟩
  have hlaw (metric id : String) :=
    runSource_allOrNothing c (fun _ => {}) (fun _ => ⟨none, [], [], []⟩) {} find (some metric) .absent (some id) .null
  obtain ⟨-, -, -, hasked, -⟩ := hlaw "Sys.Cpu.Load" "hosts"
  obtain ⟨before, after, filters, hparts, hadds, hbuilt, hsubmitted⟩ := hasked hsplits.not_isMalformed hfinds
  obtain ⟨rfl, rfl⟩ := hsplits.unique hparts
  have hfilters : filters = [.value (.bool true)] := by
    cases hadds with
    | given h => exact absurd rfl h
    | found => rw [hhosts]
    | unnamed hblank => exact absurd hblank (by decide)
  subst hfilters
  have hlower : Text.lower "Sys" = "sys" := by decide +kernel
  refine ⟨hseries, hsplits.not_isMalformed, hfinds, hbuilt, ?_, hracks, ?_, hmalformed, ?_, ?_⟩
  · exact (congrArg (List.map Submission.target) hsubmitted).trans (congrArg (fun target => [target]) hlower)
  · exact (hlaw "Sys.Cpu.Load" "racks").2.2.1 hsplits.not_isMalformed hracks
  · exact (hlaw ".Load" "hosts").2.1 hmalformed _
  · exact ((hlaw ".Load" "hosts").1 hseries).mpr (.inl hmalformed)

end Catalog

end SeriesCatalog
