import SeriesCatalog.Catalog.Basic
import SeriesCatalog.Proofs.Interpreter.Holdings
import SeriesCatalog.Proofs.Response.Totals

/-! What a source resolves to. A total above the ceiling anywhere in the batch, or else no total above zero,
ends the resolution without data before any document is looked at; otherwise each document gives one series,
built from the metric as the source states it. -/

namespace SeriesCatalog.Catalog

/-! ### The query of a source -/

/-- The query of a split metric and a filter. -/
def queryOf (name : MetricName) (filter : Filter) : Query :=
  ⟨.timeSeries, Text.lower name.namespaceName, .allOf [.metricLiteral (.str name.metric), filter], .int 0, .int 0⟩

theorem read_of_ofText? {dotted : String} {name : MetricName} (h : MetricName.ofText? dotted = some name) :
    MetricName.read (.str dotted) = .ok name := by
  have hblank : (Json.str dotted).isBlank = false := by
    apply decide_eq_false
    intro hempty
    rw [hempty] at h
    cases h
  rw [MetricName.read, hblank]
  simp only [Bool.false_eq_true, if_false, h]

theorem readNamespace_str (s : String) : Query.readNamespace (.str s) = .ok (Text.lower s) := by
  rw [Query.readNamespace]
  by_cases hempty : s = ""
  · subst hempty
    rfl
  · have hblank : (Json.str s).isBlank = false := decide_eq_false hempty
    rw [hblank]
    rfl

/-- The query of a source is that of its metric and its filter; nothing else can fail. -/
theorem sourceQuery_eq (context : Json → Except Fault Filter) (s : Source) :
    sourceQuery context s = (do
      let name ← MetricName.read s.metric
      let filter ← sourceFilter context s
      .ok (name, queryOf name filter)) := by
  have hbuild : ∀ (name : MetricName) (filter : Filter), Query.build .timeSeries (.str name.namespaceName)
      (.allOf [.metricLiteral (.str name.metric), filter]) (.int 0) (.int 0) = .ok (queryOf name filter) := by
    intro name filter
    rw [Query.build, readNamespace_str]
    rfl
  simp only [sourceQuery, hbuild]
  rfl

/-- A source whose metric splits and whose filter resolves has a query. -/
theorem sourceQuery_eq_ok {context : Json → Except Fault Filter} {s : Source} {dotted : String} {name : MetricName}
    {filter : Filter} (hmetric : s.metric = .str dotted) (hname : MetricName.ofText? dotted = some name)
    (hfilter : sourceFilter context s = .ok filter) :
    sourceQuery context s = .ok (name, queryOf name filter) := by
  rw [sourceQuery_eq, hmetric, read_of_ofText? hname, hfilter]
  rfl

/-- The result of a source is that of resolving the batch that its search has. -/
theorem runSource_of_batch {c : Catalog} {build : RequestBuilder} {search : Submission → Answer}
    {context : Json → Except Fault Filter} {s : Source} {name : MetricName} {q : Query} {request : Request}
    {batch : List Response} (elapsed : Elapsed) (trace : Json) (hquery : sourceQuery context s = .ok (name, q))
    (hbuild : build q = .ok request)
    (hsearch : (search ⟨c.envelope c.config.maxResults request, name.namespaceName, trace⟩).result =
      some (.ok batch)) :
    (c.runSource build search elapsed context s trace).result =
      some (c.resolve elapsed q s.metric batch).result := by
  have hprepare : c.prepareSource build name q trace =
      .ok ⟨q, ⟨c.envelope c.config.maxResults request, name.namespaceName, trace⟩,
        .sourceSubmitted name.namespaceName name.metric (c.envelope c.config.maxResults request).size⟩ := by
    rw [prepareSource, hbuild]
    rfl
  rw [runSource, hquery]
  simp only [hprepare, submit, hsearch, concludeSource]

/-! ### The ceiling -/

theorem exceedsCeiling_int (total ceiling : Int) :
    exceedsCeiling (.int total) (.int ceiling) = .ok (decide (ceiling < total)) := by
  simp [exceedsCeiling, Json.less, Json.lessNumber, Json.isNumber, Json.place?, Double.Place.lt]

/-- The guard looks for the first total above the ceiling, through the whole batch. -/
theorem breach?_eq_find? {c : Catalog} {ceiling : Int} (hceiling : c.config.maxCardinality = .int ceiling)
    (batch : List Response) : c.breach? batch = .ok (batch.find? fun r => ceiling < r.total) := by
  induction batch with
  | nil => rfl
  | cons r rest ih =>
      rw [breach?, hceiling, exceedsCeiling_int, List.find?_cons]
      by_cases h : ceiling < r.total
      · simp [bind, Except.bind, h]
      · simp [bind, Except.bind, h, ih]

theorem resolve_of_breach {c : Catalog} {ceiling : Int} {before after : List Response} {r : Response}
    (hceiling : c.config.maxCardinality = .int ceiling) (elapsed : Elapsed) (q : Query) (metric : Json)
    (hbefore : ∀ b ∈ before, b.total ≤ ceiling) (hr : ceiling < r.total) :
    (c.resolve elapsed q metric (before ++ r :: after)).result = .ok (c.emptyOutcome q r.total) := by
  have hfirst : (before ++ r :: after).find? (fun r => decide (ceiling < r.total)) = some r := by
    refine List.find?_eq_some_iff_append.mpr ⟨decide_eq_true hr, before, after, rfl, fun b hb => ?_⟩
    simpa using hbefore b hb
  rw [resolve, breach?_eq_find? hceiling, hfirst]
  rfl

theorem breach?_of_le {c : Catalog} {ceiling : Int} {batch : List Response}
    (hceiling : c.config.maxCardinality = .int ceiling) (h : ∀ r ∈ batch, r.total ≤ ceiling) :
    c.breach? batch = .ok none := by
  have hnone : batch.find? (fun r => decide (ceiling < r.total)) = none := by
    apply List.find?_eq_none.mpr
    intro r hr
    simpa using h r hr
  rw [breach?_eq_find? hceiling, hnone]

theorem resolve_of_nothing {c : Catalog} {ceiling m : Int} {batch : List Response}
    (hceiling : c.config.maxCardinality = .int ceiling) (elapsed : Elapsed) (q : Query) (metric : Json)
    (hle : ∀ r ∈ batch, r.total ≤ ceiling) (hm : IsGreatestTotal batch m) (hnothing : m ≤ 0) :
    (c.resolve elapsed q metric batch).result = .ok (c.emptyOutcome q m) := by
  have htotal := greatestTotal_eq hm
  rw [resolve, breach?_of_le hceiling hle]
  simp only [htotal, if_pos hnothing]
  rfl

/-! ### Totals alone -/

/-- Batches with the same totals break the ceiling with the same total, or neither does. -/
theorem find?_total_congr {batch other : List Response} (ceiling : Int)
    (h : other.map (·.total) = batch.map (·.total)) :
    (other.find? fun r => ceiling < r.total).map (·.total) = (batch.find? fun r => ceiling < r.total).map (·.total) := by
  have hmap : ∀ responses : List Response, (responses.find? fun r => ceiling < r.total).map (·.total) =
      (responses.map (·.total)).find? (ceiling < ·) := by
    intro responses
    rw [List.find?_map]
    rfl
  rw [hmap, hmap, h]

/-- A resolution without data is decided on the totals; the documents of a batch do not matter to it. -/
theorem resolve_congr {c : Catalog} {ceiling : Int} {batch other : List Response}
    (hceiling : c.config.maxCardinality = .int ceiling) (elapsed : Elapsed) (q : Query) (metric : Json)
    (htotals : other.map (·.total) = batch.map (·.total))
    (h : (∃ r ∈ batch, ceiling < r.total) ∨ ∀ r ∈ batch, r.total ≤ 0) :
    (c.resolve elapsed q metric other).result = (c.resolve elapsed q metric batch).result := by
  have hfirst := find?_total_congr ceiling htotals
  rw [resolve, resolve, breach?_eq_find? hceiling, breach?_eq_find? hceiling]
  cases hbreach : batch.find? (fun r => decide (ceiling < r.total)) with
  | some r =>
      rw [hbreach] at hfirst
      obtain ⟨s, hs, htotal⟩ := Option.map_eq_some_iff.mp hfirst
      rw [hs]
      simp only [htotal]
  | none =>
      rw [hbreach] at hfirst
      rw [Option.map_eq_none_iff.mp hfirst]
      have hnothing : greatestTotal batch ≤ 0 := by
        rcases h with ⟨r, hr, hexceeds⟩ | hle
        · exact absurd (decide_eq_true hexceeds) (List.find?_eq_none.mp hbreach r hr)
        · rcases isGreatestTotal_greatestTotal batch with ⟨-, hzero⟩ | ⟨⟨r, hr, htotal⟩, -⟩
          · exact hzero.le
          · exact htotal ▸ hle r hr
      simp only [greatestTotal_congr htotals, if_pos hnothing]

/-! ### Documents -/

theorem readSource_eq (c : Catalog) (metric : Json) (batch : List Response) :
    c.readSource metric batch = Interpreter.readSeries c.builder (some metric) (batch.flatMap (·.hits)) := by
  induction batch with
  | nil => rfl
  | cons r rest ih =>
      rw [List.flatMap_cons, Interpreter.readSeries, Reading.collect_append]
      exact congrArg (Reading.append _) ih

/-- Documents that do not fault give one series each, built from the metric and all tags of the document. -/
theorem readSource_complete {c : Catalog} {metric : Json} {batch : List Response}
    (h : ∀ r ∈ batch, ∀ hit ∈ r.hits, ∃ series, Interpreter.seriesOf c.builder (some metric) hit = .ok series) :
    ∃ series, List.Forall₂ (fun hit built => c.builder metric hit.tags = .ok built) (batch.flatMap (·.hits)) series ∧
      c.readSource metric batch = .ofList (series.map .series) := by
  have hcomplete : (Interpreter.readSeries c.builder (some metric) (batch.flatMap (·.hits))).fault = none := by
    apply Reading.collect_fault_eq_none_iff.mpr
    intro hit hhit
    obtain ⟨r, hr, hmem⟩ := List.mem_flatMap.mp hhit
    obtain ⟨series, hseries⟩ := h r hr hit hmem
    exact ⟨_, Fallible.map_eq_ok.mpr ⟨series, hseries, rfl⟩⟩
  obtain ⟨series, hbuilt, hread⟩ := Interpreter.readSeries_entries hcomplete
  refine ⟨series, ?_, (readSource_eq c metric batch).trans hread⟩
  have hone : (batch.flatMap (·.hits)).flatMap (·.identitiesFor (some metric)) =
      (batch.flatMap (·.hits)).map fun hit => (metric, hit.tags) := List.map_eq_flatMap.symm
  rw [hone] at hbuilt
  exact List.forall₂_map_left_iff.mp hbuilt

theorem resolve_of_documents {c : Catalog} {ceiling m : Int} {batch : List Response}
    (hceiling : c.config.maxCardinality = .int ceiling) (elapsed : Elapsed) (q : Query) (metric : Json)
    (hle : ∀ r ∈ batch, r.total ≤ ceiling) (hm : IsGreatestTotal batch m) (hsome : 0 < m) {series : List Series}
    (hread : c.readSource metric batch = .ofList (series.map .series)) :
    (c.resolve elapsed q metric batch).result =
      .ok { Outcome.start .data (some q) none with total := m, series } := by
  have htotal := greatestTotal_eq hm
  have hsome' : ¬m ≤ 0 := not_le.mpr hsome
  have habsorb : Outcome.absorb q (.ofList (series.map .series)) (some (.start .data (some q) none)) =
      (some { Outcome.start .data (some q) none with series }, none) := by
    rw [Outcome.absorb_some q _ rfl, Reading.ofList, Outcome.foldl_push_series]
    rfl
  rw [resolve, breach?_of_le hceiling hle]
  simp only [htotal, if_neg hsome', hread, habsorb]
  rfl

/-! ### The three ways -/

/-- What a source resolves to once its search has a batch. The first total above the ceiling, or a greatest
total that is not above zero, gives an outcome without data whatever the documents are; otherwise the outcome
has one series for each document, built from the metric as it was given. -/
theorem runSource_resolution {c : Catalog} {build : RequestBuilder} {search : Submission → Answer}
    {context : Json → Except Fault Filter} {s : Source} {dotted : String} {name : MetricName} {filter : Filter}
    {ceiling : Int} {request : Request} {batch : List Response} (elapsed : Elapsed) (trace : Json)
    (hceiling : c.config.maxCardinality = .int ceiling) (hmetric : s.metric = .str dotted)
    (hname : MetricName.ofText? dotted = some name) (hfilter : sourceFilter context s = .ok filter)
    (hbuild : build (queryOf name filter) = .ok request)
    (hsearch : (search ⟨c.envelope c.config.maxResults request, name.namespaceName, trace⟩).result =
      some (.ok batch)) :
    let q := queryOf name filter
    let result := (c.runSource build search elapsed context s trace).result
    (∀ before r after, batch = before ++ r :: after → (∀ b ∈ before, b.total ≤ ceiling) → ceiling < r.total →
      result = some (.ok { Outcome.start c.config.fallback.noDataKind (some q) none with total := r.total })) ∧
    (∀ m, (∀ r ∈ batch, r.total ≤ ceiling) → IsGreatestTotal batch m → m ≤ 0 →
      result = some (.ok { Outcome.start c.config.fallback.noDataKind (some q) none with total := m })) ∧
    (∀ m, (∀ r ∈ batch, r.total ≤ ceiling) → IsGreatestTotal batch m → 0 < m →
      (∀ r ∈ batch, ∀ hit ∈ r.hits,
        ∃ series, Interpreter.seriesOf c.builder (some (.str dotted)) hit = .ok series) →
      ∃ series,
        List.Forall₂ (fun hit built => c.builder (.str dotted) hit.tags = .ok built) (batch.flatMap (·.hits)) series ∧
        result = some (.ok { Outcome.start .data (some q) none with total := m, series })) ∧
    ∀ (search' : Submission → Answer) (batch' : List Response),
      (search' ⟨c.envelope c.config.maxResults request, name.namespaceName, trace⟩).result = some (.ok batch') →
      batch'.map (·.total) = batch.map (·.total) →
      ((∃ r ∈ batch, ceiling < r.total) ∨ ∀ r ∈ batch, r.total ≤ 0) →
      (c.runSource build search' elapsed context s trace).result = result := by
  intro q result
  have hquery := sourceQuery_eq_ok hmetric hname hfilter
  have hresult : result = some (c.resolve elapsed q s.metric batch).result :=
    runSource_of_batch elapsed trace hquery hbuild hsearch
  rw [hresult]
  refine ⟨?_, ?_, ?_, ?_⟩
  · rintro before r after rfl hbefore hr
    exact congrArg some (resolve_of_breach hceiling elapsed q s.metric hbefore hr)
  · intro m hle hm hnothing
    exact congrArg some (resolve_of_nothing hceiling elapsed q s.metric hle hm hnothing)
  · intro m hle hm hsome hcomplete
    obtain ⟨series, hbuilt, hread⟩ := readSource_complete hcomplete
    rw [hmetric]
    exact ⟨series, hbuilt, congrArg some (resolve_of_documents hceiling elapsed q _ hle hm hsome hread)⟩
  · intro search' batch' hsearch' htotals hempty
    rw [runSource_of_batch elapsed trace hquery hbuild hsearch']
    exact congrArg some (resolve_congr hceiling elapsed q s.metric htotals hempty)

/-- Under a ceiling of 4, a batch whose second response has a total of 7 resolves to nothing, although the
document of the first cannot be read; a batch of two documents resolves to two series. -/
theorem runSource_resolution_of_two :
    let c : Catalog := ⟨.null, { maxCardinality := .int 4, fallback := { onNoData := .bool true } }, Series.canonical⟩
    let build : RequestBuilder := fun _ => .ok {}
    let context : Json → Except Fault Filter := fun _ => .ok .absent
    let s : Source := { metric := .str "Sys.Cpu" }
    let search (batch : List Response) : Submission → Answer := fun _ => ⟨some (.ok batch), [], [], []⟩
    let hit (host : String) : Hit :=
      ⟨.obj [("tags", .arr [.obj [("key.raw", .str "host"), ("value.raw", .str host)]])], .null⟩
    let breaching : List Response := [⟨3, none, [⟨.obj [("tags", .int 1)], .null⟩], .null⟩, ⟨7, none, [], .null⟩]
    let found : List Response := [⟨2, none, [hit "a", hit "b"], .null⟩, ⟨-1, none, [], .null⟩]
    (∃ o, (c.runSource build (search breaching) {} context s .null).result = some (.ok o) ∧
      o.kind = .noDataFallback ∧ o.payload = [] ∧ o.total = 7) ∧
    ∃ o, (c.runSource build (search found) {} context s .null).result = some (.ok o) ∧
      o.kind = .data ∧ o.series.length = 2 ∧ o.total = 2 := by
  intro c build context s search hit breaching found
  have hname : MetricName.ofText? "Sys.Cpu" = some ⟨"sys", "cpu"⟩ := by decide +kernel
  have hceiling : c.config.maxCardinality = .int 4 := rfl
  have hfilter : sourceFilter context s = .ok .absent := rfl
  have hbuild : build (queryOf ⟨"sys", "cpu"⟩ .absent) = .ok {} := rfl
  have hsearch : ∀ batch, (search batch ⟨c.envelope c.config.maxResults {}, "sys", .null⟩).result =
      some (.ok batch) := fun _ => rfl
  constructor
  · obtain ⟨hbreach, -⟩ := runSource_resolution {} .null hceiling rfl hname hfilter hbuild (hsearch breaching)
    exact ⟨_, hbreach [breaching[0]] breaching[1] [] rfl (List.forall_mem_cons.mpr ⟨by decide, nofun⟩) (by decide),
      rfl, rfl, rfl⟩
  · obtain ⟨-, -, hdata, -⟩ := runSource_resolution {} .null hceiling rfl hname hfilter hbuild (hsearch found)
    have hreadable : ∀ r ∈ found, ∀ hit ∈ r.hits,
        ∃ series, Interpreter.seriesOf c.builder (some (.str "Sys.Cpu")) hit = .ok series :=
      List.forall_mem_cons.mpr ⟨List.forall_mem_cons.mpr ⟨⟨_, rfl⟩, List.forall_mem_cons.mpr ⟨⟨_, rfl⟩, nofun⟩⟩,
        List.forall_mem_cons.mpr ⟨nofun, nofun⟩⟩
    obtain ⟨series, hbuilt, hresult⟩ :=
      hdata 2 (by decide) (isGreatestTotal_greatestTotal found) (by decide) hreadable
    exact ⟨_, hresult, rfl, hbuilt.length_eq.symm, rfl⟩

end SeriesCatalog.Catalog
