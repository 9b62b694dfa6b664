import SeriesCatalog.Proofs.Catalog.EndToEnd

/-! What a batch reduces to, told collection by collection. The collection of the query's kind has what each
response holds for it, one response after the other, and the other collections stay empty. An outcome has data if
any of them holds something, while its total is the greatest of the batch whether or not the response of that
total holds anything. -/

namespace SeriesCatalog

/-! ### What a response holds -/

namespace Response

open Interpreter AggregationName

/-- The tree of a response; without aggregations it is empty. -/
def tree (r : Response) : Aggregations := r.aggregations.getD []

@[simp] def namespacesFor : QueryKind → Response → List Json
  | .namespaces, r => (bucketsAt namespaces r.tree).map fun b => .str b.key
  | _, _ => []

@[simp] def metricsFor : QueryKind → Response → List NameCount
  | .metrics, r => (wrappedBuckets metrics uniqueMetrics r.tree).map fun b => (.str b.key, .int b.count)
  | _, _ => []

@[simp] def tagKeysOrValuesFor : QueryKind → Response → List NameCount
  | .tagKeys, r => (wrappedBuckets tagKeys uniqueTagKeys r.tree).map fun b => (.str b.key, .int b.count)
  | .tagValues, r => (wrappedBuckets tagValues uniqueTagValues r.tree).map fun b => (.str b.key, .int b.count)
  | _, _ => []

@[simp] def tagsFor : QueryKind → Response → List TagEntry
  | .tagKeysAndValues, r =>
    (wrappedBuckets tags uniqueTags r.tree).map fun b => ((.str b.key, .int b.count), valuesBelow b.subs)
  | _, _ => []

/-- Each metric of each document, with all tags of the document. -/
def identitiesFor : QueryKind → Response → List (Json × List Pair)
  | .timeSeries, r => r.hits.flatMap Hit.identities
  | _, _ => []

end Response

/-- The outcome is what a batch reduces to for a query. -/
structure IsReduction (builder : SeriesBuilder) (q : Query) (batch : List Response) (o : Outcome) : Prop where
  namespaces : o.namespaces = batch.flatMap (·.namespacesFor q.kind)
  metrics : o.metrics = batch.flatMap (·.metricsFor q.kind)
  tagKeysOrValues : o.tagKeysOrValues = batch.flatMap (·.tagKeysOrValuesFor q.kind)
  tags : o.tags = batch.flatMap (·.tagsFor q.kind)
  series : AreBuilt builder (batch.flatMap (·.identitiesFor q.kind)) o.series
  belongs : ∀ e ∈ o.payload, e.belongsTo q.kind = true
  kind : o.kind = if o.payload = [] then .noData else .data
  total : IsGreatestTotal batch o.total
  query : o.query = some q
  exception : o.exception = none

/-- A batch reduces to one outcome. -/
theorem IsReduction.unique {builder : SeriesBuilder} {q : Query} {batch : List Response} {o other : Outcome}
    (h : IsReduction builder q batch o) (hother : IsReduction builder q batch other) : o = other := by
  have hcollections : o.collections = other.collections := by
    rw [Outcome.collections, Outcome.collections, h.namespaces, h.metrics, h.tagKeysOrValues, h.tags,
      h.series.unique hother.series, hother.namespaces, hother.metrics, hother.tagKeysOrValues, hother.tags]
  have hpayload : o.payload = other.payload := by
    simp only [Outcome.collections, Prod.mk.injEq] at hcollections
    simp only [Outcome.payload, hcollections]
  have hhead : o.head = other.head := by
    rw [Outcome.head, Outcome.head, h.kind, h.query, h.exception, h.total.unique hother.total, hpayload,
      hother.kind, hother.query, hother.exception]
  -- an outcome is its collections and its head
  simp only [Outcome.collections, Outcome.head, Prod.mk.injEq] at hcollections hhead
  cases o
  cases other
  simp_all only

/-! ### Reducing -/

namespace Interpreter

/-- What a response holds goes to the collections that the kind of the query says. -/
theorem Holds.collectionsOf_eq {builder : SeriesBuilder} {kind : QueryKind} {r : Response} {entries : List Entry}
    (h : Holds builder r kind entries) :
    ∃ series, AreBuilt builder (r.identitiesFor kind) series ∧
      collectionsOf entries =
        (r.namespacesFor kind, r.metricsFor kind, r.tagKeysOrValuesFor kind, r.tagsFor kind, series) := by
  cases kind with
  | timeSeries =>
      obtain ⟨series, hbuilt, rfl⟩ := h
      refine ⟨series, hbuilt, ?_⟩
      simp [collectionsOf, List.filterMap_map, Function.comp_def]
  | _ =>
      obtain rfl : entries = treeEntries _ r.tree := h
      refine ⟨[], .nil, ?_⟩
      simp [collectionsOf, treeEntries, List.filterMap_map, Function.comp_def]

/-- What the responses of a batch hold stays in the order of the batch within each collection. -/
theorem collectionsOf_flatMap {builder : SeriesBuilder} {kind : QueryKind} {batch : List Response}
    (h : ∀ r ∈ batch, (readResponse builder kind r).fault = none) :
    ∃ series, AreBuilt builder (batch.flatMap (·.identitiesFor kind)) series ∧
      collectionsOf (batch.flatMap fun r => (readResponse builder kind r).entries) =
        (batch.flatMap (·.namespacesFor kind), batch.flatMap (·.metricsFor kind),
          batch.flatMap (·.tagKeysOrValuesFor kind), batch.flatMap (·.tagsFor kind), series) := by
  induction batch with
  | nil => exact ⟨[], .nil, rfl⟩
  | cons r rest ih =>
      obtain ⟨hr, hrest⟩ := List.forall_mem_cons.mp h
      obtain ⟨first, hfirst, hheld⟩ := (readResponse_holds hr).collectionsOf_eq
      obtain ⟨more, hmore, hothers⟩ := ih hrest
      refine ⟨first ++ more, ?_, ?_⟩
      · rw [List.flatMap_cons]
        exact List.rel_append hfirst hmore
      · simp only [collectionsOf, Prod.mk.injEq] at hheld hothers
        simp only [collectionsOf, List.flatMap_cons, List.filterMap_append, hheld, hothers]

end Interpreter

namespace Catalog

theorem isReduction_outcomeOf {builder : SeriesBuilder} {q : Query} {batch : List Response}
    (h : ∀ r ∈ batch, (Interpreter.readResponse builder q.kind r).fault = none) :
    IsReduction builder q batch
      (outcomeOf q (batch.flatMap fun r => (Interpreter.readResponse builder q.kind r).entries)
        (greatestTotal batch)) := by
  have hbelongs := Interpreter.belongsTo_of_complete h
  generalize hentries : (batch.flatMap fun r => (Interpreter.readResponse builder q.kind r).entries) = entries
    at hbelongs ⊢
  have hpayload := payload_outcomeOf (greatestTotal batch) hbelongs
  have hhead := head_outcomeOf q entries (greatestTotal batch)
  obtain ⟨series, hbuilt, hcollections⟩ := Interpreter.collectionsOf_flatMap h
  rw [hentries, ← hpayload, Outcome.collectionsOf_payload] at hcollections
  simp only [Outcome.collections, Prod.mk.injEq] at hcollections
  obtain ⟨hnamespaces, hmetrics, hkeys, htags, hseries⟩ := hcollections
  simp only [Outcome.head, Prod.mk.injEq] at hhead
  obtain ⟨hkind, hquery, hexception, htotal⟩ := hhead
  exact {
    namespaces := hnamespaces
    metrics := hmetrics
    tagKeysOrValues := hkeys
    tags := htags
    series := hseries ▸ hbuilt
    belongs := fun e he => hbelongs e (hpayload ▸ he)
    kind := by rw [hkind, hpayload]
    total := by
      rw [htotal]
      exact isGreatestTotal_greatestTotal batch
    query := hquery
    exception := hexception }

/-- A query whose search has a batch that is read without a fault has the outcome that the batch reduces to, and
that outcome only. -/
theorem runQuery_reduction {c : Catalog} {build : RequestBuilder} {search : Submission → Answer} {q : Query}
    {size : Number} {request : Request} {batch : List Response} (elapsed : Elapsed) (trace : Json)
    (hsize : q.size = .ok size) (hbuild : build q = .ok request)
    (hsearch : (search ⟨c.envelope size.toJson request, targetOf q, trace⟩).result = some (.ok batch))
    (hcomplete : ∀ r ∈ batch, (Interpreter.readResponse c.builder q.kind r).fault = none) :
    ∃ o, (c.runQuery build search elapsed q trace).result = some (.ok o) ∧ IsReduction c.builder q batch o ∧
      ∀ other, IsReduction c.builder q batch other → other = o := by
  have hreduction := isReduction_outcomeOf hcomplete
  exact ⟨_, runQuery_of_batch elapsed trace hsize hbuild hsearch hcomplete, hreduction,
    fun other hother => hother.unique hreduction⟩

/-- Only the third of four responses has metrics in a wrapper that has documents, and the last one has the greatest
total; the documents of a second batch list three metrics, and its totals are all negative. -/
theorem runQuery_reduction_of_mixed :
    let c : Catalog := ⟨.null, {}, Series.canonical⟩
    let build : RequestBuilder := fun _ => .ok {}
    let search (batch : List Response) : Submission → Answer := fun _ => ⟨some (.ok batch), [], [], []⟩
    let query (kind : QueryKind) : Query := ⟨kind, "sys", .absent, .int 0, .int 10⟩
    let wrapped (count : Int) : Aggregations :=
      [("metric_agg", .nested count [("unique_metrics", .terms [.mk "cpu" 5 [], .mk "mem" 3 []])])]
    let mixed : List Response :=
      [⟨-3, none, [], .null⟩, ⟨4, some (wrapped 0), [], .null⟩, ⟨1, some (wrapped 2), [], .null⟩,
        ⟨9, some [("ns_agg", .terms [.mk "sys" 1 []])], [], .null⟩]
    let listing (metrics : List String) : Hit :=
      ⟨.obj [("AM_nested", .arr (metrics.map fun name => .obj [("name.raw", .str name)]))], .null⟩
    let negative : List Response :=
      [⟨-7, none, [listing ["cpu", "mem"], listing []], .null⟩, ⟨-2, none, [listing ["cpu"]], .null⟩]
    (∃ o, (c.runQuery build (search mixed) {} (query .metrics) .null).result = some (.ok o) ∧
      o.metrics = [(.str "cpu", .int 5), (.str "mem", .int 3)] ∧ o.namespaces = [] ∧ o.kind = .data ∧ o.total = 9) ∧
    ∃ o, (c.runQuery build (search negative) {} (query .timeSeries) .null).result = some (.ok o) ∧
      o.series.length = 3 ∧ o.metrics = [] ∧ o.kind = .data ∧ o.total = -2 := by
  intro c build search query wrapped mixed listing negative
  have hsize : ∀ kind, (query kind).size = .ok (.int (10 - 0)) := fun _ => Query.size_of_int rfl rfl
  have hbuild : ∀ kind, build (query kind) = .ok {} := fun _ => rfl
  constructor
  · have hcomplete : ∀ r ∈ mixed, (Interpreter.readResponse c.builder (query .metrics).kind r).fault = none := by
      simp only [mixed, List.forall_mem_cons]
      exact ⟨rfl, rfl, rfl, rfl, nofun⟩
    obtain ⟨o, hresult, hreduction, -⟩ :=
      runQuery_reduction {} .null (hsize .metrics) (hbuild .metrics) (rfl : (search mixed _).result = _) hcomplete
    have hmetrics : o.metrics = [(.str "cpu", .int 5), (.str "mem", .int 3)] := hreduction.metrics
    refine ⟨o, hresult, hmetrics, hreduction.namespaces, ?_,
      hreduction.total.unique (isGreatestTotal_greatestTotal mixed)⟩
    rw [hreduction.kind, if_neg (by simp [Outcome.payload, hmetrics])]
  · have hcomplete : ∀ r ∈ negative,
        (Interpreter.readResponse c.builder (query .timeSeries).kind r).fault = none := by
      simp only [negative, List.forall_mem_cons]
      exact ⟨rfl, rfl, nofun⟩
    obtain ⟨o, hresult, hreduction, -⟩ :=
      runQuery_reduction {} .null (hsize .timeSeries) (hbuild .timeSeries) (rfl : (search negative _).result = _)
        hcomplete
    have hseries : o.series.length = 3 := hreduction.series.length_eq.symm
    refine ⟨o, hresult, hseries, hreduction.metrics, ?_,
      hreduction.total.unique (isGreatestTotal_greatestTotal negative)⟩
    have hsome : o.series ≠ [] := List.ne_nil_of_length_pos (by rw [hseries]; decide)
    rw [hreduction.kind, if_neg (by simp [Outcome.payload, hsome])]

end Catalog

end SeriesCatalog
