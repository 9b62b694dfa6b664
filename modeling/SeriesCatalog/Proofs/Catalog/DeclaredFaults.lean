import SeriesCatalog.Proofs.Catalog.Ceiling
import SeriesCatalog.Proofs.Catalog.Routing
import SeriesCatalog.Proofs.Interpreter.Legible

/-! Which faults the responses of a search can cause. A tree causes a mismatch of shapes and nothing else. The
documents of time series are not checked before they are taken apart, so that one that is not legible causes a fault
of kind; and only such a document does. -/

namespace SeriesCatalog

namespace Ask

/-- What the catalog is asked is answered from documents, not from a tree. -/
def readsDocuments : Ask → Bool
  | .query q => q.kind = .timeSeries
  | .source _ _ => true

/-- The metric that the series of all documents are for. -/
def metric? : Ask → Option Json
  | .query _ => none
  | .source _ s => some s.metric

end Ask

namespace Catalog

/-- The totals of a source's batch do not compare with the ceiling, as this is no number. -/
def Balks (c : Catalog) (batch : List Response) : Ask → Prop
  | .query _ => False
  | .source _ _ => batch ≠ [] ∧ c.config.maxCardinality.isNumber = false

/-- The documents of a batch are looked at: always for a query, and for a source if no total is above the ceiling and
one is above zero. -/
def Admits (c : Catalog) (batch : List Response) : Ask → Prop
  | .query _ => True
  | .source _ _ => (∀ r ∈ batch, c.isWithin r = true) ∧ 0 < greatestTotal batch

end Catalog

/-- How a call ends whose search has a batch: with an outcome or with a fault of one sort. Where it reads documents,
it has a fault exactly if one that it looks at is not legible. -/
structure EndsDeclared (c : Catalog) (ask : Ask) (batch : List Response) (result : Option (Except Fault Outcome)) :
    Prop where
  ends : (∃ o, result = some (.ok o)) ∨ ∃ fault, result = some (.error fault)
  ofTree : ask.readsDocuments = false → ∀ fault, result = some (.error fault) → fault.isMismatch = true
  ofDocuments : ask.readsDocuments = true → ∀ fault, result = some (.error fault) → fault.isOfKind = true
  raises_iff : ask.readsDocuments = true → ((∃ fault, result = some (.error fault)) ↔
    c.Balks batch ask ∨ c.Admits batch ask ∧ ∃ r ∈ batch, ∃ hit ∈ r.hits, ¬hit.IsLegible ask.metric?)

namespace Catalog

variable {c : Catalog} {q : Query} {batch : List Response} {fault : Fault}

/-! ### The faults of a batch -/

/-- Only a tree that is read can cause a mismatch, and it causes nothing else. -/
theorem isMismatch_of_failsOn {asked : Query} (hkind : q.kind ≠ .timeSeries)
    (h : c.FailsOn q batch fault (.query asked)) : fault.isMismatch = true := by
  obtain ⟨r, -, hr⟩ := List.exists_of_findSome?_eq_some h
  exact Interpreter.readResponse_mismatch hkind hr

theorem isOfKind_of_findSome? {metric : Option Json}
    (h : batch.findSome? (fun r => (Interpreter.readSeries Series.canonical metric r.hits).fault) = some fault) :
    fault.isOfKind = true := by
  obtain ⟨r, -, hr⟩ := List.exists_of_findSome?_eq_some h
  exact Interpreter.readSeries_ofKind hr

theorem exists_findSome?_illegible_iff (metric : Option Json) :
    (∃ fault, batch.findSome? (fun r => (Interpreter.readSeries Series.canonical metric r.hits).fault) = some fault) ↔
      ∃ r ∈ batch, ∃ hit ∈ r.hits, ¬hit.IsLegible metric := by
  simp only [Fallible.exists_findSome?_iff, Interpreter.exists_readSeries_fault_iff]

/-- The time series of a query are read from the documents, whatever the tree is. -/
theorem failsOn_timeSeries {asked : Query} (hbuilder : c.builder = Series.canonical) (hkind : q.kind = .timeSeries) :
    c.FailsOn q batch fault (.query asked) ↔
      batch.findSome? (fun r => (Interpreter.readSeries Series.canonical none r.hits).fault) = some fault := by
  rw [FailsOn, hbuilder, hkind]
  rfl

/-- A source fails with a fault of kind or with one of the building of its series. -/
theorem faultOf_failsOn_source {p : Fault → Prop} {context : Json → Except Fault Filter} {s : Source}
    (hkind : ∀ fault, fault.isOfKind = true → p fault)
    (hbuilder : ∀ metric tags, Fallible.FailsWith p (c.builder metric tags))
    (h : c.FailsOn q batch fault (.source context s)) : p fault := by
  obtain hbreach | ⟨-, -, hread⟩ := h
  · rw [breach?_eq] at hbreach
    split at hbreach
    · cases hbreach
    · obtain rfl := Except.error.inj hbreach
      exact hkind _ rfl
  · obtain ⟨r, -, hr⟩ := List.exists_of_findSome?_eq_some hread
    exact Interpreter.readSeries_failsWith hkind hbuilder hr

theorem isOfKind_of_failsOn {ask : Ask} (hbuilder : c.builder = Series.canonical)
    (hkind : ∀ asked, ask = .query asked → q.kind = .timeSeries) (h : c.FailsOn q batch fault ask) :
    fault.isOfKind = true := by
  cases ask with
  | query asked => exact isOfKind_of_findSome? ((failsOn_timeSeries hbuilder (hkind asked rfl)).mp h)
  | source context s =>
      have hseries : ∀ metric tags,
          Fallible.FailsWith (fun fault => fault.isOfKind = true) (c.builder metric tags) := by
        rw [hbuilder]
        exact Series.canonical_ofKind
      exact faultOf_failsOn_source (p := fun fault => fault.isOfKind = true) (fun _ hkind => hkind) hseries h

theorem exists_failsOn_iff {ask : Ask} (hbuilder : c.builder = Series.canonical)
    (hkind : ∀ asked, ask = .query asked → q.kind = .timeSeries) :
    (∃ fault, c.FailsOn q batch fault ask) ↔
      c.Balks batch ask ∨ c.Admits batch ask ∧ ∃ r ∈ batch, ∃ hit ∈ r.hits, ¬hit.IsLegible ask.metric? := by
  rw [← exists_findSome?_illegible_iff]
  cases ask with
  | query asked =>
      simp only [failsOn_timeSeries hbuilder (hkind asked rfl), Balks, Admits, Ask.metric?, false_or, true_and]
  | source context s =>
      rw [Balks, Admits, ← breach?_eq_error_iff, ← breach?_eq_none_iff]
      simp only [FailsOn, hbuilder, Ask.metric?, exists_or, exists_and_left, and_assoc]

/-! ### Whole dispatches -/

/-- Whatever the responses of a search contain, the call ends with an outcome or with a fault of the sort that it may
have. -/
theorem dispatch_endsDeclared {build : RequestBuilder} {search : Submission → Answer} {trace : Json} {ask : Ask}
    {p : Prepared} (elapsed : Elapsed) (hbuilder : c.builder = Series.canonical)
    (hprepare : c.prepare build trace ask = .ok p) (hsearch : (search p.submission).result = some (.ok batch)) :
    EndsDeclared c ask batch (c.dispatch build search elapsed trace ask).result := by
  have hresult : (c.dispatch build search elapsed trace ask).result =
      some (c.conclude elapsed p.query ask (.ok batch)).result := by
    rw [dispatch_result, hprepare]
    simp only [hsearch, Option.map_some]
  have herror : ∀ fault, (c.dispatch build search elapsed trace ask).result = some (.error fault) ↔
      c.FailsOn p.query batch fault ask := by
    intro fault
    rw [hresult, Option.some.injEq, conclude_batch_eq_error_iff]
  have hkind : ask.readsDocuments = true → ∀ asked, ask = .query asked → p.query.kind = .timeSeries := by
    rintro hreads asked rfl
    obtain ⟨size, request, -, -, rfl⟩ := prepare_query_eq_ok hprepare
    exact of_decide_eq_true hreads
  exact {
    ends := by
      rw [hresult]
      cases (c.conclude elapsed p.query ask (.ok batch)).result with
      | ok o => exact .inl ⟨o, rfl⟩
      | error fault => exact .inr ⟨fault, rfl⟩
    ofTree := by
      intro hreads fault hfault
      cases ask with
      | source context s => cases hreads
      | query asked =>
          have hother : p.query.kind ≠ .timeSeries := by
            obtain ⟨size, request, -, -, rfl⟩ := prepare_query_eq_ok hprepare
            exact of_decide_eq_false hreads
          exact isMismatch_of_failsOn hother ((herror fault).mp hfault)
    ofDocuments := fun hreads fault hfault => isOfKind_of_failsOn hbuilder (hkind hreads) ((herror fault).mp hfault)
    raises_iff := by
      intro hreads
      simp only [herror]
      exact exists_failsOn_iff hbuilder (hkind hreads) }

/-- A document whose tags are a number ends a query of time series and a source with a fault of kind, and is not looked
at by a query of metrics, whose tree has a mismatch of its own. Without tags the document is legible. -/
theorem dispatch_endsDeclared_of_tags :
    let c : Catalog := ⟨.null, {}, Series.canonical⟩
    let build : RequestBuilder := fun _ => .ok {}
    let query (kind : QueryKind) : Ask := .query ⟨kind, "sys", .absent, .int 0, .int 10⟩
    let source : Ask := .source (fun _ => .ok .absent) { metric := .str "Sys.Cpu" }
    let hit (tags : Json) : Hit := ⟨.obj [("tags", tags)], .null⟩
    let tagged (tags : Json) : Response := ⟨1, some [("metric_agg", .terms [])], [hit tags], .null⟩
    let run (ask : Ask) (tags : Json) : Option (Except Fault Outcome) :=
      (c.dispatch build (fun _ => ⟨some (.ok [tagged tags]), [], [], []⟩) {} .null ask).result
    (∃ fault, run (query .timeSeries) (.int 5) = some (.error fault) ∧ fault.isOfKind = true) ∧
    (∃ fault, run source (.int 5) = some (.error fault) ∧ fault.isOfKind = true) ∧
    (∃ fault, run (query .metrics) (.int 5) = some (.error fault) ∧ fault.isMismatch = true) ∧
    ∃ o, run source .null = some (.ok o) := by
  intro c build query source hit tagged run
  have hquery : ∀ kind tags, EndsDeclared c (query kind) [tagged tags] (run (query kind) tags) := fun kind tags =>
    dispatch_endsDeclared {} rfl (rfl : c.prepare build .null (query kind) = .ok _) rfl
  obtain ⟨p, hp⟩ : ∃ p, c.prepare build .null source = .ok p := ⟨_, rfl⟩
  have hsource : ∀ tags, EndsDeclared c source [tagged tags] (run source tags) := fun tags =>
    dispatch_endsDeclared {} rfl hp rfl
  have hadmits : ∀ tags, c.Admits [tagged tags] source := fun tags =>
    ⟨List.forall_mem_singleton.mpr rfl, Int.zero_lt_one⟩
  have hillegible : ∀ metric, ¬(hit (.int 5)).IsLegible metric := by
    intro metric hlegible
    obtain hblank | ⟨items, harray, -⟩ := hlegible.tags
    · cases hblank
    · cases harray
  have hread : ∀ metric, ∃ r ∈ [tagged (.int 5)], ∃ hit ∈ r.hits, ¬hit.IsLegible metric := fun metric =>
    ⟨_, List.mem_singleton_self _, _, List.mem_singleton_self _, hillegible metric⟩
  refine ⟨?_, ?_, ?_, ?_⟩
  · obtain ⟨fault, hfault⟩ := ((hquery .timeSeries (.int 5)).raises_iff rfl).mpr (.inr ⟨trivial, hread none⟩)
    exact ⟨fault, hfault, (hquery .timeSeries (.int 5)).ofDocuments rfl fault hfault⟩
  · obtain ⟨fault, hfault⟩ := ((hsource (.int 5)).raises_iff rfl).mpr (.inr ⟨hadmits _, hread source.metric?⟩)
    exact ⟨fault, hfault, (hsource (.int 5)).ofDocuments rfl fault hfault⟩
  · exact ⟨_, rfl, (hquery .metrics (.int 5)).ofTree rfl _ rfl⟩
  · have hlegible : (hit .null).IsLegible source.metric? :=
      ⟨.inr rfl, .inl rfl, nofun, fun _ => ⟨List.forall_mem_nil _, rfl⟩⟩
    rcases (hsource .null).ends with hreturned | hraised
    · exact hreturned
    · obtain ⟨-, hceiling⟩ | ⟨-, r, hr, h, hh, hnot⟩ := ((hsource .null).raises_iff rfl).mp hraised
      · cases hceiling
      · obtain rfl := List.mem_singleton.mp hr
        obtain rfl := List.mem_singleton.mp hh
        exact absurd hlegible hnot

/-- A document that a search accepts can cause another fault than a mismatch. -/
theorem not_forall_isMismatch :
    ¬∀ (payload : Json) (r : Response) (q : Query) (size : Number), Response.read payload = .ok r → q.size = .ok size →
      ∀ fault, ((⟨.null, {}, Series.canonical⟩ : Catalog).runQuery (fun _ => .ok {})
        (fun _ => ⟨some (.ok [r]), [], [], []⟩) {} q .null).result = some (.error fault) → fault.isMismatch = true := by
  intro h
  have hmismatch := h
    (.obj [("hits", .obj [("total", .int 1),
      ("hits", .arr [.obj [("_source", .obj [("tags", .int 5)])]])])])
    _ ⟨.timeSeries, "sys", .absent, .int 0, .int 10⟩ _ rfl rfl .wrongKind rfl
  cases hmismatch

end Catalog

end SeriesCatalog
