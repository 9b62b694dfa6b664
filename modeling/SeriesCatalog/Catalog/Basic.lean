import SeriesCatalog.Interpreter.Basic
import SeriesCatalog.Outcome.Policy
import SeriesCatalog.Query.MetricName
import SeriesCatalog.Search.Cluster
import SeriesCatalog.Telemetry.Metrics

/-! The catalog: it turns queries into searches and the responses into outcomes. A dispatch has two halves
with the search between them. The first prepares what is submitted and may fail, which reaches the caller;
the second turns whatever the search gives into an outcome. A failed search is an outcome too, unless it
was cancelled, while a fault met in reading the responses reaches the caller. -/

namespace SeriesCatalog

/-- What a catalog is configured with: the ceiling that totals are compared with, the timeout that requests
carry unless it is blank, the size of the request for a source, and the fallback policy. The values are taken
as they were given. -/
structure CatalogConfig where
  maxCardinality : Json := .int 4096
  queryTimeout : Json := .str "5s"
  maxResults : Json := .int 4096
  fallback : FallbackPolicy := {}

/-- A catalog over one kind of documents. -/
structure Catalog where
  id : Json
  config : CatalogConfig
  builder : SeriesBuilder

/-- The source of a pipeline: a dotted metric, and a filter that is given or named. -/
structure Source where
  metric : Json
  filter : Filter := .absent
  filterId : Json := .null

/-- What goes out to a search: the request, its target and whatever the caller wants passed on. -/
structure Submission where
  request : Request
  target : String
  trace : Json

/-- A way of turning a query into a request. -/
abbrev RequestBuilder := Query → Except Fault Request

/-- The durations of the two parts of a dispatch that are timed. -/
structure Elapsed where
  search : Number := .int 0
  parse : Number := .int 0

/-- A prepared dispatch: the query, what is submitted for it, and the event that says so. -/
structure Prepared where
  query : Query
  submission : Submission
  event : Event

/-- How a dispatch went. There is no result while its search has none. -/
structure Dispatch where
  result : Option (Except Fault Outcome)
  built : List Query
  submissions : List Submission
  events : List Event
  ticks : List Tick

/-- The second half of a dispatch. -/
structure Conclusion where
  result : Except Fault Outcome
  events : List Event
  ticks : List Tick

/-- What happened before, put in front of a conclusion. -/
def Conclusion.after (events : List Event) (ticks : List Tick) (c : Conclusion) : Conclusion :=
  { c with events := events ++ c.events, ticks := ticks ++ c.ticks }

namespace Catalog

def typeName : String := "NamespacedAggregatedDocumentSchema"

def version : String := "3.0.0"

/-- A catalog with defaults for what is not given; a blank id counts as not given. -/
def make (id : Json) (config : Option CatalogConfig) (builder : SeriesBuilder) : Catalog :=
  ⟨id.orElse (.str typeName), config.getD {}, builder⟩

/-! ### Preparing -/

/-- The request with the envelope of the catalog: the given size, and the timeout of the configuration if
it has one. -/
def envelope (c : Catalog) (size : Json) (request : Request) : Request :=
  if c.config.queryTimeout.isBlank then { request with size }
  else { request with size, timeout := c.config.queryTimeout }

@[simp] theorem envelope_body (c : Catalog) (size : Json) (request : Request) :
    (c.envelope size request).body = request.body := by
  unfold envelope
  split <;> rfl

@[simp] theorem envelope_size (c : Catalog) (size : Json) (request : Request) :
    (c.envelope size request).size = size := by
  unfold envelope
  split <;> rfl

@[simp] theorem envelope_timeout (c : Catalog) (size : Json) (request : Request) :
    (c.envelope size request).timeout = c.config.queryTimeout.orElse request.timeout := by
  unfold envelope Json.orElse
  split <;> rfl

/-- The target of a query: every namespace for a query that lists namespaces, else its own. -/
def targetOf (q : Query) : String :=
  if q.kind = .namespaces then allNamespaces else Text.lower q.namespaceName

def prepareQuery (c : Catalog) (build : RequestBuilder) (q : Query) (size : Number) (trace : Json) :
    Except Fault Prepared := do
  let request := c.envelope size.toJson (← build q)
  .ok ⟨q, ⟨request, targetOf q, trace⟩, .querySubmitted q.kind (targetOf q) request.size⟩

/-- The filter of a source: the one given, else the one that the context has under its id. An id without a
filter is refused. -/
def sourceFilter (context : Json → Except Fault Filter) (s : Source) : Except Fault Filter :=
  if s.filter.isAbsent && !s.filterId.isBlank then do
    let found ← context s.filterId
    if found.isAbsent then .error (.unknownFilter s.filterId.text) else .ok found
  else .ok s.filter

/-- The query of a source: the series of its namespace that have its metric and pass its filter. -/
def sourceQuery (context : Json → Except Fault Filter) (s : Source) : Except Fault (MetricName × Query) := do
  let name ← MetricName.read s.metric
  let filter ← sourceFilter context s
  let query ← Query.build .timeSeries (.str name.namespaceName)
    (.allOf [.metricLiteral (.str name.metric), filter]) (.int 0) (.int 0)
  .ok (name, query)

def prepareSource (c : Catalog) (build : RequestBuilder) (name : MetricName) (q : Query) (trace : Json) :
    Except Fault Prepared := do
  let request := c.envelope c.config.maxResults (← build q)
  .ok ⟨q, ⟨request, name.namespaceName, trace⟩,
    .sourceSubmitted name.namespaceName name.metric request.size⟩

/-! ### Concluding -/

/-- An outcome that goes to the caller is counted and logged. -/
def finish (q : Query) (o : Outcome) : Conclusion :=
  ⟨.ok o, [.completed q.kind o.kind o.total], [.ofOutcome q.kind o.kind]⟩

def escape (fault : Fault) : Conclusion := ⟨.error fault, [], []⟩

def failedOutcome (kind : OutcomeKind) (q : Query) (fault : Fault) : Outcome :=
  .start kind (some q) (some fault)

/-- Turns the end of a query's search into its conclusion. -/
def concludeQuery (c : Catalog) (elapsed : Elapsed) (q : Query) :
    Except Fault (List Response) → Conclusion
  | .error fault =>
    if fault.isCancellation then escape fault
    else Conclusion.after [.queryFailed q.kind] [] (finish q (failedOutcome .exception q fault))
  | .ok batch =>
    Conclusion.after [] [.parsed elapsed.parse]
      (match Interpreter.readBatch c.builder q batch with
        | .error fault => escape fault
        | .ok found =>
          let outcome := found.getD (.start .noData (some q) none)
          finish q { outcome with total := greatestTotal batch })

def emptyOutcome (c : Catalog) (q : Query) (total : Int) : Outcome :=
  { Outcome.start c.config.fallback.noDataKind (some q) none with total }

/-- The first response of a batch that exceeds the ceiling. -/
def breach? (c : Catalog) : List Response → Except Fault (Option Response)
  | [] => .ok none
  | r :: rest => do
    if ← exceedsCeiling (.int r.total) c.config.maxCardinality then .ok (some r) else c.breach? rest

/-- The series of a batch for the metric of a source. -/
def readSource (c : Catalog) (metric : Json) (batch : List Response) : Reading Entry :=
  .concat (batch.map fun r => Interpreter.readSeries c.builder (some metric) r.hits)

/-- Turns a source's responses into a conclusion: too many documents and no documents are outcomes without
data, decided on the totals alone. -/
def resolve (c : Catalog) (elapsed : Elapsed) (q : Query) (metric : Json) (batch : List Response) :
    Conclusion :=
  match c.breach? batch with
  | .error fault => escape fault
  | .ok (some r) =>
    Conclusion.after [.tooManyHits r.total c.config.maxCardinality] [.breached]
      (finish q (c.emptyOutcome q r.total))
  | .ok none =>
    let total := greatestTotal batch
    if total ≤ 0 then finish q (c.emptyOutcome q total)
    else
      Conclusion.after [] [.parsed elapsed.parse]
        (match Outcome.absorb q (c.readSource metric batch) (some (.start .data (some q) none)) with
          | (_, some fault) => escape fault
          | (found, none) => finish q { found.getD (.start .data (some q) none) with total })

/-- Turns the end of a source's search into its conclusion. -/
def concludeSource (c : Catalog) (elapsed : Elapsed) (q : Query) (metric : Json) :
    Except Fault (List Response) → Conclusion
  | .error fault =>
    if fault.isCancellation then escape fault
    else
      Conclusion.after [.sourceFailed metric] []
        (finish q (failedOutcome c.config.fallback.exceptionKind q fault))
  | .ok batch => c.resolve elapsed q metric batch

/-! ### Whole dispatches -/

/-- A dispatch that fails before anything is submitted. -/
def refused (built : List Query) (fault : Fault) : Dispatch := ⟨some (.error fault), built, [], [], []⟩

/-- A prepared dispatch with its search and its second half. The search is timed however it ends. -/
def submit (search : Submission → Answer) (conclude : Except Fault (List Response) → Conclusion)
    (elapsed : Elapsed) (p : Prepared) : Dispatch :=
  let answer := search p.submission
  match answer.result with
  | none => ⟨none, [p.query], [p.submission], p.event :: answer.events, []⟩
  | some settled =>
    let last := conclude settled
    ⟨some last.result, [p.query], [p.submission], p.event :: answer.events ++ last.events,
      .searched elapsed.search :: last.ticks⟩

/-- Runs a query. One whose page has no size reaches no builder. -/
def runQuery (c : Catalog) (build : RequestBuilder) (search : Submission → Answer) (elapsed : Elapsed)
    (q : Query) (trace : Json) : Dispatch :=
  match q.size with
  | .error fault => refused [] fault
  | .ok size =>
    match c.prepareQuery build q size trace with
    | .error fault => refused [q] fault
    | .ok p => submit search (c.concludeQuery elapsed q) elapsed p

def runSource (c : Catalog) (build : RequestBuilder) (search : Submission → Answer) (elapsed : Elapsed)
    (context : Json → Except Fault Filter) (s : Source) (trace : Json) : Dispatch :=
  match sourceQuery context s with
  | .error fault => refused [] fault
  | .ok (name, q) =>
    match c.prepareSource build name q trace with
    | .error fault => refused [q] fault
    | .ok p => submit search (c.concludeSource elapsed q s.metric) elapsed p

end Catalog

end SeriesCatalog
