import SeriesCatalog.Outcome.Basic
import SeriesCatalog.Response.Basic

/-! Reading the entries of a query from a response. Each kind of query but one has an aggregation of its own
at the top of the tree, and its reader expects one shape at each place it looks at; the time series are
rebuilt from the documents. A place it does not look at may have any shape. -/

namespace SeriesCatalog.Interpreter

/-- The shared value of a bucket with the number of its documents. -/
def nameCountOf (b : Bucket) : NameCount := (.str b.key, .int b.count)

/-- The fault of a node that has not the expected shape. -/
def mismatch (name : String) (expected : Shape) (node : Aggregation) : Fault :=
  .shapeMismatch name expected node.shape.label

/-- The buckets of a node that has to be terms. -/
def termsOf (name : String) : Aggregation → Except Fault (List Bucket)
  | .terms buckets => .ok buckets
  | node => .error (mismatch name .terms node)

/-- The buckets of the terms inside a node that has to be a nested wrapper. A wrapper of no documents, or
without those terms, has none. -/
def uniqueTerms (name unique : String) : Aggregation → Except Fault (List Bucket)
  | .nested count subs =>
    if count ≤ 0 then .ok []
    else
      match subs.lookup unique with
      | some node => termsOf unique node
      | none => .ok []
  | node => .error (mismatch name .nested node)

/-- The values of a tag key: those of the terms inside its filter, if the filter matches a document and has
those terms. -/
def tagValuesOf (subs : Aggregations) : Except Fault (Option (List NameCount)) :=
  match subs.lookup AggregationName.tagsSub with
  | none => .ok none
  | some (.filter count inner) =>
    match inner.lookup AggregationName.uniqueTagsSub with
    | none => .ok none
    | some node =>
      if count < 1 then .ok none
      else (termsOf AggregationName.uniqueTagsSub node).map fun buckets =>
        some (buckets.map nameCountOf)
  | some node => .error (mismatch AggregationName.tagsSub .filter node)

/-- A complete reading of buckets, or the fault that prevented it. -/
def ofBuckets (entry : Bucket → Entry) : Except Fault (List Bucket) → Reading Entry
  | .ok buckets => .ofList (buckets.map entry)
  | .error fault => .failed fault

def readNamespaces (node : Aggregation) : Reading Entry :=
  ofBuckets (fun b => .namespaceName (.str b.key)) (termsOf AggregationName.namespaces node)

def readMetrics (node : Aggregation) : Reading Entry :=
  ofBuckets (fun b => .metric (nameCountOf b))
    (uniqueTerms AggregationName.metrics AggregationName.uniqueMetrics node)

def readTagKeys (node : Aggregation) : Reading Entry :=
  ofBuckets (fun b => .tagKeyOrValue (nameCountOf b))
    (uniqueTerms AggregationName.tagKeys AggregationName.uniqueTagKeys node)

def readTagValues (node : Aggregation) : Reading Entry :=
  ofBuckets (fun b => .tagKeyOrValue (nameCountOf b))
    (uniqueTerms AggregationName.tagValues AggregationName.uniqueTagValues node)

/-- The tag keys of a node with their values. -/
def readTags (node : Aggregation) : Reading Entry :=
  match uniqueTerms AggregationName.tags AggregationName.uniqueTags node with
  | .ok buckets =>
    .collect (fun b => (tagValuesOf b.subs).map fun values => [.tag (nameCountOf b, values)]) buckets
  | .error fault => .failed fault

/-! ### Time series -/

/-- The field that lists the tags of a document, and those of a tag. -/
def tagsField : String := "tags"
def tagKeyField : String := "key.raw"
def tagValueField : String := "value.raw"

/-- The field that lists the metrics of a document, and that of their names. -/
def metricsField : String := "AM_nested"
def metricNameField : String := "name.raw"

/-- The key and the value of a tag of a document. -/
def readTag (tag : Json) : Except Fault Pair := do
  .ok (← tag.member tagKeyField, ← tag.member tagValueField)

/-- The list under a field of a document; blank is empty. -/
def listField (name : String) (source : Json) : Except Fault (List Json) := do
  ((← source.member name).orElse (.arr [])).items

/-- The time series of a document. Each has all tags of the document; with a given metric there is one, and
otherwise one for each metric of the document. -/
def seriesOf (builder : SeriesBuilder) (metric : Option Json) (hit : Hit) : Except Fault (List Series) := do
  let source := hit.source.orElse (.obj [])
  let tags ← (← listField tagsField source).mapM readTag
  match metric with
  | some name => .ok [← builder name tags]
  | none => (← listField metricsField source).mapM fun entry => do builder (← entry.member metricNameField) tags

/-- The time series of documents, one document after the other. -/
def readSeries (builder : SeriesBuilder) (metric : Option Json) (hits : List Hit) : Reading Entry :=
  .collect (fun hit => (seriesOf builder metric hit).map (·.map .series)) hits

/-! ### Responses -/

/-- The aggregation that a kind of query reads, with its reader; time series have none. -/
def ofKind : QueryKind → Option (String × (Aggregation → Reading Entry))
  | .namespaces => some (AggregationName.namespaces, readNamespaces)
  | .metrics => some (AggregationName.metrics, readMetrics)
  | .tagKeys => some (AggregationName.tagKeys, readTagKeys)
  | .tagValues => some (AggregationName.tagValues, readTagValues)
  | .tagKeysAndValues => some (AggregationName.tags, readTags)
  | .timeSeries => none

/-- The entries of a response for a kind of query. A response without the aggregation has none. -/
def readResponse (builder : SeriesBuilder) (kind : QueryKind) (r : Response) : Reading Entry :=
  match ofKind kind with
  | none => readSeries builder none r.hits
  | some (name, read) =>
    match r.aggregations.bind (·.lookup name) with
    | some node => read node
    | none => .empty

/-- The outcome of a batch of responses, if any of them has an entry. -/
def readBatch (builder : SeriesBuilder) (query : Query) (batch : List Response) :
    Except Fault (Option Outcome) :=
  match Outcome.absorb query (.concat (batch.map (readResponse builder query.kind))) none with
  | (_, some fault) => .error fault
  | (outcome, none) => .ok outcome

end SeriesCatalog.Interpreter
