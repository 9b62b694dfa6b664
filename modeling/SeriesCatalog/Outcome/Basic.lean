import SeriesCatalog.Query.Basic
import SeriesCatalog.Reading
import SeriesCatalog.Series.Identity

/-! Outcomes of queries. An outcome grows while responses are read; only an outcome of kind `data` takes
entries, each in the collection of its sort and in the order of arrival. -/

namespace SeriesCatalog

/-- A name with the number of its documents, both as they were given. -/
abbrev NameCount := Json × Json

/-- A tag key with its count, and its values if they were asked for and found. -/
abbrev TagEntry := NameCount × Option (List NameCount)

/-- One entry of an outcome. -/
inductive Entry where
  | namespaceName (name : Json)
  | metric (metric : NameCount)
  | tagKeyOrValue (tag : NameCount)
  | tag (tag : TagEntry)
  | series (series : Series)

/-- The outcome of a query so far. -/
structure Outcome where
  kind : OutcomeKind
  query : Option Query
  exception : Option Fault
  total : Int
  namespaces : List Json
  metrics : List NameCount
  tagKeysOrValues : List NameCount
  tags : List TagEntry
  series : List Series

namespace Outcome

def start (kind : OutcomeKind) (query : Option Query) (exception : Option Fault) : Outcome :=
  ⟨kind, query, exception, 0, [], [], [], [], []⟩

/-- The outcome with one entry more, whatever its kind. -/
def push (o : Outcome) : Entry → Outcome
  | .namespaceName name => { o with namespaces := o.namespaces ++ [name] }
  | .metric metric => { o with metrics := o.metrics ++ [metric] }
  | .tagKeyOrValue tag => { o with tagKeysOrValues := o.tagKeysOrValues ++ [tag] }
  | .tag tag => { o with tags := o.tags ++ [tag] }
  | .series series => { o with series := o.series ++ [series] }

/-- Takes an entry; an outcome that is not of kind `data` refuses. -/
def add (o : Outcome) (entry : Entry) : Except Fault Outcome :=
  if o.kind = .data then .ok (o.push entry) else .error (.payloadRefused o.kind)

/-- Sets the total to the integer that a document denotes. -/
def setTotal (o : Outcome) (v : Json) : Except Fault Outcome :=
  v.integer.map fun total => { o with total }

/-! ### Taking over a reading -/

/-- The outcome after the entries it takes, and the fault of the first one it refuses. -/
def addAll (o : Outcome) : List Entry → Outcome × Option Fault
  | [] => (o, none)
  | entry :: rest =>
    match o.add entry with
    | .ok grown => grown.addAll rest
    | .error fault => (o, some fault)

/-- The running outcome of a query after a reading, and the fault that ended it. An outcome begins with the
first entry; one that a faulty reading began is dropped, one that was there keeps what it took. -/
def absorb (query : Query) (reading : Reading Entry) :
    Option Outcome → Option Outcome × Option Fault
  | some o =>
    match o.addAll reading.entries with
    | (grown, some fault) => (some grown, some fault)
    | (grown, none) => (some grown, reading.fault)
  | none =>
    match reading.fault, reading.entries with
    | some fault, _ => (none, some fault)
    | none, [] => (none, none)
    | none, entries => (some ((start .data (some query) none).addAll entries).1, none)

/-! ### As a document -/

def nameCountJson (entry : NameCount) : Json :=
  .obj [("name", entry.1), ("count", entry.2)]

/-- A tag key with its count and its values; null stands for values that are not there. -/
def tagJson (entry : TagEntry) : Json :=
  .obj [("key", entry.1.1), ("count", entry.1.2),
    ("values", match entry.2 with
      | some values => .arr (values.map nameCountJson)
      | none => .null)]

/-- The tags of an identity as one object. -/
def tagMap (i : Identity) : Members :=
  Assoc.byName (i.tags.map fun (key, value) => (key.memberName, value))

/-- A series with a metric as an object made of its metric and its tags, any other one as a text. -/
def seriesJson (tags : Identity → Json) (s : Series) : Json :=
  match s.identity? with
  | some i => .obj [("metric", i.metric), ("tags", tags i)]
  | none => .str s.text

/-- A collection as a member, left out when it is empty. -/
def collection {α : Type} (name : String) (toJson : α → Json) (entries : List α) : Members :=
  if entries.isEmpty then [] else [(name, .arr (entries.map toJson))]

/-- The outcome as a document, with the given forms of its exception and of the tags of a series. -/
def toJsonWith (exception : Fault → Json) (tags : Identity → Json) (o : Outcome) : Json :=
  .obj ([("result", .str o.kind.label), ("total_hits", .int o.total)]
    ++ (match o.exception with
      | some fault => [("exception", exception fault)]
      | none => [])
    ++ collection "namespaces" id o.namespaces
    ++ collection "metrics" nameCountJson o.metrics
    ++ collection "tag_keys_or_values" nameCountJson o.tagKeysOrValues
    ++ collection "tags" tagJson o.tags
    ++ collection "time_series" (seriesJson tags) o.series)

/-- The outcome as a document; the exception is its message, the tags of a series are one object. -/
def toJson (o : Outcome) : Json :=
  o.toJsonWith (fun fault => .ofString? fault.message?) (fun i => .obj (tagMap i))

def text (o : Outcome) : String :=
  s!"MetaDataStorageResult(result={o.kind.label}, total_hits={o.total})"

end Outcome

end SeriesCatalog
