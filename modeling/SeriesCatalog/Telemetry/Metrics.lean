import SeriesCatalog.Json.Access
import SeriesCatalog.Number.Basic
import SeriesCatalog.Outcome.Kind
import SeriesCatalog.Query.Kind

/-! Counters and histograms of the catalog. A histogram counts an observation in every bucket whose bound it
does not exceed, the last bucket being without bound. Counting itself is done by `prometheus_client`, a library
outside the catalog, for which counters and histograms stand here as far as their samples go. What is proved of them
is how many observations each has, whatever the bounds are. -/

namespace SeriesCatalog

/-- Something to be counted. -/
inductive Tick where
  | searched (seconds : Number)
  | parsed (seconds : Number)
  | finished (kind result : String)
  | breached

def Tick.ofOutcome (kind : QueryKind) (result : OutcomeKind) : Tick :=
  .finished kind.label result.label

/-- The measure that a document gives: a number that fits double precision. -/
def Tick.readMeasure (v : Json) : Except Fault Number :=
  match Number.ofJson? v with
  | some n => if n.toDouble?.isSome then .ok n else .error .outOfRange
  | none => .error .wrongKind

/-- A finished query, by the kind and the result that a document lists. -/
def Tick.readFinished (v : Json) : Except Fault Tick := do
  match ← v.items with
  | [kind, result] => .ok (.finished kind.text result.text)
  | _ => .error .wrongKind

/-- The observations of a histogram between each bound and the one below it, and those above all bounds. -/
structure Histogram where
  buckets : List (Double × Nat)
  beyond : Nat

namespace Histogram

def ofBounds (bounds : List Double) : Histogram := ⟨bounds.map (·, 0), 0⟩

/-- Counts an observation at the first bound that is not below it, if there is one. -/
def countAt (x : Number) : List (Double × Nat) → Option (List (Double × Nat))
  | [] => none
  | (bound, n) :: rest =>
    if x.le (.real bound) then some ((bound, n + 1) :: rest)
    else (countAt x rest).map ((bound, n) :: ·)

/-- Counts an observation. A NaN is in no bucket. -/
def observe (h : Histogram) (x : Number) : Histogram :=
  match countAt x h.buckets with
  | some buckets => { h with buckets }
  | none => if x.le x then { h with beyond := h.beyond + 1 } else h

def count (h : Histogram) : Nat := h.buckets.foldr (fun (_, n) total => n + total) h.beyond

/-- The numbers of observations up to each bound, given those below the first. -/
def cumulate (below : Nat) : List (Double × Nat) → List (Double × Nat)
  | [] => []
  | (bound, n) :: rest => (bound, below + n) :: cumulate (below + n) rest

end Histogram

/-- The counters and histograms of a process. -/
structure Metrics where
  search : Histogram
  parse : Histogram
  outcomes : List ((String × String) × Nat)
  breaches : Nat

namespace Metrics

/-- A bound given as `digits * 10 ^ exponent`. -/
def bound (digits : Nat) (exponent : Int) : Double := Double.ofDecimal false digits exponent

/-- The bounds for searches: 5, 10, 50, 100 and 500 milliseconds, 1 and 5 seconds. -/
def searchBounds : List Double :=
  [bound 5 (-3), bound 1 (-2), bound 5 (-2), bound 1 (-1), bound 5 (-1), bound 1 0, bound 5 0]

/-- The bounds for reading replies: 0.5, 1, 5, 10, 50, 100 and 500 milliseconds. -/
def parseBounds : List Double :=
  [bound 5 (-4), bound 1 (-3), bound 5 (-3), bound 1 (-2), bound 5 (-2), bound 1 (-1), bound 5 (-1)]

def start : Metrics := ⟨.ofBounds searchBounds, .ofBounds parseBounds, [], 0⟩

def countLabels (labels : String × String) :
    List ((String × String) × Nat) → List ((String × String) × Nat)
  | [] => [(labels, 1)]
  | (held, n) :: rest =>
    if held = labels then (held, n + 1) :: rest else (held, n) :: countLabels labels rest

def count (m : Metrics) : Tick → Metrics
  | .searched seconds => { m with search := m.search.observe seconds }
  | .parsed seconds => { m with parse := m.parse.observe seconds }
  | .finished kind result => { m with outcomes := countLabels (kind, result) m.outcomes }
  | .breached => { m with breaches := m.breaches + 1 }

def countAll (m : Metrics) (ticks : List Tick) : Metrics := ticks.foldl count m

/-! ### Samples -/

/-- A named value with its labels. -/
structure Sample where
  name : String
  labels : List (String × String)
  value : Nat
  deriving DecidableEq

/-- The samples of the buckets of a histogram. -/
def bucketSamples (name : String) (h : Histogram) : List Sample :=
  (Histogram.cumulate 0 h.buckets).map (fun (bound, n) => ⟨name ++ "_bucket", [("le", bound.text)], n⟩)
    ++ [⟨name ++ "_bucket", [("le", "+Inf")], h.count⟩]

/-- The name of the histogram of searches, and of that of reading replies. -/
def searchName : String := "tsmeta_search_duration_seconds"
def parseName : String := "tsmeta_parse_duration_seconds"

def buckets (m : Metrics) : List Sample :=
  bucketSamples searchName m.search ++ bucketSamples parseName m.parse

/-- The samples of all counters and of the numbers of observations. -/
def totals (m : Metrics) : List Sample :=
  [⟨searchName ++ "_count", [], m.search.count⟩, ⟨parseName ++ "_count", [], m.parse.count⟩,
    ⟨"tsmeta_cardinality_breaches_total", [], m.breaches⟩]
    ++ m.outcomes.map fun ((kind, result), n) =>
      ⟨"tsmeta_query_outcomes_total", [("query_type", kind), ("result", result)], n⟩

/-- The labels of a sample as one text. -/
def Sample.labelText (s : Sample) : String :=
  ", ".intercalate (s.labels.map fun (name, value) => name ++ "=" ++ value)

/-- Before another sample: by name, then by labels. -/
def Sample.before (a b : Sample) : Bool :=
  decide (a.name < b.name) || (a.name == b.name && decide (a.labelText < b.labelText))

/-- Puts a sample in front of the first one that it is before. -/
def insertSample (s : Sample) : List Sample → List Sample
  | [] => [s]
  | head :: rest => if s.before head then s :: head :: rest else head :: insertSample s rest

/-- The samples in the order of their names and labels. -/
def sortSamples (samples : List Sample) : List Sample :=
  samples.foldl (fun sorted s => insertSample s sorted) []

/-- The value that a list of samples has under a name and labels, zero if it has none. -/
def valueOf (samples : List Sample) (s : Sample) : Nat :=
  match samples.find? fun t => t.name == s.name && t.labels == s.labels with
  | some t => t.value
  | none => 0

/-- By how much the samples of the second list have grown, in order and without those that have not. -/
def growth (before after : List Sample) : List Sample :=
  sortSamples (after.filterMap fun s =>
    let grown := s.value - valueOf before s
    if grown = 0 then none else some { s with value := grown })

end Metrics

end SeriesCatalog
