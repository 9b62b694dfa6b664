import SeriesCatalog.Json.Access
import SeriesCatalog.Json.Order

/-! Identities of time series: a metric with its tags. Of two tags with one key the later wins, and the tags
of an identity are in the order of their keys, so that it does not depend on how a document lists them. -/

namespace SeriesCatalog

/-- A pair of documents, as a tag or an entry. -/
abbrev Pair := Json × Json

/-- A metric with its tags. -/
structure Identity where
  metric : Json
  tags : List Pair

namespace Identity

/-- Puts a pair behind the pairs with smaller keys, which are found by halves. -/
def insertByKey (tag : Pair) (sorted : List Pair) : List Pair :=
  let half := sorted.length / 2
  if h : half < sorted.length then
    if Json.keyLt tag.1 sorted[half].1 then insertByKey tag (sorted.take half) ++ sorted.drop half
    else sorted.take (half + 1) ++ insertByKey tag (sorted.drop (half + 1))
  else [tag]
termination_by sorted.length
decreasing_by
  all_goals
    simp only [List.length_take, List.length_drop]
    omega

/-- The pairs after `last` as long as each key is smaller than the one before it, or as long as none is, and
the others. -/
def splitRun (falling : Bool) (last : Pair) : List Pair → List Pair × List Pair
  | [] => ([], [])
  | tag :: rest =>
    if Json.keyLt tag.1 last.1 = falling then
      let (run, others) := splitRun falling tag rest
      (tag :: run, others)
    else ([], tag :: rest)

/-- The pairs in the order of their keys. The run that a list begins with stays together, so that a key
without an order keeps its place in it. -/
def sortByKey : List Pair → List Pair
  | first :: second :: rest =>
    let falling := Json.keyLt second.1 first.1
    let (run, others) := splitRun falling first (second :: rest)
    let sorted := first :: run
    others.foldl (fun sorted tag => insertByKey tag sorted) (if falling then sorted.reverse else sorted)
  | tags => tags

/-- The identity of a metric and the tags of a document. The keys have to be keys and to compare. -/
def build (metric : Json) (tags : List Pair) : Except Fault Identity :=
  if tags.all (·.1.isKey) then
    let merged := Assoc.lastWins Json.same tags
    if Json.comparable (merged.map (·.1)) then .ok ⟨metric, sortByKey merged⟩
    else .error .wrongKind
  else .error .wrongKind

/-- The identity of a metric and a document that lists tags. Every tag is walked before any is taken for a
key with its value. -/
def read (metric tags : Json) : Except Fault Identity := do
  let listed ← (← tags.items).mapM Json.items
  build metric (← listed.mapM Json.keyValue)

/-- The same tags in order, key and value. -/
def sameTags : List Pair → List Pair → Bool
  | [], [] => true
  | (k, v) :: rest, (l, w) :: more => k.same l && v.same w && sameTags rest more
  | _, _ => false

def same (a b : Identity) : Bool := a.metric.same b.metric && sameTags a.tags b.tags

/-- A list of parts in parentheses; a single part is followed by a comma. -/
def tupleText : List String → String
  | [] => "()"
  | [part] => "(" ++ part ++ ",)"
  | parts => "(" ++ ", ".intercalate parts ++ ")"

def text (i : Identity) : String :=
  "TimeSeriesId(metric=" ++ i.metric.shown ++ ", tags=" ++
    tupleText (i.tags.map fun (k, v) => tupleText [k.shown, v.shown]) ++ ")"

end Identity

/-- What stands for a time series in an outcome: an identity, or whatever another way of building them
gives. -/
inductive Series where
  | identity (i : Identity)
  | other (v : Json)

/-- A way of building a time series from a metric and the tags of a document. -/
abbrev SeriesBuilder := Json → List Pair → Except Fault Series

namespace Series

def canonical : SeriesBuilder := fun metric tags => (Identity.build metric tags).map .identity

/-- The identity of a series that has a metric. -/
def identity? : Series → Option Identity
  | .identity i => if i.metric.isNull then none else some i
  | .other _ => none

def text : Series → String
  | .identity i => i.text
  | .other v => v.text

end Series

end SeriesCatalog
