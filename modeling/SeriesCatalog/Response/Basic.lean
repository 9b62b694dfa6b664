import SeriesCatalog.Aggregation.Reader

/-! Search responses: the total number of matching documents, the aggregation tree and the documents
themselves. -/

namespace SeriesCatalog

/-- A document found by a search. -/
structure Hit where
  source : Json
  id : Json

/-- The response of one cluster. A response without aggregations is not one with an empty tree. -/
structure Response where
  total : Int
  aggregations : Option Aggregations
  hits : List Hit
  took : Json

namespace Response

/-- The total that a reply states as a number, or as an object with a value. -/
def readTotal (hits : Json) : Except Fault Int := do
  let stated ← hits.member? "total"
  match stated.getD (.int 0) with
  | .obj members => (((members.lookup "value").getD (.int 0)).orElse (.int 0)).integer
  | total => (total.orElse (.int 0)).integer

/-- The aggregations of a reply; null is none. -/
def readAggregations (raw : Json) : Except Fault (Option Aggregations) :=
  match raw with
  | .null => .ok none
  | raw => (Aggregation.read raw).map some

/-- One hit; a blank source is an empty object. -/
def readHit (hit : Json) : Except Fault Hit := do
  let source ← hit.member "_source"
  let id ← hit.member "_id"
  .ok ⟨source.orElse (.obj []), id⟩

/-- The response that the document of a reply describes. -/
def read (payload : Json) : Except Fault Response := do
  let hits := (← payload.member "hits").orElse (.obj [])
  let total ← readTotal hits
  let aggregations ← readAggregations (← payload.member "aggregations")
  let found ← ((← hits.member "hits").orElse (.arr [])).items
  let found ← found.mapM readHit
  .ok ⟨total, aggregations, found, ← payload.member "took"⟩

end Response

/-- The greatest total of a batch, zero for an empty one. -/
def greatestTotal : List Response → Int
  | [] => 0
  | r :: rest => rest.foldl (fun most s => max most s.total) r.total

end SeriesCatalog
