import SeriesCatalog.Json.Basic
import SeriesCatalog.Outcome.Kind
import SeriesCatalog.Query.Kind

/-! Log events. -/

namespace SeriesCatalog

/-- What is logged. -/
inductive Event where
  | querySubmitted (kind : QueryKind) (target : String) (size : Json)
  | queryFailed (kind : QueryKind)
  | sourceSubmitted (target metric : String) (size : Json)
  | sourceFailed (metric : Json)
  | tooManyHits (total : Int) (ceiling : Json)
  | completed (kind : QueryKind) (result : OutcomeKind) (total : Int)
  | transportFailed (host index detail : String)
  | statusRefused (host index : String) (status : Int)

namespace Event

def name : Event → String
  | .querySubmitted .. => "meta.query.submit"
  | .queryFailed .. => "meta.query.backend_error"
  | .sourceSubmitted .. => "meta.source_query.submit"
  | .sourceFailed .. => "meta.source_query.backend_error"
  | .tooManyHits .. => "meta.source_query.too_many_hits"
  | .completed .. => "meta.query.complete"
  | .transportFailed .. => "search.transport_error"
  | .statusRefused .. => "search.http_error"

/-- The level of an event: a cluster that fails is worth a warning. -/
def level : Event → String
  | .transportFailed .. | .statusRefused .. => "warning"
  | _ => "debug"

def fields : Event → Members
  | .querySubmitted kind target size =>
    [("query_type", .str kind.label), ("target", .str target), ("size", size)]
  | .queryFailed kind => [("query_type", .str kind.label)]
  | .sourceSubmitted target metric size =>
    [("target", .str target), ("metric", .str metric), ("size", size)]
  | .sourceFailed metric => [("metric", metric)]
  | .tooManyHits total ceiling => [("total_hits", .int total), ("ceiling", ceiling)]
  | .completed kind result total =>
    [("query_type", .str kind.label), ("result", .str result.label), ("total_hits", .int total)]
  | .transportFailed host index detail =>
    [("host", .str host), ("index", .str index), ("error", .str detail)]
  | .statusRefused host index status =>
    [("host", .str host), ("index", .str index), ("status_code", .int status)]

def toJson (e : Event) : Json :=
  .obj (("event", .str e.name) :: ("level", .str e.level) :: e.fields)

end Event

end SeriesCatalog
