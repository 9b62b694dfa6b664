import SeriesCatalog.Aggregation.Writer
import SeriesCatalog.Response.Basic

/-! Writing responses as a cluster replies them. -/

namespace SeriesCatalog.Response

/-- The two ways to state a total. -/
inductive TotalForm where
  | plain
  | valued
  deriving DecidableEq

/-- A total, stated in one of the two ways. -/
def writeTotal (total : Int) : TotalForm → Json
  | .plain => .int total
  | .valued => .obj [("value", .int total)]

def writeHit (hit : Hit) : Json := .obj [("_id", hit.id), ("_source", hit.source)]

/-- The aggregations of a reply; none are null. -/
def writeAggregations : Option Aggregations → Json
  | some subs => .obj (Aggregation.writeMembers subs)
  | none => .null

/-- The document of the reply that a response comes from. -/
def write (form : TotalForm) (r : Response) : Json :=
  .obj [("took", r.took),
    ("hits", .obj [("total", writeTotal r.total form), ("hits", .arr (r.hits.map writeHit))]),
    ("aggregations", writeAggregations r.aggregations)]

end SeriesCatalog.Response
