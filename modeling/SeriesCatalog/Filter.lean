import SeriesCatalog.Json.Basic

/-! Filters of a query. Most are values that only the request builder understands; the catalog itself makes
filters for a metric name and combinations of filters. -/

namespace SeriesCatalog

/-- How the parts of a combined filter are joined. -/
inductive FilterOp where
  | all
  | any
  deriving DecidableEq

def FilterOp.label : FilterOp → String
  | .all => "AND"
  | .any => "OR"

/-- A filter; the null value is no filter. -/
inductive Filter where
  | value (v : Json)
  | metricLiteral (metric : Json)
  | chain (op : FilterOp) (parts : List Filter)
  deriving Inhabited

namespace Filter

def absent : Filter := .value .null

/-- The null value and nothing else. -/
def isAbsent : Filter → Bool
  | .value .null => true
  | _ => false

def allOf (parts : List Filter) : Filter := .chain .all (parts.filter (!·.isAbsent))

end Filter

end SeriesCatalog
