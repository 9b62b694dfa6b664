import SeriesCatalog.Fault
import SeriesCatalog.Json.Display
import SeriesCatalog.Text.Lower
import SeriesCatalog.Text.Split

/-! Dotted metric names: the namespace stands before the first dot, the metric after it, and neither is
empty. -/

namespace SeriesCatalog

/-- A namespace and a metric in it, both in lower case. -/
structure MetricName where
  namespaceName : String
  metric : String
  deriving DecidableEq

namespace MetricName

def ofText? (s : String) : Option MetricName :=
  match Text.splitFirst? '.' s with
  | some (namespaceName, metric) =>
    if namespaceName = "" ∨ metric = "" then none
    else some ⟨Text.lower namespaceName, Text.lower metric⟩
  | none => none

/-- The name that a document spells. A blank document spells nothing, and only texts can be split. -/
def read (v : Json) : Except Fault MetricName :=
  if v.isBlank then .error (.malformedMetric v.text)
  else
    match v with
    | .str s =>
      match ofText? s with
      | some name => .ok name
      | none => .error (.malformedMetric s)
    | _ => .error .noMember

end MetricName

end SeriesCatalog
