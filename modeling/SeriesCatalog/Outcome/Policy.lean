import SeriesCatalog.Json.Order

/-! When a query that failed or found nothing may be tried another way, and when it found too much. -/

namespace SeriesCatalog

/-- Why a query has no data. -/
inductive Condition where
  | exception
  | noData
  deriving DecidableEq

namespace Condition

def label : Condition → String
  | .exception => "EXCEPTION"
  | .noData => "NO_DATA"

def ofLabel? (name : String) : Option Condition :=
  [Condition.exception, .noData].find? (·.label == name)

/-- The kind of outcome of a condition, with or without leave to fall back. -/
def outcome (c : Condition) (fallback : Bool) : OutcomeKind :=
  match c, fallback with
  | .exception, false => .exception
  | .exception, true => .exceptionFallback
  | .noData, false => .noData
  | .noData, true => .noDataFallback

end Condition

/-- The two switches that allow a fallback. A switch is on unless it is blank. -/
structure FallbackPolicy where
  onException : Json := .bool true
  onNoData : Json := .bool false

namespace FallbackPolicy

/-- The kind of outcome of a query that failed. -/
def exceptionKind (p : FallbackPolicy) : OutcomeKind := Condition.exception.outcome (!p.onException.isBlank)

/-- The kind of outcome of a query that found nothing. -/
def noDataKind (p : FallbackPolicy) : OutcomeKind := Condition.noData.outcome (!p.onNoData.isBlank)

/-- The policy with the given switches; the others are as they stand. -/
def ofMembers (switches : Members) : Except Fault FallbackPolicy :=
  switches.foldlM (fun p (name, value) =>
    if name = "on_exception" then .ok { p with onException := value }
    else if name = "on_no_data" then .ok { p with onNoData := value }
    else .error .wrongKind) {}

end FallbackPolicy

/-- More documents than the ceiling allows. The two have to compare. -/
def exceedsCeiling (total ceiling : Json) : Except Fault Bool := ceiling.less total

end SeriesCatalog
