/-! The six kinds of catalog queries. -/

namespace SeriesCatalog

/-- What a query asks for. -/
inductive QueryKind where
  | namespaces
  | metrics
  | tagKeys
  | tagValues
  | tagKeysAndValues
  | timeSeries
  deriving DecidableEq

namespace QueryKind

def all : List QueryKind := [.namespaces, .metrics, .tagKeys, .tagValues, .tagKeysAndValues, .timeSeries]

def label : QueryKind → String
  | .namespaces => "NAMESPACES"
  | .metrics => "METRICS"
  | .tagKeys => "TAG_KEYS"
  | .tagValues => "TAG_VALUES"
  | .tagKeysAndValues => "TAG_KEYS_AND_VALUES"
  | .timeSeries => "TIMESERIES"

def ofLabel? (name : String) : Option QueryKind := all.find? (·.label == name)

theorem mem_all (k : QueryKind) : k ∈ all := by cases k <;> decide

theorem ofLabel?_label (k : QueryKind) : ofLabel? k.label = some k := by cases k <;> decide

theorem label_inj {k l : QueryKind} : k.label = l.label ↔ k = l := by
  refine ⟨fun h => ?_, congrArg label⟩
  have hlabels := congrArg ofLabel? h
  rw [ofLabel?_label, ofLabel?_label] at hlabels
  exact Option.some.inj hlabels

end QueryKind

end SeriesCatalog
