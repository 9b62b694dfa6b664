/-! How a query ended. -/

namespace SeriesCatalog

/-- How a query ended. The fallback kinds tell the caller that another way of retrieval may be tried. -/
inductive OutcomeKind where
  | data
  | noData
  | noDataFallback
  | exception
  | exceptionFallback
  deriving DecidableEq

namespace OutcomeKind

def all : List OutcomeKind := [.data, .noData, .noDataFallback, .exception, .exceptionFallback]

def label : OutcomeKind → String
  | .data => "DATA"
  | .noData => "NO_DATA"
  | .noDataFallback => "NO_DATA_FALLBACK"
  | .exception => "EXCEPTION"
  | .exceptionFallback => "EXCEPTION_FALLBACK"

def ofLabel? (name : String) : Option OutcomeKind := all.find? (·.label == name)

theorem mem_all (k : OutcomeKind) : k ∈ all := by cases k <;> decide

theorem ofLabel?_label (k : OutcomeKind) : ofLabel? k.label = some k := by cases k <;> decide

theorem label_inj {k l : OutcomeKind} : k.label = l.label ↔ k = l := by
  refine ⟨fun h => ?_, congrArg label⟩
  have hlabels := congrArg ofLabel? h
  rw [ofLabel?_label, ofLabel?_label] at hlabels
  exact Option.some.inj hlabels

end OutcomeKind

end SeriesCatalog
