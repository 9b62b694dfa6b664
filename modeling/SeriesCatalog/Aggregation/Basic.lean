import SeriesCatalog.Json.Basic

/-! Aggregation trees. A search reply groups documents by value (`terms`), wraps the aggregations of nested
documents (`nested`) and of the documents that match a filter (`filter`); an aggregation of any other type
is kept as it came. Sub-aggregations have distinct names and keep their order. -/

namespace SeriesCatalog

mutual

/-- A node of an aggregation tree. -/
inductive Aggregation where
  | terms (buckets : List Bucket)
  | nested (count : Int) (subs : List (String × Aggregation))
  | filter (count : Int) (subs : List (String × Aggregation))
  | unknown (type : String) (body : List (String × Json))

/-- The documents that share one value. -/
inductive Bucket where
  | mk (key : String) (count : Int) (subs : List (String × Aggregation))

end

abbrev Aggregations := List (String × Aggregation)

instance : Inhabited Aggregation := ⟨.terms []⟩

namespace Bucket

def key : Bucket → String
  | .mk key _ _ => key

def count : Bucket → Int
  | .mk _ count _ => count

def subs : Bucket → Aggregations
  | .mk _ _ subs => subs

end Bucket

/-- The shape of a node. -/
inductive Shape where
  | terms
  | nested
  | filter
  | unknown
  deriving DecidableEq

namespace Shape

def label : Shape → String
  | .terms => "TermsAggregation"
  | .nested => "NestedAggregation"
  | .filter => "FilterAggregation"
  | .unknown => "UnknownAggregation"

def all : List Shape := [.terms, .nested, .filter, .unknown]

def ofLabel? (name : String) : Option Shape := all.find? (·.label == name)

end Shape

def Aggregation.shape : Aggregation → Shape
  | .terms _ => .terms
  | .nested .. => .nested
  | .filter .. => .filter
  | .unknown .. => .unknown

/-! ### Names -/

namespace AggregationName

def namespaces : String := "ns_agg"

/-- The wrapper of metrics and the terms in it. -/
def metrics : String := "metric_agg"
def uniqueMetrics : String := "unique_metrics"

/-- The wrapper of tag keys and the terms in it. -/
def tagKeys : String := "tagk_agg"
def uniqueTagKeys : String := "unique_tagks"

/-- The wrapper of tag values and the terms in it. -/
def tagValues : String := "tagv_agg"
def uniqueTagValues : String := "unique_tagvs"

/-- The wrapper of tags, the terms of their keys, the filter below each key and the terms of its values. -/
def tags : String := "tags_agg"
def uniqueTags : String := "unique_tags"
def tagsSub : String := "tags_sub_agg"
def uniqueTagsSub : String := "tags_sub_unique"

end AggregationName

end SeriesCatalog
