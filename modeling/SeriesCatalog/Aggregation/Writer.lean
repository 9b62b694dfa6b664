import SeriesCatalog.Aggregation.Reader

/-! Writing aggregation trees as a reply has them: each aggregation as a member named `type#name`, its count
and its buckets beside its sub-aggregations. Of the types of one shape the first is written. -/

namespace SeriesCatalog.Aggregation

/-- The name of an aggregation together with its type. -/
def typedName (type name : String) : String := type ++ String.singleton separator ++ name

/-- The type that a node is written with. -/
def typeName : Aggregation → String
  | .terms _ => "sterms"
  | .nested .. => "nested"
  | .filter .. => "filter"
  | .unknown type _ => type

mutual

def writeBody : Aggregation → Members
  | .terms buckets => [("buckets", .arr (writeBuckets buckets))]
  | .nested count subs => ("doc_count", .int count) :: writeMembers subs
  | .filter count subs => ("doc_count", .int count) :: writeMembers subs
  | .unknown _ body => body

def writeBuckets : List Bucket → List Json
  | [] => []
  | bucket :: rest => .obj (writeBucket bucket) :: writeBuckets rest

def writeBucket : Bucket → Members
  | .mk key count subs => ("key", .str key) :: ("doc_count", .int count) :: writeMembers subs

/-- Named aggregations as the members of an object. -/
def writeMembers : List (String × Aggregation) → Members
  | [] => []
  | (name, node) :: rest => (typedName (typeName node) name, .obj (writeBody node)) :: writeMembers rest

end

end SeriesCatalog.Aggregation
