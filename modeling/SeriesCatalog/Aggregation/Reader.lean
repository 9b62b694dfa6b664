import SeriesCatalog.Json.Access
import SeriesCatalog.Text.Split

/-! Reading aggregation trees. A reply names every aggregation `type#name`; the type decides the shape of
the node, and of two siblings with one name the later in the document wins. At the top level each member
has to be typed; inside a body the typed members that hold an object are the sub-aggregations, and the
count is read before them. -/

namespace SeriesCatalog.Aggregation

def separator : Char := '#'

/-- The types of each shape with a reader. -/
def termsTypes : List String := ["sterms", "lterms", "dterms", "umterms"]
def nestedTypes : List String := ["nested", "reverse_nested"]
def filterTypes : List String := ["filter"]

def shapeOf (type : String) : Shape :=
  if type ∈ termsTypes then .terms
  else if type ∈ nestedTypes then .nested
  else if type ∈ filterTypes then .filter
  else .unknown

/-- The number of documents that a body states, zero when it states none. -/
def readCount (members : Members) : Except Fault Int :=
  match members.lookup "doc_count" with
  | some v => v.integer
  | none => .ok 0

/-- The key of a bucket: its formatted text if there is one, else its value as a text. -/
def readKey (members : Members) : String :=
  ((members.lookup "key_as_string").getD ((members.lookup "key").getD .null)).text

mutual

/-- The node of a type and a body. -/
def readNode (type : String) : Json → Except Fault Aggregation
  | .obj members =>
    match shapeOf type with
    | .terms => (readBucketsMember members).map .terms
    | .nested => do
      let count ← readCount members
      let subs ← readSubs members
      .ok (.nested count (Assoc.byName subs))
    | .filter => do
      let count ← readCount members
      let subs ← readSubs members
      .ok (.filter count (Assoc.byName subs))
    | .unknown => .ok (.unknown type members)
  | body =>
    match shapeOf type with
    | .unknown => body.entries.map (.unknown type)
    | _ => .error .noMember

/-- The buckets of the member that holds them; none without such a member. -/
def readBucketsMember : List (String × Json) → Except Fault (List Bucket)
  | [] => .ok []
  | (name, value) :: rest => if name = "buckets" then readBuckets value else readBucketsMember rest

/-- The buckets of whatever holds them. Names and characters are no buckets. -/
def readBuckets : Json → Except Fault (List Bucket)
  | .arr items => readBucketItems items
  | .obj members => if members.isEmpty then .ok [] else .error .noMember
  | .str s => if s = "" then .ok [] else .error .noMember
  | _ => .error .wrongKind

def readBucketItems : List Json → Except Fault (List Bucket)
  | [] => .ok []
  | item :: rest => do
    let bucket ← readBucket item
    let more ← readBucketItems rest
    .ok (bucket :: more)

def readBucket : Json → Except Fault Bucket
  | .obj members => do
    let count ← readCount members
    let subs ← readSubs members
    .ok (.mk (readKey members) count (Assoc.byName subs))
  | _ => .error .noMember

/-- The sub-aggregations among the members of a body, in document order. -/
def readSubs : List (String × Json) → Except Fault Aggregations
  | [] => .ok []
  | (typed, body) :: rest =>
    match Text.splitFirst? separator typed with
    | none => readSubs rest
    | some (type, name) =>
      if body.isObject then do
        let node ← readNode type body
        let more ← readSubs rest
        .ok ((name, node) :: more)
      else readSubs rest

end

/-- The aggregations of members that all have to be typed, in document order. -/
def readMembers : Members → Except Fault Aggregations
  | [] => .ok []
  | (typed, body) :: rest =>
    match Text.splitFirst? separator typed with
    | none => .error (.untypedName typed)
    | some (type, name) => do
      let node ← readNode type body
      let more ← readMembers rest
      .ok ((name, node) :: more)

/-- The aggregations of a document. A blank document has none. -/
def read (raw : Json) : Except Fault Aggregations :=
  if raw.isBlank then .ok []
  else
    match raw with
    | .obj members => (readMembers members).map Assoc.byName
    | _ => .error .noMember

/-! ### Members by name -/

theorem readBucketsMember_of_lookup {members : Members} {value : Json}
    (h : members.lookup "buckets" = some value) : readBucketsMember members = readBuckets value := by
  induction members with
  | nil => cases h
  | cons member rest ih =>
      obtain ⟨name, held⟩ := member
      rw [readBucketsMember]
      by_cases hname : name = "buckets"
      · subst hname
        obtain rfl : held = value := Option.some.inj h
        rw [if_pos rfl]
      · have hne : ("buckets" == name) = false := beq_eq_false_iff_ne.mpr (Ne.symm hname)
        rw [List.lookup_cons, hne] at h
        rw [if_neg hname]
        exact ih h

end SeriesCatalog.Aggregation
