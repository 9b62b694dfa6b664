import SeriesCatalog.Fault
import SeriesCatalog.Filter
import SeriesCatalog.Number.Basic
import SeriesCatalog.Query.Kind
import SeriesCatalog.Text.Lower

/-! Catalog queries. The namespace of a query is in lower case, and the bounds of its page are not negative
and in order. -/

namespace SeriesCatalog

/-- A request for one page of names or series of one namespace. -/
structure Query where
  kind : QueryKind
  namespaceName : String
  filter : Filter
  first : Number
  last : Number

namespace Query

/-- The number of entries of the page. A bound of double precision needs another one that fits it. -/
def size (q : Query) : Except Fault Number :=
  match q.last.sub? q.first with
  | some n => .ok n
  | none => .error .outOfRange

/-- The lower case of a namespace; a blank document is the empty namespace. -/
def readNamespace (v : Json) : Except Fault String :=
  if v.isBlank then .ok ""
  else
    match v with
    | .str s => .ok (Text.lower s)
    | _ => .error .noMember

def readBound (v : Json) : Except Fault Number :=
  match Number.ofJson? v with
  | some n => if n.lt (.int 0) then .error .negativePage else .ok n
  | none => .error .wrongKind

/-- The query of the given kind, namespace, filter and page. -/
def build (kind : QueryKind) (namespaceName : Json) (filter : Filter) (first last : Json) :
    Except Fault Query := do
  let namespaceName ← readNamespace namespaceName
  let first ← readBound first
  let last ← readBound last
  if last.lt first then .error (.reversedPage first.text last.text)
  else .ok ⟨kind, namespaceName, filter, first, last⟩

end Query

end SeriesCatalog
