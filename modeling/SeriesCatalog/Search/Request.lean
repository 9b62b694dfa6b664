import SeriesCatalog.Json.Access

/-! Search requests: the body that a request builder made, and the size and timeout that the envelope adds
to it. -/

namespace SeriesCatalog

/-- A search request. -/
structure Request where
  body : Json := .obj []
  size : Json := .null
  timeout : Json := .null

namespace Request

/-- Sets one field of a request by its name. -/
def setField (r : Request) (name : String) (value : Json) : Except Fault Request :=
  if name = "body" then .ok { r with body := value }
  else if name = "size" then .ok { r with size := value }
  else if name = "timeout" then .ok { r with timeout := value }
  else .error .wrongKind

/-- The request with the given fields; the others are as in an empty request. -/
def ofMembers (fields : Members) : Except Fault Request :=
  fields.foldlM (fun r (name, value) => r.setField name value) {}

def putName (name : String) (value : Json) (body : List (Json × Json)) : List (Json × Json) :=
  Assoc.put Json.same (.str name) value body

/-- The body that is sent, by its keys. A size is added unless it is null, a timeout unless it is blank, each
in place of what the body holds under its name. -/
def toBody (r : Request) : Except Fault (List (Json × Json)) := do
  let body ← r.body.keyed
  let body := if r.size.isNull then body else putName "size" r.size body
  .ok (if r.timeout.isBlank then body else putName "timeout" r.timeout body)

/-- A body whose keys and values JSON text has a place for. -/
def isWritable (body : List (Json × Json)) : Bool :=
  body.all fun (key, value) => key.isWritable && value.isWritable

end Request

end SeriesCatalog
