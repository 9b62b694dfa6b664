import SeriesCatalog.Number.Double

/-! JSON documents. Integers are unbounded and apart from numbers of double precision, so that `5` and
`5.0` are two documents; the members of an object keep their order and have distinct names. -/

namespace SeriesCatalog

/-- A JSON document. -/
inductive Json where
  | null
  | bool (b : Bool)
  | int (n : Int)
  | real (x : Double)
  | str (s : String)
  | arr (items : List Json)
  | obj (members : List (String × Json))
  deriving Inhabited

abbrev Members := List (String × Json)

namespace Json

/-- Empty or nothing: null, false, a zero, and the text, array and object without content. -/
def isBlank : Json → Bool
  | .null => true
  | .bool b => !b
  | .int n => n = 0
  | .real x => x.isZero
  | .str s => s = ""
  | .arr items => items.isEmpty
  | .obj members => members.isEmpty

/-- The document itself, or another one in place of a blank document. -/
def orElse (v other : Json) : Json := if v.isBlank then other else v

def isObject : Json → Bool
  | .obj _ => true
  | _ => false

def isNull : Json → Bool
  | .null => true
  | _ => false

/-- The word for the kind of a document. -/
def kindLabel : Json → String
  | .null => "NoneType"
  | .bool _ => "bool"
  | .int _ => "int"
  | .real _ => "float"
  | .str _ => "str"
  | .arr _ => "list"
  | .obj _ => "dict"

mutual

/-- Without an infinity or a NaN, which JSON text has no place for. -/
def isWritable : Json → Bool
  | .real x => x.isFinite
  | .arr items => areItemsWritable items
  | .obj members => areMembersWritable members
  | _ => true

def areItemsWritable : List Json → Bool
  | [] => true
  | item :: rest => isWritable item && areItemsWritable rest

def areMembersWritable : List (String × Json) → Bool
  | [] => true
  | (_, value) :: rest => isWritable value && areMembersWritable rest

end

def ofStrings (items : List String) : Json := .arr (items.map .str)

def ofString? : Option String → Json
  | some s => .str s
  | none => .null

end Json

end SeriesCatalog
