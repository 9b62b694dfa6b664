import SeriesCatalog.Assoc
import SeriesCatalog.Fault
import SeriesCatalog.Json.Display
import SeriesCatalog.Json.Equality
import SeriesCatalog.Number.Numeral

/-! Asking a document for something: a member, its items, an integer, its entries. A document of the wrong
kind or content answers with a fault. -/

namespace SeriesCatalog.Json

/-- The member of a name, if the object has one. Only objects have members. -/
def member? (name : String) : Json → Except Fault (Option Json)
  | .obj members => .ok (members.lookup name)
  | _ => .error .noMember

def member (name : String) (v : Json) : Except Fault Json :=
  (v.member? name).map (·.getD .null)

def members : Json → Except Fault Members
  | .obj members => .ok members
  | _ => .error .noMember

@[simp] theorem member?_obj (name : String) (members : Members) :
    (obj members).member? name = .ok (members.lookup name) := rfl

@[simp] theorem member_obj (name : String) (members : Members) :
    (obj members).member name = .ok ((members.lookup name).getD .null) := rfl

/-- What a walk over a document meets: the items of an array, the names of an object, the characters of a
text. -/
def items : Json → Except Fault (List Json)
  | .arr items => .ok items
  | .obj members => .ok (members.map fun (name, _) => .str name)
  | .str s => .ok (s.toList.map fun c => .str (String.singleton c))
  | _ => .error .wrongKind

/-- The integer that a document denotes: a number without its fraction, a truth value as 0 or 1, a numeral. -/
def integer : Json → Except Fault Int
  | .int n => .ok n
  | .bool b => .ok (if b then 1 else 0)
  | .real x =>
    match x.truncate? with
    | some n => .ok n
    | none => .error (if x = .nan then .badValue else .outOfRange)
  | .str s =>
    match Numeral.integer? s with
    | some n => .ok n
    | none => .error .badValue
  | _ => .error .wrongKind

/-! ### Entries -/

/-- The name of a member whose key is not a text. -/
def memberName : Json → String
  | .str s => s
  | .null => "null"
  | .bool b => if b then "true" else "false"
  | .int n => toString n
  | .real x => x.textWith "Infinity" "NaN"
  | v => v.shown

/-- The key and the value that the parts of an item are. -/
def keyValue : List Json → Except Fault (Json × Json)
  | [key, value] => if key.isKey then .ok (key, value) else .error .wrongKind
  | _ => .error .badValue

/-- An item that is a key with its value: whatever a walk over it meets is the two. -/
def entry (item : Json) : Except Fault (Json × Json) := item.items >>= keyValue

/-- The keys and values that a document denotes: the members of an object, or the items of anything else that
can be walked. Of two with one key the later wins, in the place of the earlier. -/
def keyed : Json → Except Fault (List (Json × Json))
  | .obj members => .ok (members.map fun (name, value) => (.str name, value))
  | v => do
    let pairs ← (← v.items).mapM entry
    .ok (Assoc.lastWins same pairs)

def named (pairs : List (Json × Json)) : Members :=
  Assoc.byName (pairs.map fun (key, value) => (key.memberName, value))

def entries : Json → Except Fault Members
  | .obj members => .ok members
  | v => v.keyed.map named

end SeriesCatalog.Json
