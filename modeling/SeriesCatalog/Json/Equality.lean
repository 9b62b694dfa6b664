import SeriesCatalog.Json.Basic

/-! When two documents are the same, and when they can serve as keys. Truth
values count as the numbers 0 and 1, and numbers are compared by value, so `1`, `1.0` and `true` are one
key; the order of the members of an object does not matter. A NaN, which is no number's equal, is the same
document as itself. -/

namespace SeriesCatalog.Json

open Double (Place)

/-- The place of a number or truth value among the extended reals; a NaN has none. -/
def place? : Json → Option Place
  | .bool b => some (.real (if b then 1 else 0) 1)
  | .int n => some (.real n 1)
  | .real x => x.place?
  | _ => none

def isNumber : Json → Bool
  | .bool _ | .int _ | .real _ => true
  | _ => false

def sameNumber (a b : Json) : Bool :=
  match a.place?, b.place? with
  | some p, some q => p.same q
  | _, _ => false

mutual

def same : Json → Json → Bool
  | .real .nan, .real .nan => true
  | .null, .null => true
  | .str a, .str b => a == b
  | .arr xs, .arr ys => sameItems xs ys
  | .obj ms, .obj ns => ms.length == ns.length && sameMembers ms ns
  | .bool a, b => sameNumber (.bool a) b
  | .int a, b => sameNumber (.int a) b
  | .real a, b => sameNumber (.real a) b
  | _, _ => false

def sameItems : List Json → List Json → Bool
  | [], [] => true
  | x :: xs, y :: ys => same x y && sameItems xs ys
  | _, _ => false

/-- Every member has the same one of its name among the others. -/
def sameMembers : List (String × Json) → Members → Bool
  | [], _ => true
  | (k, v) :: rest, others =>
    (match others.lookup k with
      | some w => same v w
      | none => false) && sameMembers rest others

end

/-- A document that can serve as a key. -/
def isKey : Json → Bool
  | .arr _ | .obj _ => false
  | _ => true

end SeriesCatalog.Json
