import SeriesCatalog.Fault
import SeriesCatalog.Json.Equality

/-! Which of two documents comes first. Texts compare with texts by code point, numbers and truth values by
value, and arrays by the first place where they differ; nothing else compares. A NaN is neither before nor
after a number. -/

namespace SeriesCatalog.Json

def lessNumber (a b : Json) : Except Fault Bool :=
  if a.isNumber && b.isNumber then
    match a.place?, b.place? with
    | some p, some q => .ok (p.lt q)
    | _, _ => .ok false
  else .error .wrongKind

mutual

def less : Json → Json → Except Fault Bool
  | .str a, .str b => .ok (decide (a < b))
  | .arr xs, .arr ys => lessItems xs ys
  | a, b => lessNumber a b

/-- Items before items, where the shorter list comes first if the other one begins with it. -/
def lessItems : List Json → List Json → Except Fault Bool
  | _, [] => .ok false
  | [], _ :: _ => .ok true
  | x :: xs, y :: ys => if x.same y then lessItems xs ys else less x y

end

/-! ### Keys -/

def isText : Json → Bool
  | .str _ => true
  | _ => false

/-- Any two of the keys compare: all are texts or all are numbers. A single key always does. -/
def comparable (keys : List Json) : Bool :=
  keys.length ≤ 1 || keys.all isText || keys.all isNumber

/-- The first of two comparable keys comes before the other. -/
def keyLt (a b : Json) : Bool :=
  match less a b with
  | .ok before => before
  | .error _ => false

end SeriesCatalog.Json
