import SeriesCatalog.Json.Equality
import SeriesCatalog.Json.Display

/-! Numbers that a caller gives as a bound or a measure: an integer, a truth value that counts as 0 or 1, or a
number of double precision. They compare by value and keep the form they were given in. -/

namespace SeriesCatalog

/-- A number as it was given. -/
inductive Number where
  | int (n : Int)
  | flag (b : Bool)
  | real (x : Double)
  deriving DecidableEq

namespace Number

def ofJson? : Json → Option Number
  | .int n => some (.int n)
  | .bool b => some (.flag b)
  | .real x => some (.real x)
  | _ => none

def toJson : Number → Json
  | .int n => .int n
  | .flag b => .bool b
  | .real x => .real x

def text (n : Number) : String := n.toJson.text

/-- The value of a number that is not of double precision. -/
def whole? : Number → Option Int
  | .int n => some n
  | .flag b => some (if b then 1 else 0)
  | .real _ => none

def toDouble : Number → Double
  | .int n => Double.ofInt n
  | .flag b => Double.ofInt (if b then 1 else 0)
  | .real x => x

/-- The number in double precision; none when an integer is too great for it. -/
def toDouble? : Number → Option Double
  | .real x => some x
  | n => if n.toDouble.isFinite then some n.toDouble else none

/-- `a < b`; nothing is below or above a NaN. -/
def lt (a b : Number) : Bool :=
  match a.toJson.place?, b.toJson.place? with
  | some p, some q => p.lt q
  | _, _ => false

/-- `a ≤ b`; nothing is below or above a NaN. -/
def le (a b : Number) : Bool :=
  match a.toJson.place?, b.toJson.place? with
  | some p, some q => p.lt q || p.same q
  | _, _ => false

/-- `a - b`: an integer unless one of them is of double precision. The other one has to fit it then. -/
def sub? (a b : Number) : Option Number :=
  match a.whole?, b.whole? with
  | some m, some n => some (.int (m - n))
  | _, _ => do some (.real ((← a.toDouble?).sub (← b.toDouble?)))

end Number

end SeriesCatalog
