/-! Numbers of double precision, held as sign, significand and exponent. A finite value is
`± significand * 2 ^ exponent`; the functions that build one keep the significand below `2 ^ 53`, and at
least `2 ^ 52` unless the exponent is the least one, so that a value has one form. Everything is exact
integer arithmetic: reading a decimal rounds one quotient, comparing goes through a common denominator,
and the integer part is a shift. -/

namespace SeriesCatalog

/-- A double precision number. -/
inductive Double where
  | nan
  | infinite (negative : Bool)
  | finite (negative : Bool) (significand : Nat) (exponent : Int)
  deriving DecidableEq

namespace Double

/-- The exponent of the least positive value, `2 ^ -1074`. -/
def leastExponent : Int := -1074

def greatestExponent : Int := 971

def zero : Double := .finite false 0 leastExponent

/-- Both zeros. -/
def isZero : Double → Bool
  | .finite _ 0 _ => true
  | _ => false

/-- Neither an infinity nor a NaN. -/
def isFinite : Double → Bool
  | .finite .. => true
  | _ => false

/-- `num / den` rounded to a whole number, a half going to the even neighbour. -/
def roundHalfEven (num den : Nat) : Nat :=
  let low := num / den
  let twice := 2 * (num % den)
  if twice < den then low
  else if den < twice then low + 1
  else if low % 2 = 0 then low else low + 1

/-- `num / den * 2 ^ shift` as a fraction of naturals. -/
def scaleTwo (num den : Nat) (shift : Int) : Nat × Nat :=
  if 0 ≤ shift then (num * Nat.pow 2 shift.toNat, den) else (num, den * Nat.pow 2 (-shift).toNat)

/-- `num / den * 10 ^ shift` as a fraction of naturals. -/
def scaleTen (num den : Nat) (shift : Int) : Nat × Nat :=
  if 0 ≤ shift then (num * Nat.pow 10 shift.toNat, den) else (num, den * Nat.pow 10 (-shift).toNat)

/-- The exponent of two just below `num / den`: `2 ^ e ≤ num / den < 2 ^ (e + 1)` for positive operands. -/
def binaryExponent (num den : Nat) : Int :=
  let guess : Int := (num.log2 : Int) - den.log2
  let (n, d) := scaleTwo num den (-guess)
  if d ≤ n then guess else guess - 1

/-- The double nearest to `± num / den`; a tie goes to the even significand, a magnitude past the
greatest finite value to infinity. -/
def ofFraction (negative : Bool) (num den : Nat) : Double :=
  if num = 0 then .finite negative 0 leastExponent
  else
    let exponent := max (binaryExponent num den - 52) leastExponent
    let (n, d) := scaleTwo num den (-exponent)
    let significand := roundHalfEven n d
    let (significand, exponent) :=
      if significand = Nat.pow 2 53 then (Nat.pow 2 52, exponent + 1) else (significand, exponent)
    if greatestExponent < exponent then .infinite negative
    else .finite negative significand exponent

/-- The double nearest to `± digits * 10 ^ exponent`. A decimal that lies far outside the range is
settled by its size alone. -/
def ofDecimal (negative : Bool) (digits : Nat) (exponent : Int) : Double :=
  if digits = 0 then .finite negative 0 leastExponent
  else
    let size := (digits.log2 : Int) * 3 / 10 + exponent
    if 400 < size then .infinite negative
    else if size < -(400 + (digits.log2 : Int)) then .finite negative 0 leastExponent
    else
      let (n, d) := scaleTen digits 1 exponent
      ofFraction negative n d

def ofInt (n : Int) : Double := ofFraction (n < 0) n.natAbs 1

/-- A finite value as `numerator / denominator`. -/
def toFraction? : Double → Option (Int × Nat)
  | .finite negative significand exponent =>
    let (n, d) := scaleTwo significand 1 exponent
    some (if negative then -(n : Int) else n, d)
  | _ => none

/-- The integer part of a finite value: the fraction is dropped, toward zero. -/
def truncate? (x : Double) : Option Int :=
  x.toFraction?.map fun (n, d) => Int.tdiv n d

/-- Where a value stands among the extended reals; a NaN stands nowhere. -/
inductive Place where
  | below
  | real (num : Int) (den : Nat)
  | above
  deriving DecidableEq

def place? : Double → Option Place
  | .nan => none
  | .infinite negative => some (if negative then .below else .above)
  | x@(.finite ..) => x.toFraction?.map fun (n, d) => .real n d

def Place.lt : Place → Place → Bool
  | .below, .below => false
  | .below, _ => true
  | _, .below => false
  | .above, _ => false
  | _, .above => true
  | .real n d, .real m e => decide (n * e < m * d)

def Place.same : Place → Place → Bool
  | .below, .below => true
  | .above, .above => true
  | .real n d, .real m e => decide (n * e = m * d)
  | _, _ => false

/-- `x - y`, rounded once. -/
def sub (x y : Double) : Double :=
  match x, y with
  | .nan, _ => .nan
  | _, .nan => .nan
  | .infinite a, .infinite b => if a = b then .nan else .infinite a
  | .infinite a, _ => .infinite a
  | _, .infinite b => .infinite (!b)
  | .finite a m p, .finite b n q =>
    match (Double.finite a m p).toFraction?, (Double.finite b n q).toFraction? with
    | some (s, d), some (t, e) =>
      let num := s * e - t * d
      if num = 0 then .finite (a && !b && m = 0) 0 leastExponent
      else ofFraction (num < 0) num.natAbs (d * e)
    | _, _ => .nan

end Double

end SeriesCatalog
