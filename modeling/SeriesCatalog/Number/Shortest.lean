import SeriesCatalog.Number.Double

/-! The text of a double: the fewest significant decimal digits that read back as the same number, and of
those the digits nearest to it. Every real strictly between the midpoints to the two neighbouring doubles
reads back as the number, and the midpoints themselves do when the significand is even. For one digit,
then two, up to seventeen, the two neighbours of the value on that decimal grid are tested against this
interval; the first grid with a hit wins. -/

namespace SeriesCatalog.Double

/-- The number of decimal places before the point of `num / den`: `10 ^ (p - 1) ≤ num / den < 10 ^ p` for
positive operands. -/
def decimalPoint (num den : Nat) : Int :=
  let guess := binaryExponent num den * 30103 / 100000
  let reaches (p : Int) : Bool :=
    let (n, d) := scaleTen num den (-p)
    decide (d ≤ n)
  if reaches (guess + 1) then guess + 2
  else if reaches guess then guess + 1
  else guess

/-- The reals that read back as one double, as `value`, `low` and `high` over a common denominator. -/
structure Interval where
  value : Nat
  low : Nat
  high : Nat
  den : Nat
  closed : Bool

/-- Inside the interval: `x * den` is compared, so `x` is in units of `1`. -/
def Interval.holds (i : Interval) (scaled : Nat) : Bool :=
  if i.closed then decide (i.low ≤ scaled ∧ scaled ≤ i.high)
  else decide (i.low < scaled ∧ scaled < i.high)

/-- The interval of `significand * 2 ^ exponent`, in units of `10 ^ grid`. Below a power of two the
neighbour is half as far away. -/
def interval (significand : Nat) (exponent grid : Int) : Interval :=
  let below := if significand = Nat.pow 2 52 ∧ leastExponent < exponent then 1 else 2
  let (two, twoDen) := scaleTwo 1 1 (exponent - 2)
  let (ten, tenDen) := scaleTen 1 1 (-grid)
  let unit := two * ten
  ⟨4 * significand * unit, (4 * significand - below) * unit, (4 * significand + 2) * unit,
    twoDen * tenDen, significand % 2 = 0⟩

/-- The point of the grid nearest to the value among those of the interval, a tie going to the even one. -/
def Interval.point? (i : Interval) : Option Nat :=
  let low := i.value / i.den
  let lowHit := i.holds (low * i.den)
  let highHit := i.holds ((low + 1) * i.den)
  if lowHit && highHit then some (roundHalfEven i.value i.den)
  else if lowHit then some low
  else if highHit then some (low + 1)
  else none

/-- The first grid of `count`, `count + 1`, … digits that has a point in the interval, with its point. -/
def searchDigits (significand : Nat) (exponent point : Int) : Nat → Nat → Nat × Int
  | _, 0 => (significand, 0)
  | count, rounds + 1 =>
    let grid := point - count
    match (interval significand exponent grid).point? with
    | some digits => (digits, grid)
    | none => searchDigits significand exponent point (count + 1) rounds

/-- `digits * 10 ^ exponent` without trailing zeros in the digits; `fuel` bounds their number. -/
def dropZeros : Nat → Nat → Int → Nat × Int
  | 0, digits, exponent => (digits, exponent)
  | fuel + 1, digits, exponent =>
    if digits % 10 = 0 ∧ digits ≠ 0 then dropZeros fuel (digits / 10) (exponent + 1)
    else (digits, exponent)

/-- The shortest decimal `digits * 10 ^ exponent` of a positive significand and its exponent. -/
def shortest (significand : Nat) (exponent : Int) : Nat × Int :=
  let (n, d) := scaleTwo significand 1 exponent
  let (digits, grid) := searchDigits significand exponent (decimalPoint n d) 1 17
  dropZeros 20 digits grid

/-! ### Layout -/

/-- How a decimal is laid out: which places of the point are written without an exponent, and the least
number of digits of an exponent. -/
structure Layout where
  leastPoint : Int
  greatestPoint : Int
  exponentDigits : Nat

/-- Positional from `0.0001` up to, but not including, `10 ^ 16`, always with a point; otherwise one digit
before the point and a signed exponent of at least two digits. -/
def layout : Layout := ⟨-3, 16, 2⟩

def padded (width n : Nat) : String :=
  let digits := (Nat.toDigits 10 n).length
  String.ofList (List.replicate (width - digits) '0') ++ toString n

/-- The text of `digits * 10 ^ exponent`. -/
def Layout.render (l : Layout) (digits : Nat) (exponent : Int) : String :=
  let cs := Nat.toDigits 10 digits
  let point : Int := cs.length + exponent
  if l.leastPoint ≤ point ∧ point ≤ l.greatestPoint then
    if point ≤ 0 then
      "0." ++ String.ofList (List.replicate (-point).toNat '0') ++ String.ofList cs
    else if cs.length ≤ point.toNat then
      String.ofList cs ++ String.ofList (List.replicate (point.toNat - cs.length) '0') ++ ".0"
    else String.ofList (cs.take point.toNat) ++ "." ++ String.ofList (cs.drop point.toNat)
  else
    let tail := if cs.length = 1 then "" else "." ++ String.ofList (cs.drop 1)
    let power := point - 1
    String.ofList (cs.take 1) ++ tail ++ (if power < 0 then "e-" else "e+") ++
      padded l.exponentDigits power.natAbs

/-- The text of a double; `infinity` and `notANumber` are the spellings of the values without digits. -/
def textWith (infinity notANumber : String) : Double → String
  | .nan => notANumber
  | .infinite negative => if negative then "-" ++ infinity else infinity
  | .finite negative significand exponent =>
    let magnitude :=
      if significand = 0 then "0.0"
      else
        let (digits, power) := shortest significand exponent
        layout.render digits power
    if negative then "-" ++ magnitude else magnitude

/-- The text of a double, with `inf` and `nan`. -/
def text : Double → String := textWith "inf" "nan"

end SeriesCatalog.Double
