import SeriesCatalog.Json.Basic
import SeriesCatalog.Number.Numeral
import SeriesCatalog.Text.Split

/-! Loose values. A setting comes from a document or from the text of a variable, so a number may be given
as a numeral, a truth value as a number or a word, and an integer as a double without a fraction. What a
loose value denotes is exact; anything else denotes nothing. The conversions are those of `pydantic-settings`, a
library outside the catalog; no theorem depends on their details. -/

namespace SeriesCatalog.Loose

open Text Numeral

def text? : Json → Option String
  | .str s => some s
  | _ => none

/-! ### Integers -/

/-- The integer that a double is, if it fits a signed word of 64 bits. -/
def wholeOf? (x : Double) : Option Int :=
  match x.toFraction? with
  | some (n, d) =>
    if n % d = 0 ∧ -Int.pow 2 63 < n / d ∧ n / d < Int.pow 2 63 then some (n / d) else none
  | none => none

/-- A text without a plus sign before it, which no minus sign may follow. -/
def dropPlus? : List Char → Option (List Char)
  | '+' :: '-' :: _ => none
  | '+' :: rest => some rest
  | cs => some cs

/-- A zero, or an underscore among zeros. -/
def isFiller (c : Char) : Bool := c = '0' || c = '_'

/-- A digit that is no zero, or a minus sign. -/
def isLeader (c : Char) : Bool := c = '-' || decide ('1' ≤ c ∧ c ≤ '9')

/-- A text from its first digit that is no zero or its minus sign on, which may have zeros before it. Before a
point or an end the last of the zeros stays. -/
def afterZeros? (cs : List Char) : Option (List Char) :=
  match cs.head?, cs.dropWhile isFiller with
  | some '0', c :: rest =>
    if c = '.' then (cs.takeWhile isFiller).getLast?.map (· :: c :: rest)
    else if isLeader c then some (c :: rest)
    else none
  | some '0', [] => cs.getLast?.map ([·])
  | some c, _ => if isLeader c then some cs else none
  | none, _ => none

/-- A text without a point and zeros at its end. -/
def dropZeroFraction (cs : List Char) : List Char :=
  match cut? '.' cs with
  | some (whole, fraction) => if !fraction.isEmpty && fraction.all (· = '0') then whole else cs
  | none => cs

/-- A text without the single underscores inside it. -/
def dropUnderscores? (cs : List Char) : Option (List Char) :=
  let parts := pieces '_' cs
  if parts.any List.isEmpty then none else some parts.flatten

def plainDigits? (cs : List Char) : Option (List Nat) :=
  if cs.isEmpty then none else cs.mapM asciiDigitValue?

/-- The integer of digits without needless zeros, which a minus sign may stand before. -/
def plainInteger? (cs : List Char) : Option Int :=
  let (negative, body) := if cs.head? = some '-' then (true, cs.drop 1) else (false, cs)
  if cs.length ≤ maxDigits && (body = ['0'] || body.head? ≠ some '0') then
    (plainDigits? body).map fun digits => signed negative (ofDigits digits)
  else none

/-- The integer that a numeral denotes. Zeros may stand before it, and a point with zeros after it. -/
def numeral? (s : String) : Option Int := do
  let body ← afterZeros? (← dropPlus? (trimBy isMargin s.toList))
  plainInteger? (← dropUnderscores? (dropZeroFraction body))

def integer? : Json → Option Int
  | .int n => some n
  | .bool b => some (if b then 1 else 0)
  | .real x => wholeOf? x
  | .str s => numeral? s
  | _ => none

/-! ### Truth values -/

def noWords : List String := ["0", "off", "f", "false", "n", "no"]

def yesWords : List String := ["1", "on", "t", "true", "y", "yes"]

/-- A text with small letters in place of the ASCII capitals. -/
def small (s : String) : String := String.ofList (s.toList.map Char.toLower)

def switchOf? (n : Int) : Option Bool :=
  if n = 0 then some false else if n = 1 then some true else none

def switch? : Json → Option Bool
  | .bool b => some b
  | .int n => switchOf? n
  | .real x => (wholeOf? x).bind switchOf?
  | .str s =>
    if noWords.contains (small s) then some false
    else if yesWords.contains (small s) then some true
    else none
  | _ => none

/-! ### Doubles -/

/-- The significand and the exponent of a decimal. -/
def splitExponent? (cs : List Char) : Option (List Char × Int) :=
  match cs.span fun c => c ≠ 'e' && c ≠ 'E' with
  | (significand, []) => some (significand, 0)
  | (significand, _ :: exponent) =>
    let (negative, body) := takeSign exponent
    (plainDigits? body).map fun digits => (significand, signed negative (ofDigits digits))

/-- The double nearest to an unsigned decimal, with the given sign. -/
def decimal? (negative : Bool) (cs : List Char) : Option Double := do
  let (significand, exponent) ← splitExponent? cs
  let (whole, fraction) := (cut? '.' significand).getD (significand, [])
  let digits ← plainDigits? (whole ++ fraction)
  some (Double.ofDecimal negative (ofDigits digits) (exponent - fraction.length))

/-- The double that characters spell: a decimal or the word for an infinity or a NaN. -/
def spelled? (cs : List Char) : Option Double :=
  let (negative, body) := takeSign cs
  let word := small (String.ofList body)
  if word = "inf" ∨ word = "infinity" then some (.infinite negative)
  else if word = "nan" then some .nan
  else decimal? negative body

/-- The double that a text denotes. Blanks may stand around it, or underscores inside it, but not both. -/
def double? (s : String) : Option Double :=
  (spelled? (trimBy isMargin s.toList)).or ((dropUnderscores? s.toList).bind spelled?)

def number? : Json → Option Double
  | .int n => if (Double.ofInt n).isFinite then some (Double.ofInt n) else none
  | .bool b => some (Double.ofInt (if b then 1 else 0))
  | .real x => some x
  | .str s => double? s
  | _ => none

end SeriesCatalog.Loose
