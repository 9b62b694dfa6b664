import SeriesCatalog.Text.Blank
import SeriesCatalog.Text.Digit

/-! Integers read from a text. A numeral may stand between blanks, carry a sign, use the digits of any
script and single underscores between digits; it has at most 4300 digits. The information separators are
blank elsewhere but not around a numeral. -/

namespace SeriesCatalog.Numeral

open Text

/-- The greatest number of digits of a numeral. -/
def maxDigits : Nat := 4300

def isMargin (c : Char) : Bool := isBlank c && !(decide (28 ≤ c.toNat ∧ c.toNat ≤ 31))

/-- The digits after a first one: digits, each with at most one underscore before it. -/
def moreDigits (value? : Char → Option Nat) : List Char → Option (List Nat)
  | [] => some []
  | '_' :: c :: rest =>
    match value? c with
    | some d => (moreDigits value? rest).map (d :: ·)
    | none => none
  | c :: rest =>
    match value? c with
    | some d => (moreDigits value? rest).map (d :: ·)
    | none => none

/-- One digit or more, single underscores allowed between them. -/
def digits? (value? : Char → Option Nat) : List Char → Option (List Nat)
  | [] => none
  | c :: rest =>
    match value? c with
    | some d => (moreDigits value? rest).map (d :: ·)
    | none => none

def ofDigits (digits : List Nat) : Nat := digits.foldl (fun n d => 10 * n + d) 0

/-- A sign and what follows it; without a sign the number is not negative. -/
def takeSign : List Char → Bool × List Char
  | '-' :: rest => (true, rest)
  | '+' :: rest => (false, rest)
  | cs => (false, cs)

/-- The integer of the given sign and size. -/
def signed (negative : Bool) (n : Nat) : Int := if negative then -(n : Int) else n

def integer? (s : String) : Option Int :=
  let (negative, body) := takeSign (trimBy isMargin s.toList)
  match digits? digitValue? body with
  | some digits => if digits.length ≤ maxDigits then some (signed negative (ofDigits digits)) else none
  | none => none

end SeriesCatalog.Numeral
