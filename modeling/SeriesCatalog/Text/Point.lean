/-! Code points. A text from outside may hold surrogates, which are no characters: two of them, a high one
and a low one, are written for one character, and one may stand alone. A `String` has no place for a surrogate.
Where one stands, it holds the private character 2^20 further up, which is shown and written as the surrogate.
Two texts that differ have different strings unless one of them uses these private characters itself; but
a surrogate comes after the characters from U+E000 up in the order of strings, and before them by its number. -/

namespace SeriesCatalog.Text

/-- A code point of a text: a character, or a surrogate by its place among the surrogates, of which the first
half are high ones. -/
inductive Point where
  | char (c : Char)
  | surrogate (place : Fin 0x800)
  deriving DecidableEq

/-- The number of the character that stands for the first surrogate. -/
def firstStandIn : Nat := 0x10D800

/-- The number of the surrogate for which a character stands. -/
def surrogate? (c : Char) : Option Nat :=
  if firstStandIn ≤ c.toNat ∧ c.toNat < firstStandIn + 0x800 then some (c.toNat - 0x100000) else none

namespace Point

/-- The code point of a number below 0x110000. -/
def ofNat (n : Nat) : Point :=
  if h : n.isValidChar then .char (Char.ofNatAux n h) else .surrogate (Fin.ofNat 0x800 (n - 0xD800))

/-- The character that a high surrogate and a low one make. -/
def pair? : Point → Point → Option Char
  | .surrogate high, .surrogate low =>
    if high < 0x400 ∧ 0x400 ≤ low then
      some (Char.ofNat (high.val * 0x400 + (low.val - 0x400) + 0x10000))
    else none
  | _, _ => none

/-- The character itself, or the one that stands for a surrogate. -/
def toChar : Point → Char
  | .char c => c
  | .surrogate place => Char.ofNat (firstStandIn + place.val)

end Point

def ofPoints (points : List Point) : String := String.ofList (points.map Point.toChar)

/-- A code point as it is written, and whether that is as a unit of UTF-16, of which two may make a character. -/
structure Written where
  point : Point
  isUnit : Bool

/-- The code points of a text; two units that make a character are one. -/
def joinUnits : List Written → List Point
  | u :: v :: rest =>
    match if u.isUnit && v.isUnit then u.point.pair? v.point else none with
    | some c => .char c :: joinUnits rest
    | none => u.point :: joinUnits (v :: rest)
  | us => us.map (·.point)

end SeriesCatalog.Text
