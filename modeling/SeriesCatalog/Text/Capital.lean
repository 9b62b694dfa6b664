/-! Capitals, as far as they are ASCII. A name made of ASCII capitals can be written with the small letters
and with the few other characters whose full upper case is ASCII: the dotless i, the long and the sharp s
and the Latin ligatures. All other characters stay, since no such name contains one. -/

namespace SeriesCatalog.Text

/-- The characters outside ASCII whose upper case is ASCII, with that upper case. -/
def foreignCapitals : List (Nat × String) :=
  [(223, "SS"), (305, "I"), (383, "S"), (64256, "FF"), (64257, "FI"), (64258, "FL"), (64259, "FFI"),
   (64260, "FFL"), (64261, "ST"), (64262, "ST")]

def capitalChar (c : Char) : List Char :=
  if c.toNat < 128 then [c.toUpper]
  else
    match foreignCapitals.lookup c.toNat with
    | some capitals => capitals.toList
    | none => [c]

/-- A text with its capitals, as far as they are ASCII. -/
def capitals (s : String) : String := String.ofList (s.toList.flatMap capitalChar)

end SeriesCatalog.Text
