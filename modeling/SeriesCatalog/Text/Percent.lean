import SeriesCatalog.Text.Quoted

/-! Percent encoding: a character that may not stand as it is becomes its UTF-8 bytes, each as two
hexadecimal digits after a percent sign. -/

namespace SeriesCatalog.Text

def percentByte (b : UInt8) : List Char :=
  '%' :: (hexDigits 2 b.toNat).map Char.toUpper

/-- One character, given which characters may stand as they are. -/
def percentChar (isPlain : Char → Bool) (c : Char) : List Char :=
  if isPlain c then [c] else (String.singleton c).toUTF8.toList.flatMap percentByte

/-- A text, given which characters may stand as they are. -/
def percentEncoded (isPlain : Char → Bool) (cs : List Char) : List Char := cs.flatMap (percentChar isPlain)

end SeriesCatalog.Text
