import SeriesCatalog.Text.Point
import SeriesCatalog.Text.Printable

/-! A text between quotes, on one line and with every character visible. The quotes are single ones unless
the text holds a single quote and no double one. -/

namespace SeriesCatalog.Text

def hexDigit (n : Nat) : Char := (Nat.toDigits 16 n).headD '0'

def hexDigits : Nat → Nat → List Char
  | 0, _ => []
  | width + 1, n => hexDigits width (n / 16) ++ [hexDigit (n % 16)]

def quoteFor (cs : List Char) : Char :=
  if '\'' ∈ cs ∧ '"' ∉ cs then '"' else '\''

/-- A character inside quotes. A hidden one is written as its code point with two, four or eight digits. -/
def escapeChar (quote c : Char) : List Char :=
  if c = quote ∨ c = '\\' then ['\\', c]
  else if c = '\t' then ['\\', 't']
  else if c = '\n' then ['\\', 'n']
  else if c = '\r' then ['\\', 'r']
  else if isPrintable c then [c]
  else if c.toNat < 0x100 then '\\' :: 'x' :: hexDigits 2 c.toNat
  else if c.toNat < 0x10000 then '\\' :: 'u' :: hexDigits 4 c.toNat
  else
    match surrogate? c with
    | some n => '\\' :: 'u' :: hexDigits 4 n
    | none => '\\' :: 'U' :: hexDigits 8 c.toNat

def quoted (s : String) : String :=
  let quote := quoteFor s.toList
  String.ofList (quote :: s.toList.flatMap (escapeChar quote) ++ [quote])

end SeriesCatalog.Text
