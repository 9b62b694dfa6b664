import SeriesCatalog.Json.Basic
import SeriesCatalog.Number.Shortest
import SeriesCatalog.Text.Quoted

/-! Writing JSON on one line, without blanks. Numbers of double precision are written with the fewest
digits that read back. -/

namespace SeriesCatalog.Json

def writeChar (c : Char) : List Char :=
  if c = '"' ∨ c = '\\' then ['\\', c]
  else if c.toNat < 32 then '\\' :: 'u' :: Text.hexDigits 4 c.toNat
  else
    match Text.surrogate? c with
    | some n => '\\' :: 'u' :: Text.hexDigits 4 n
    | none => [c]

def writeString (s : String) : String :=
  String.ofList ('"' :: s.toList.flatMap writeChar ++ ['"'])

mutual

def write : Json → String
  | .null => "null"
  | .bool b => if b then "true" else "false"
  | .int n => toString n
  | .real x => x.textWith "Infinity" "NaN"
  | .str s => writeString s
  | .arr items => "[" ++ ",".intercalate (writeItems items) ++ "]"
  | .obj members => "\x7b" ++ ",".intercalate (writeMembers members) ++ "\x7d"

def writeItems : List Json → List String
  | [] => []
  | item :: rest => write item :: writeItems rest

def writeMembers : List (String × Json) → List String
  | [] => []
  | (name, value) :: rest => (writeString name ++ ":" ++ write value) :: writeMembers rest

end

end SeriesCatalog.Json
