import SeriesCatalog.Json.Basic
import SeriesCatalog.Number.Shortest
import SeriesCatalog.Text.Quoted

/-! The text that stands for a document where a name is wanted: a text stands for itself, and everything
else is shown, with quoted texts inside. -/

namespace SeriesCatalog.Json

mutual

def shown : Json → String
  | .null => "None"
  | .bool true => "True"
  | .bool false => "False"
  | .int n => toString n
  | .real x => x.text
  | .str s => Text.quoted s
  | .arr items => "[" ++ ", ".intercalate (shownItems items) ++ "]"
  | .obj members => "\x7b" ++ ", ".intercalate (shownMembers members) ++ "\x7d"

def shownItems : List Json → List String
  | [] => []
  | item :: rest => shown item :: shownItems rest

def shownMembers : List (String × Json) → List String
  | [] => []
  | (name, value) :: rest => (Text.quoted name ++ ": " ++ shown value) :: shownMembers rest

end

def text : Json → String
  | .str s => s
  | v => v.shown

end SeriesCatalog.Json
