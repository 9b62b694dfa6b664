import SeriesCatalog.Json.Reader
import SeriesCatalog.Settings.Loose

/-! The hosts of a setting, as a list or as one text that names them between commas. Blanks around a name
and names without content do not count in a text, while a list is taken as it is. -/

namespace SeriesCatalog

/-- Hosts as they were given. -/
inductive Hosts where
  | listed (hosts : List String)
  | joined (text : String)
  deriving DecidableEq

namespace Hosts

def parse (text : String) : List String :=
  ((Text.splitAll ',' text).map Text.trim).filter (· ≠ "")

def toList : Hosts → List String
  | .listed hosts => hosts
  | .joined text => parse text

def ofJson? : Json → Option Hosts
  | .arr items => (items.mapM Loose.text?).map .listed
  | .str text => some (.joined text)
  | _ => none

/-- The hosts as a document, in the form they were given in. -/
def toJson : Hosts → Json
  | .listed hosts => .ofStrings hosts
  | .joined text => .str text

/-- The value that the text of a variable stands for: the document that it spells, else the text itself. A
null is no value. -/
def document? (text : String) : Option Json :=
  match Json.ofText text with
  | .ok .null => none
  | .ok v => some v
  | .error _ => some (.str text)

end Hosts

end SeriesCatalog
