import SeriesCatalog.Json.Reader
import SeriesCatalog.Text.Label
import SeriesCatalog.Text.Lower
import SeriesCatalog.Text.Percent
import SeriesCatalog.Text.Puny
import SeriesCatalog.Text.Split

/-! Hosts of addresses. A host is a number of four octets, a number of eight groups in square brackets, or a
name. A name is in lower case; one with characters outside ASCII is written label by label in Punycode. This too
stands for `httpx`, which is outside the catalog; nothing that is proved of all hosts depends on its details. -/

namespace SeriesCatalog.Address.Host

open Text

/-! ### Numbers -/

/-- The states of a walk over four runs of digits with one character between two of them: the number of runs
still to come, and whether the run at hand has a digit. -/
def stepRuns (states : List (Nat × Bool)) (c : Char) : List (Nat × Bool) :=
  (states.flatMap fun (runs, begun) =>
    (if Json.isDigit c then [(runs, true)] else []) ++
      (if begun && 0 < runs then [(runs - 1, false)] else [])).eraseDups

/-- Four runs of digits with one character of any kind between two of them. -/
def isNumberLike (cs : List Char) : Bool := (cs.foldl stepRuns [(3, false)]).contains (0, true)

/-- A number up to 255 without needless zeros. -/
def isOctet (cs : List Char) : Bool :=
  !cs.isEmpty && cs.all Json.isDigit && decide (cs.length ≤ 3) && (cs = ['0'] || cs.head? ≠ some '0') &&
    decide (Json.digitsValue cs ≤ 255)

def isOctets (cs : List Char) : Bool :=
  let parts := pieces '.' cs
  parts.length = 4 && parts.all isOctet

def isGroup (cs : List Char) : Bool :=
  !cs.isEmpty && cs.all (fun c => (Json.hexValue? c).isSome) && decide (cs.length ≤ 4)

/-- The number of groups in groups between colons; the last two may be written as four octets. -/
def countGroups? : List (List Char) → Option Nat
  | [] => some 0
  | [last] => if isGroup last then some 1 else if isOctets last then some 2 else none
  | group :: rest => if isGroup group then (countGroups? rest).map (· + 1) else none

/-- The groups between colons, of which an empty text has none. -/
def groupsOf (cs : List Char) : List (List Char) := if cs.isEmpty then [] else pieces ':' cs

/-- The texts before and after the first two colons in a row. -/
def cutGap? : List Char → Option (List Char × List Char)
  | ':' :: ':' :: rest => some ([], rest)
  | c :: rest => (cutGap? rest).map fun (before, after) => (c :: before, after)
  | [] => none

/-- Eight groups between colons. Two colons in a row stand once for one group of zeros or more. -/
def isGroups (cs : List Char) : Bool :=
  match cutGap? cs with
  | none => countGroups? (groupsOf cs) = some 8
  | some (before, after) =>
    let before := groupsOf before
    before.all isGroup &&
      match countGroups? (groupsOf after) with
      | some n => decide (before.length + n < 8)
      | none => false

/-- Eight groups, and the name of a zone after a percent sign if there is one. -/
def isScoped (cs : List Char) : Bool :=
  match cut? '%' cs with
  | none => isGroups cs
  | some (groups, zone) => isGroups groups && !zone.isEmpty && !zone.contains '%'

/-! ### Names -/

/-- Stands as it is in a name of ASCII characters. -/
def isPlain (c : Char) : Bool :=
  decide (32 < c.toNat ∧ c.toNat < 127) && !(['<', '>', '[', ']', '^'].contains c)

/-- The points between labels, the wide ones included. -/
def isPoint (c : Char) : Bool := [0x2E, 0x3002, 0xFF0E, 0xFF61].contains c.toNat

/-- What the Punycode of a label begins with. -/
def punyMark : List Char := ['x', 'n', '-', '-']

/-- The ASCII form of a label, which has no more than 63 characters. A label that is in Punycode already is
one without its mark, too. -/
def writeLabel? (label : List Char) : Option (List Char) :=
  let isAscii := label.all (·.toNat < 128)
  let form := if isAscii then label else punyMark ++ Puny.encode label
  let bare := if isAscii && punyMark.isPrefixOf label then label.drop punyMark.length else label
  if isLabel bare && decide (form.length ≤ 63) then some form else none

/-- The ASCII form of a name of labels, if it is one; an empty label may stand at the end. -/
def writeName? (cs : List Char) : Option (List Char) := do
  let labels := pieces '.' (cs.map fun c => if isPoint c then '.' else c)
  let (labels, ending) :=
    match labels.reverse with
    | [] :: rest => (rest.reverse, ['.'])
    | _ => (labels, [])
  let forms ← labels.mapM writeLabel?
  let name := ['.'].intercalate forms ++ ending
  if forms.isEmpty || 253 + ending.length < name.length then none else some name

/-- A host as it is sent, if it is one. The brackets of groups are kept. -/
def write? (cs : List Char) : Option (List Char) :=
  if isNumberLike cs then (if isOctets cs then some cs else none)
  else if cs.head? = some '[' && cs.getLast? = some ']' && 2 ≤ cs.length then
    (if isScoped ((cs.drop 1).dropLast) then some cs else none)
  else
    let small := (lower (String.ofList cs)).toList
    if cs.all (·.toNat < 128) then some ((percentEncoded isPlain small).map Char.toLower)
    else writeName? small

end SeriesCatalog.Address.Host
