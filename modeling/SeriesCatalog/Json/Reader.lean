import SeriesCatalog.Assoc
import SeriesCatalog.Fault
import SeriesCatalog.Number.Numeral
import SeriesCatalog.Text.Encoding

/-! Reading JSON. Beside the standard grammar the words `NaN`, `Infinity` and `-Infinity` are numbers. A
number with a point or an exponent is of double precision, any other an integer of at most 4300 digits. Of
two members of an object with one name the later wins, and names are told apart by their code points before
they become strings, in which a private character stands for a surrogate (`Text.Point`). The depth of a document
is not limited. -/

namespace SeriesCatalog.Json

open Numeral (ofDigits signed)
open Text (Point Written)

def skipBlank (ps : List Point) : List Point :=
  ps.dropWhile fun p => p = .char ' ' ∨ p = .char '\t' ∨ p = .char '\n' ∨ p = .char '\r'

def isDigit (c : Char) : Bool := decide ('0' ≤ c ∧ c ≤ '9')

/-- The number that a list of digits `0` to `9` denotes. -/
def digitsValue (cs : List Char) : Nat := ofDigits (cs.map fun c => c.toNat - 48)

def hexValue? (c : Char) : Option Nat :=
  if '0' ≤ c ∧ c ≤ '9' then some (c.toNat - 48)
  else if 'a' ≤ c ∧ c ≤ 'f' then some (c.toNat - 87)
  else if 'A' ≤ c ∧ c ≤ 'F' then some (c.toNat - 55)
  else none

def hex4? (a b c d : Char) : Option Nat := do
  some ((((← hexValue? a) * 16 + (← hexValue? b)) * 16 + (← hexValue? c)) * 16 + (← hexValue? d))

/-- The character that a letter after a backslash stands for. -/
def escaped? : Char → Option Char
  | '"' => some '"'
  | '\\' => some '\\'
  | '/' => some '/'
  | 'b' => some '\x08'
  | 'f' => some '\x0c'
  | 'n' => some '\n'
  | 'r' => some '\r'
  | 't' => some '\t'
  | _ => none

/-- The code points of a string after its opening quote, as they are written, and the rest. An escape with four
digits is a unit of UTF-16. -/
def readUnits : List Point → Except Fault (List Written × List Point)
  | [] => .error .notJson
  | .char '"' :: rest => .ok ([], rest)
  | .char '\\' :: .char 'u' :: .char a :: .char b :: .char c :: .char d :: rest =>
    match hex4? a b c d with
    | none => .error .notJson
    | some n => do
      let (units, after) ← readUnits rest
      .ok (⟨.ofNat n, true⟩ :: units, after)
  | .char '\\' :: .char e :: rest =>
    match escaped? e with
    | none => .error .notJson
    | some c => do
      let (units, after) ← readUnits rest
      .ok (⟨.char c, false⟩ :: units, after)
  | p :: rest =>
    if p.toChar.toNat < 32 ∨ p = .char '\\' then .error .notJson
    else do
      let (units, after) ← readUnits rest
      .ok (⟨p, false⟩ :: units, after)

/-- A string after its opening quote, and the rest. -/
def readString (ps : List Point) : Except Fault (List Point × List Point) :=
  (readUnits ps).map fun (units, rest) => (Text.joinUnits units, rest)

/-- The digits of a fraction, empty without one, and the rest. -/
def readFraction : List Char → List Char × List Char
  | '.' :: rest =>
    match rest.takeWhile isDigit with
    | [] => ([], '.' :: rest)
    | digits => (digits, rest.dropWhile isDigit)
  | cs => ([], cs)

/-- The exponent, if there is one, and the rest. -/
def readExponent (cs : List Char) : Option Int × List Char :=
  match cs with
  | e :: rest =>
    if e = 'e' ∨ e = 'E' then
      let (negative, body) := Numeral.takeSign rest
      match body.takeWhile isDigit with
      | [] => (none, cs)
      | digits => (some (signed negative (digitsValue digits)), body.dropWhile isDigit)
    else (none, cs)
  | [] => (none, [])

/-- The whole digits of a number: a zero alone, or digits that do not start with zero. -/
def readWhole : List Char → Option (List Char × List Char)
  | '0' :: rest => some (['0'], rest)
  | cs =>
    match cs.takeWhile isDigit with
    | [] => none
    | digits => some (digits, cs.dropWhile isDigit)

def readNumeral (cs : List Char) : Except Fault (Json × List Char) :=
  let (negative, body) :=
    match cs with
    | '-' :: rest => (true, rest)
    | _ => (false, cs)
  match readWhole body with
  | none => .error .notJson
  | some (whole, rest) =>
    let (fraction, rest) := readFraction rest
    let (exponent, rest) := readExponent rest
    if fraction.isEmpty && exponent.isNone then
      if whole.length ≤ Numeral.maxDigits then .ok (.int (signed negative (digitsValue whole)), rest)
      else .error .badValue
    else
      .ok (.real (Double.ofDecimal negative (digitsValue (whole ++ fraction))
        (exponent.getD 0 - fraction.length)), rest)

/-- Stands in numbers. -/
def isNumeric (c : Char) : Bool := isDigit c || ['-', '+', '.', 'e', 'E'].contains c

/-- The characters at the start of a text that stand in numbers, and the rest. -/
def spanNumeric : List Point → List Char × List Point
  | .char c :: rest =>
    if isNumeric c then
      let (cs, after) := spanNumeric rest
      (c :: cs, after)
    else ([], .char c :: rest)
  | ps => ([], ps)

def readNumber (ps : List Point) : Except Fault (Json × List Point) :=
  let (cs, after) := spanNumeric ps
  (readNumeral cs).map fun (v, rest) => (v, rest.map .char ++ after)

def words : List (String × Json) :=
  [("null", .null), ("true", .bool true), ("false", .bool false), ("NaN", .real .nan),
    ("Infinity", .real (.infinite false)), ("-Infinity", .real (.infinite true))]

/-- What the word at the start of a text stands for, and the rest. -/
def readWord? (ps : List Point) : Option (Json × List Point) :=
  words.findSome? fun (word, v) =>
    if (word.toList.map .char).isPrefixOf ps then some (v, ps.drop word.length) else none

mutual

/-- A document and the rest; `fuel` bounds the nesting and the number of items. -/
def readValue : Nat → List Point → Except Fault (Json × List Point)
  | 0, _ => .error .notJson
  | fuel + 1, ps =>
    match ps with
    | .char '"' :: rest => do
      let (s, rest) ← readString rest
      .ok (.str (Text.ofPoints s), rest)
    | .char '[' :: rest =>
      match skipBlank rest with
      | .char ']' :: rest => .ok (.arr [], rest)
      | rest => do
        let (items, rest) ← readItems fuel rest
        .ok (.arr items, rest)
    | .char '\x7b' :: rest =>
      match skipBlank rest with
      | .char '\x7d' :: rest => .ok (.obj [], rest)
      | rest => do
        let (members, rest) ← readMembers fuel rest
        .ok (.obj ((Assoc.lastWins (· == ·) members).map (Prod.map Text.ofPoints id)), rest)
    | _ =>
      match readWord? ps with
      | some found => .ok found
      | none => readNumber ps

/-- The items of an array that has one, up to its closing bracket, and the rest. -/
def readItems : Nat → List Point → Except Fault (List Json × List Point)
  | 0, _ => .error .notJson
  | fuel + 1, ps => do
    let (item, rest) ← readValue fuel ps
    match skipBlank rest with
    | .char ']' :: rest => .ok ([item], rest)
    | .char ',' :: rest =>
      let (more, rest) ← readItems fuel (skipBlank rest)
      .ok (item :: more, rest)
    | _ => .error .notJson

/-- The members of an object that has one, up to its closing brace, and the rest. -/
def readMembers : Nat → List Point → Except Fault (List (List Point × Json) × List Point)
  | 0, _ => .error .notJson
  | fuel + 1, ps =>
    match ps with
    | .char '"' :: rest => do
      let (name, rest) ← readString rest
      match skipBlank rest with
      | .char ':' :: rest =>
        let (value, rest) ← readValue fuel (skipBlank rest)
        match skipBlank rest with
        | .char '\x7d' :: rest => .ok ([(name, value)], rest)
        | .char ',' :: rest =>
          let (more, rest) ← readMembers fuel (skipBlank rest)
          .ok ((name, value) :: more, rest)
        | _ => .error .notJson
      | _ => .error .notJson
    | _ => .error .notJson

end

def ofPoints (ps : List Point) : Except Fault Json := do
  let (v, rest) ← readValue (2 * ps.length + 2) (skipBlank ps)
  if (skipBlank rest).isEmpty then .ok v else .error .notJson

def ofText (s : String) : Except Fault Json := ofPoints (s.toList.map .char)

def ofBytes (bytes : List UInt8) : Except Fault Json :=
  match Text.ofBytes? bytes with
  | some ps => ofPoints ps
  | none => .error .notText

end SeriesCatalog.Json
