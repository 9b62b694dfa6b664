import SeriesCatalog.Assoc
import SeriesCatalog.Text.Blank

/-! Files of environment variables, one `NAME=value` a line. A line may start with the word `export` and end
with a comment; names stand alone or in single quotes, values alone, in single or in double quotes, and a
quoted value may hold line ends. A name without an equals sign has no value. A line that cannot be read is
passed over. Inside values `${NAME}` and `${NAME:-default}` stand for other variables. The grammar is that of the
reader of such files below `pydantic-settings`, which is outside the catalog; no theorem depends on its details. -/

namespace SeriesCatalog.EnvFile

open Text

def isInlineBlank (c : Char) : Bool := isBlank c && c ≠ '\n' && c ≠ '\r'

def isLineEnd (c : Char) : Bool := c = '\n' || c = '\r'

def unifyLineEnds : List Char → List Char
  | [] => []
  | '\r' :: '\n' :: rest => '\n' :: unifyLineEnds rest
  | '\r' :: rest => '\n' :: unifyLineEnds rest
  | c :: rest => c :: unifyLineEnds rest

def afterLine (cs : List Char) : List Char := (cs.dropWhile (!isLineEnd ·)).drop 1

/-- The characters after the word `export` and blanks, if that is how they start. -/
def afterExport (cs : List Char) : List Char :=
  match cs with
  | 'e' :: 'x' :: 'p' :: 'o' :: 'r' :: 't' :: c :: rest =>
    if isInlineBlank c then rest.dropWhile isInlineBlank else cs
  | _ => cs

/-- The characters up to a closing quote, and the rest. A character after a backslash closes nothing. -/
def untilQuote (quote : Char) : List Char → Option (List Char × List Char)
  | [] => none
  | [c] => if c = quote then some ([], []) else none
  | c :: d :: rest =>
    if c = quote then some ([], d :: rest)
    else if c = '\\' then (untilQuote quote rest).map fun (body, after) => (c :: d :: body, after)
    else (untilQuote quote (d :: rest)).map fun (body, after) => (c :: body, after)

/-- What a character after a backslash stands for between single quotes. -/
def singleEscape? : Char → Option Char
  | '\\' => some '\\'
  | '\'' => some '\''
  | _ => none

/-- What a character after a backslash stands for between double quotes. -/
def doubleEscape? : Char → Option Char
  | '\\' => some '\\'
  | '\'' => some '\''
  | '"' => some '"'
  | 'a' => some '\x07'
  | 'b' => some '\x08'
  | 'f' => some '\x0c'
  | 'n' => some '\n'
  | 'r' => some '\r'
  | 't' => some '\t'
  | 'v' => some '\x0b'
  | _ => none

/-- A text with its escapes resolved; a backslash before any other character stays. -/
def unescape (escape? : Char → Option Char) : List Char → List Char
  | [] => []
  | [c] => [c]
  | c :: d :: rest =>
    if c = '\\' then
      match escape? d with
      | some e => e :: unescape escape? rest
      | none => c :: unescape escape? (d :: rest)
    else c :: unescape escape? (d :: rest)

/-- An unquoted value up to the first comment, which has a blank before it. -/
def beforeComment : List Char → List Char
  | [] => []
  | c :: rest =>
    if isBlank c ∧ (rest.dropWhile isBlank).head? = some '#' then [] else c :: beforeComment rest

/-- A name, none before a comment, and the rest; nothing when there is no name where one is needed. -/
def readName (cs : List Char) : Option (Option String × List Char) :=
  match cs with
  | '#' :: _ => some (none, cs)
  | '\'' :: rest =>
    match rest.span (· ≠ '\'') with
    | ([], _) => none
    | (_, []) => none
    | (name, _ :: after) => some (some (String.ofList name), after)
  | _ =>
    match cs.span fun c => c ≠ '=' && c ≠ '#' && !isBlank c with
    | ([], _) => none
    | (name, after) => some (some (String.ofList name), after)

/-- A value without quotes: what stands before a comment, without the blanks around it. -/
def plainValue (line : List Char) : List Char := trimBy isBlank (beforeComment line)

/-- A value and the rest. Blanks may stand before it. -/
def readValue (cs : List Char) : Option (List Char × List Char) :=
  match cs.dropWhile isInlineBlank with
  | '\'' :: rest => (untilQuote '\'' rest).map fun (body, after) => (unescape singleEscape? body, after)
  | '"' :: rest => (untilQuote '"' rest).map fun (body, after) => (unescape doubleEscape? body, after)
  | _ =>
    let (line, after) := cs.span (!isLineEnd ·)
    some (plainValue line, after)

/-- What follows a name or a value: blanks, a comment and the end of the line. -/
def readLineEnd (cs : List Char) : Option (List Char) :=
  let cs :=
    match cs.dropWhile isInlineBlank with
    | '#' :: rest => rest.dropWhile (!isLineEnd ·)
    | _ => cs
  match cs.dropWhile isInlineBlank with
  | [] => some []
  | c :: rest => if isLineEnd c then some rest else none

/-- A variable of the file: its name and its value, if it has one. -/
abbrev Binding := String × Option (List Char)

/-- One line, without the blanks before it, and the rest; the line may hold no variable. -/
def readLine (cs : List Char) : Option Binding × List Char :=
  match readName (afterExport cs) with
  | none => (none, afterLine (afterExport cs))
  | some (name, rest) =>
    let rest := rest.dropWhile isInlineBlank
    let value : Option (Option (List Char) × List Char) :=
      match rest with
      | '=' :: more => (readValue more).map fun (v, after) => (some v, after)
      | _ => some (none, rest)
    match value with
    | none => (none, afterLine (rest.drop 1))
    | some (value, after) =>
      match readLineEnd after with
      | some next => (name.map (·, value), next)
      | none => (none, afterLine after)

/-- The variables of a file in order; `fuel` bounds the number of lines. -/
def readLines : Nat → List Char → List Binding
  | 0, _ => []
  | fuel + 1, cs =>
    match cs.dropWhile isBlank with
    | [] => []
    | body =>
      let (binding, rest) := readLine body
      binding.toList ++ readLines fuel rest

/-! ### Variables inside values -/

/-- The name, the default and the rest of a variable, after its opening brace. -/
def readVariable (cs : List Char) : Option (List Char × List Char × List Char) :=
  match cs.span fun c => c ≠ '\x7d' && c ≠ ':' with
  | (name, '\x7d' :: after) => some (name, [], after)
  | (name, ':' :: '-' :: more) =>
    match more.span (· ≠ '\x7d') with
    | (fallback, _ :: after) => some (name, fallback, after)
    | (_, []) => none
  | _ => none

/-- A value with its variables resolved; `fuel` bounds its length. -/
def expand (resolve : String → Option (List Char)) : Nat → List Char → List Char
  | 0, cs => cs
  | _, [] => []
  | fuel + 1, '$' :: '\x7b' :: rest =>
    match readVariable rest with
    | some (name, fallback, after) =>
      (resolve (String.ofList name)).getD fallback ++ expand resolve fuel after
    | none => '$' :: expand resolve fuel ('\x7b' :: rest)
  | fuel + 1, c :: rest => c :: expand resolve fuel rest

/-- The variables with their values resolved: a variable earlier in the file stands before one of the
environment, and one without a value is empty. -/
def resolveAll (environment : List (String × String)) (bindings : List Binding) : List Binding :=
  bindings.foldl (fun held (name, value) =>
    let resolve (wanted : String) : Option (List Char) :=
      match held.lookup wanted with
      | some found => some (found.getD [])
      | none => (environment.lookup wanted).map String.toList
    Assoc.put (· == ·) name (value.map fun cs => expand resolve (cs.length + 1) cs) held) []

/-- The characters of a file without a byte order mark before them. -/
def withoutMark (cs : List Char) : List Char := if cs.head? = some (Char.ofNat 0xFEFF) then cs.drop 1 else cs

def read (environment : List (String × String)) (file : String) : List (String × Option String) :=
  let cs := unifyLineEnds (withoutMark file.toList)
  (resolveAll environment (readLines (cs.length + 1) cs)).map fun (name, value) =>
    (name, value.map String.ofList)

end SeriesCatalog.EnvFile
