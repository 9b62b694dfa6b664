import SeriesCatalog.Search.Address.Host

/-! Web addresses as they are sent: scheme and host in lower case, a service number that the scheme implies
left out, dot segments of the path resolved and every character outside the set of its place percent
encoded. The percent sign belongs to each set, so what is already encoded stays. Addresses are the business of the
HTTP client `httpx`, which is outside the catalog: this module stands for it together with those of hosts, percent
encoding, Punycode and labels. What is proved of searches asks of it only what becomes of addresses that are plainly
spelled and of the path of an index. -/

namespace SeriesCatalog

/-- An address part by part, as it is sent. It has no query of its own. -/
structure Address where
  scheme : List Char
  user : List Char
  host : List Char
  service : Option Int
  path : List Char
  fragment : Option (List Char)
  deriving DecidableEq

namespace Address

open Text

/-! ### Places -/

def isFragmentChar (c : Char) : Bool :=
  decide (32 < c.toNat ∧ c.toNat < 127) && !(['"', '<', '>', '\x60'].contains c)

def isPathChar (c : Char) : Bool :=
  isFragmentChar c && !(['#', '?', '\x7b', '\x7d'].contains c)

/-- Stands as it is in the name of a user. -/
def isUserChar (c : Char) : Bool :=
  isPathChar c && !(['/', ';', '=', '@', '[', '\\', ']', '^', '|'].contains c)

/-- The letters, digits and signs of a scheme, which starts with a letter. -/
def isScheme : List Char → Bool
  | [] => true
  | c :: rest => c.isAlpha && rest.all fun c => c.isAlphanum || ['+', '.', '-'].contains c

def isForbidden (c : Char) : Bool := decide (c.toNat < 32 ∨ c.toNat = 127)

/-- The greatest number of characters of an address and of its parts. -/
def maxLength : Nat := 65536

/-! ### Parts -/

/-- The scheme, which may be empty, and the rest; without a colon after it there is none. -/
def takeScheme (cs : List Char) : List Char × List Char :=
  match cut? ':' cs with
  | some (scheme, rest) => if isScheme scheme then (scheme.map Char.toLower, rest) else ([], cs)
  | none => ([], cs)

/-- The characters of user, host and service number, and the rest. -/
def takeAuthority : List Char → List Char × List Char
  | '/' :: '/' :: rest => rest.span fun c => c ≠ '/' && c ≠ '?' && c ≠ '#'
  | cs => ([], cs)

/-- The parts before and after the last separator. -/
def cutLast? (sep : Char) (cs : List Char) : Option (List Char × List Char) :=
  (cut? sep cs.reverse).map fun (after, before) => (before.reverse, after.reverse)

/-- A host and what follows it. Brackets reach to the last one that closes. -/
def takeHost (cs : List Char) : List Char × List Char :=
  match cs.head?, cutLast? ']' cs with
  | some '[', some (host, after) => (host ++ [']'], after)
  | _, _ => cs.span (· ≠ ':')

def impliedService (scheme : String) : Option Int :=
  if scheme = "ftp" then some 21
  else if scheme = "http" || scheme = "ws" then some 80
  else if scheme = "https" || scheme = "wss" then some 443
  else none

/-- The service number of the characters after a host; none when there are none or the scheme implies it. -/
def readService (scheme : String) (cs : List Char) : Except Fault (Option Int) :=
  let body := if cs.head? = some ':' then cs.drop 1 else cs
  if body.isEmpty then .ok none
  else
    match Numeral.integer? (String.ofList body) with
    | some n => .ok (if some n = impliedService scheme then none else some n)
    | none => .error .badAddress

/-- The segments of a path without those that stand for the place itself or the one above. -/
def resolveDots (segments : List (List Char)) : List (List Char) :=
  let step (kept : List (List Char)) (segment : List Char) : List (List Char) :=
    if segment = ['.'] then kept
    else if segment = ['.', '.'] then (if kept.isEmpty || kept == [[]] then kept else kept.drop 1)
    else segment :: kept
  (segments.foldl step []).reverse

/-- The path of an address. One that is a path alone starts with no colon and no two slashes, and keeps its
dot segments. -/
def readPath (isAlone : Bool) (path : List Char) : Except Fault (List Char) :=
  if isAlone then
    if path.head? = some ':' || ['/', '/'].isPrefixOf path then .error .badAddress
    else .ok (percentEncoded isPathChar path)
  else .ok (percentEncoded isPathChar (['/'].intercalate (resolveDots (pieces '/' path))))

/-- The part of an address that names a service on a host. -/
def authority (a : Address) : List Char :=
  (if a.user.isEmpty then [] else a.user ++ ['@']) ++ a.host ++
    (match a.service with
      | some n => ':' :: (toString n).toList
      | none => [])

/-- With a scheme and a host. Anything else is a path on no host. -/
def isAbsolute (a : Address) : Bool := !a.scheme.isEmpty && !a.host.isEmpty

/-- Fit to be sent: no part is too long, and the host is still one as it is written. -/
def isSendable (a : Address) : Bool :=
  decide (a.path.length ≤ maxLength) && decide (a.authority.length ≤ maxLength) &&
    decide ((a.fragment.getD []).length ≤ maxLength) && (!a.isAbsolute || (Host.write? a.host).isSome)

def readHost (cs : List Char) : Except Fault (List Char) :=
  if cs.isEmpty then .ok []
  else
    match Host.write? cs with
    | some host => .ok host
    | none => .error .badAddress

def read (cs : List Char) : Except Fault Address := do
  let (scheme, rest) := takeScheme cs
  let (named, rest) := takeAuthority rest
  let (user, place) := (cutLast? '@' named).getD ([], named)
  let user := percentEncoded isUserChar user
  let host ← readHost (takeHost place).1
  let service ← readService (String.ofList scheme) (takeHost place).2
  let path ← readPath (scheme.isEmpty && user.isEmpty && host.isEmpty && service.isNone)
    (rest.takeWhile fun c => c ≠ '?' && c ≠ '#')
  let fragment := (cut? '#' rest).map fun (_, after) => percentEncoded isFragmentChar after
  let a : Address := { scheme, user, host, service, path, fragment }
  if cs.length ≤ maxLength && !cs.any isForbidden && a.isSendable then .ok a else .error .badAddress

/-! ### Sending -/

/-- The address with a query, as it is sent. Of one without scheme or host only the path is sent. -/
def textWith (query : String) (a : Address) : String :=
  String.ofList
    (if a.isAbsolute then
      a.scheme ++ "://".toList ++ a.authority ++ a.path ++ '?' :: query.toList ++
        (match a.fragment with
          | some fragment => '#' :: fragment
          | none => [])
    else '/' :: a.path.dropWhile (· = '/') ++ '?' :: query.toList)

end Address

end SeriesCatalog
