import SeriesCatalog.Json.Reader
import SeriesCatalog.Response.Basic
import SeriesCatalog.Search.Address.Basic
import SeriesCatalog.Search.Request
import SeriesCatalog.Telemetry.Event

/-! Searching several clusters at once. The same request goes to every host. The search succeeds when every
host has answered, with the responses in the order of the hosts; it fails with the first failure that
arrives, and the hosts that are still awaited then are cancelled. -/

namespace SeriesCatalog

/-- The hosts of a search and the names of their indexes. -/
structure Cluster where
  hosts : List String
  indexSuffix : String
  allIndex : String
  isOpen : Bool

/-- A request as it is sent to one host, for one index. -/
structure Posting where
  host : String
  index : String
  address : Address
  body : Members

/-- The body of a reply: a document, or bytes that have yet to be read as one. -/
inductive Body where
  | document (v : Json)
  | bytes (bs : List UInt8)

def Body.read : Body → Except Fault Json
  | .document v => .ok v
  | .bytes bs => Json.ofBytes bs

/-- What comes back from a host. -/
inductive Reply where
  | answered (status : Int) (body : Body)
  | failed (failure : Failure)

/-- A reply and the place of its host among the hosts. -/
structure Arrival where
  host : Nat
  reply : Reply

/-- How a search went. There is no result while a host is awaited and none has failed. -/
structure Answer where
  result : Option (Except Fault (List Response))
  requests : List Posting
  cancelled : List String
  events : List Event

def allNamespaces : String := "all_namespace"

namespace Cluster

/-- The cluster of the given hosts, of which there has to be one. Slashes at the end of a host are
dropped. -/
def ofHosts (hosts : List String) (indexSuffix allIndex : String) : Except Fault Cluster :=
  if hosts.isEmpty then .error .noHosts
  else .ok ⟨hosts.map (Text.dropTrailing '/'), indexSuffix, allIndex, true⟩

/-- The index of a target: one of its own for every namespace, else the namespace with the suffix. -/
def indexFor (c : Cluster) (target : String) : String :=
  if target = allNamespaces then c.allIndex else target ++ c.indexSuffix

def close (c : Cluster) : Cluster := { c with isOpen := false }

/-! ### One host -/

def addressOf (host index : String) : String := host ++ "/" ++ index ++ "/_search"

/-- The query of a search: names come with their types. -/
def searchQuery : String := "typed_keys=true"

/-- The address of a posting as it is sent. -/
def urlOf (p : Posting) : String := p.address.textWith searchQuery

/-- The request to a host, or the fault that keeps it from being sent. -/
def posting (c : Cluster) (index : String) (body : List (Json × Json)) (host : String) :
    Except Fault Posting := do
  let address ← Address.read (addressOf host index).toList
  if !Request.isWritable body then .error .badValue
  else if !c.isOpen then .error .closed
  else .ok ⟨host, index, address, Json.named body⟩

/-- A fault met in a reply: one of its content is a malformed reply of the host. -/
def replyFault (host : String) (fault : Fault) : Fault :=
  if fault.isMalformed then .malformedReply host fault else fault

/-- The response of a reply to a posting. Only a status of 400 or more refuses. An answer that comes from no
absolute address is refused whatever it is. -/
def receive (p : Posting) : Reply → Except Fault Response
  | .answered status body =>
    if !p.address.isAbsolute then .error .badValue
    else if 400 ≤ status then .error (.statusRefused p.host status)
    else
      match body.read.bind Response.read with
      | .ok response => .ok response
      | .error fault => .error (replyFault p.host fault)
  | .failed failure =>
    if failure.reach = .transport then .error (.transportFailed p.host failure.message)
    else .error (.raised failure)

/-- The event of a reply that is a failure of its cluster. -/
def eventOf (p : Posting) : Reply → Option Event
  | .answered status _ =>
    if p.address.isAbsolute && 400 ≤ status then some (.statusRefused p.host p.index status) else none
  | .failed failure =>
    if failure.reach = .transport then some (.transportFailed p.host p.index failure.message) else none

/-! ### All hosts -/

/-- A host that is done, by its place, with its response or fault. -/
abbrev Completion := Nat × Except Fault Response

/-- The first fault of a list of completions. -/
def firstFault : List Completion → Option Fault
  | [] => none
  | (_, .error fault) :: _ => some fault
  | (_, .ok _) :: rest => firstFault rest

def responseOf (completions : List Completion) (host : Nat) : Option Response :=
  match completions.lookup host with
  | some (.ok response) => some response
  | _ => none

/-- The result for `hosts` hosts once the completions have come in, in their order. -/
def settle (hosts : Nat) (completions : List Completion) : Option (Except Fault (List Response)) :=
  match firstFault completions with
  | some fault => some (.error fault)
  | none => ((List.range hosts).mapM (responseOf completions)).map .ok

/-- The hosts that cannot be asked, as completions. -/
def unsent : Nat → List (Except Fault Posting) → List Completion
  | _, [] => []
  | host, .ok _ :: rest => unsent (host + 1) rest
  | host, .error fault :: rest => (host, .error fault) :: unsent (host + 1) rest

/-- The requests that are sent, by the places of their hosts. -/
def sent : Nat → List (Except Fault Posting) → List (Nat × Posting)
  | _, [] => []
  | host, .ok p :: rest => (host, p) :: sent (host + 1) rest
  | host, .error _ :: rest => sent (host + 1) rest

/-- The replies to requests that were sent, each with its request. -/
def answered (asked : List (Nat × Posting)) (arrivals : List Arrival) : List (Posting × Arrival) :=
  arrivals.filterMap fun a => (asked.lookup a.host).map (·, a)

def awaited (asked : List (Nat × Posting)) (arrivals : List Arrival) : List Posting :=
  (asked.filter fun (host, _) => !(arrivals.any (·.host == host))).map (·.2)

/-- Searches a target; `arrivals` are the replies that come back before the search is over, in the order in
which they do. -/
def search (c : Cluster) (request : Request) (target : String) (arrivals : List Arrival) : Answer :=
  match request.toBody with
  | .error fault => ⟨some (.error fault), [], [], []⟩
  | .ok body =>
    let postings := c.hosts.map (c.posting (c.indexFor target) body)
    let asked := sent 0 postings
    let replies := answered asked arrivals
    let completions := unsent 0 postings ++ replies.map fun (p, a) => (a.host, receive p a.reply)
    let result := settle c.hosts.length completions
    { result
      requests := asked.map (·.2)
      cancelled :=
        match result with
        | some (.error _) => (awaited asked arrivals).map (·.host)
        | _ => []
      events := replies.filterMap fun (p, a) => eventOf p a.reply }

end Cluster

end SeriesCatalog
