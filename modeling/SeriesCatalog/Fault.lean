import SeriesCatalog.Aggregation.Basic
import SeriesCatalog.Outcome.Kind

/-! What can go wrong, by cause. The first group concerns documents of the wrong kind or content and has no
text of its own; the others carry what their message names. -/

namespace SeriesCatalog

/-- How far the failure of a collaborator reaches: a transport failure is reported as a failure of the
search, a cancellation ends whatever waits for the collaborator, and any other one passes as it is. -/
inductive Reach where
  | transport
  | cancellation
  | ordinary
  deriving DecidableEq

/-- A failure that a collaborator raised. -/
structure Failure where
  name : String
  message : String
  reach : Reach
  host : Json
  status : Json

/-- A cause of failure. -/
inductive Fault where
  /-- A member or an operation is asked of a document that has none. -/
  | noMember
  /-- A document cannot be walked, compared, counted or used as a key. -/
  | wrongKind
  /-- A document of the right kind has unusable content. -/
  | badValue
  /-- A number is beyond what it has to become: an infinity has no integer part, a great integer no double. -/
  | outOfRange
  /-- A text is not JSON. -/
  | notJson
  /-- Bytes are not text. -/
  | notText
  /-- An address is unusable. -/
  | badAddress
  /-- The connection is closed. -/
  | closed
  | untypedName (name : String)
  | negativePage
  | reversedPage (first last : String)
  | payloadRefused (kind : OutcomeKind)
  | unknownLevel (level : String)
  | settingsRefused (names : List String)
  | noHosts
  | shapeMismatch (name : String) (expected : Shape) (found : String)
  | malformedMetric (metric : String)
  | unknownFilter (id : String)
  | transportFailed (host detail : String)
  | statusRefused (host : String) (status : Int)
  | malformedReply (host : String) (cause : Fault)
  | raised (failure : Failure)

namespace Fault

/-- The message of a fault that has one. -/
def message? : Fault → Option String
  | .untypedName name => some s!"Aggregation '{name}' has no type prefix; request typed_keys"
  | .negativePage => some "Pagination bounds must be non-negative"
  | .reversedPage first last => some s!"Pagination end {last} is before start {first}"
  | .payloadRefused kind => some s!"Cannot add payload to a {kind.label} result"
  | .unknownLevel level => some s!"Unknown log level '{level}'"
  | .noHosts => some "At least one search host is required"
  | .shapeMismatch name expected found =>
    some s!"Aggregation '{name}' expected {expected.label}, got {found}"
  | .malformedMetric metric => some s!"Metric '{metric}' is not of the form <namespace>.<metric>"
  | .unknownFilter id => some s!"Unknown filter id '{id}'"
  | .transportFailed host detail => some s!"Search request to {host} failed: {detail}"
  | .statusRefused host status => some s!"Search request to {host} returned HTTP {status}"
  | .malformedReply host _ => some s!"Malformed search response from {host}"
  | .raised failure => some failure.message
  | _ => none

/-- A cancellation, which nothing catches. -/
def isCancellation : Fault → Bool
  | .raised failure => failure.reach = .cancellation
  | _ => false

/-- A fault of the content of a reply, which is reported as a malformed reply. An infinite count is not
among them. -/
def isMalformed : Fault → Bool
  | .noMember | .wrongKind | .badValue | .notJson | .notText | .untypedName _ => true
  | _ => false

end Fault

end SeriesCatalog
