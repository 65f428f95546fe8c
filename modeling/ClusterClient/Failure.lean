import ClusterClient.Console.Markup
import ClusterClient.Endpoint.Basic
import ClusterClient.Json.OfValue
import ClusterClient.Payload.Checked
import ClusterClient.Payload.Cluster
import ClusterClient.Url.Basic
import ClusterClient.Url.Domain

/-!
# Failures

Every way in which a call can fail, by cause. A failure of one attempt against one member carries that
member once it is known; when all members have failed, `cluster` carries one failure for each, in the
order in which they were tried. Messages are derived from the causes.
-/

namespace ClusterClient

/-- A fault that this library found, or one that somebody else describes. -/
inductive Told (α : Type) where
  | found (fault : α)
  | told (message : Text)
  deriving DecidableEq, Repr

/-- Endpoint, path and query make no URL; without a URL fault, what they make has no scheme or no host. -/
structure AddressFault where
  endpoint : Endpoint
  path : Text
  why : Option UrlFault
  deriving DecidableEq, Repr

/-- No answer was read. -/
structure TransportFault where
  method : Text
  url : Text
  why : External
  deriving DecidableEq, Repr

/-- A body could not be written or read. -/
inductive BodyFault where
  | request (why : Unwritable)
  | refusal (status : Int) (issues : List Issue)
  | answer (status : Int) (endpoint : Endpoint) (issues : List Issue)
  deriving DecidableEq, Repr

/-- Why one attempt against one member failed. -/
inductive EndpointFault where
  | unspecified (message : Text)
  | address (fault : Told AddressFault)
  | transport (fault : Told TransportFault)
  | status (code : Int)
  | refused (refusal : Refusal) (status : Option Int)
  | body (fault : Told BodyFault)
  deriving DecidableEq, Repr

namespace EndpointFault

/-- What stands in a message for the description of issues. -/
def issuesMark : Text := "<validation>"

def message : EndpointFault → Text
  | unspecified message => message
  | address (.told message) => message
  | address (.found fault) =>
    "Could not build URL from " ++ fault.endpoint.url ++ " and " ++ fault.path.quoted ++
      (match fault.why with
        | some why => Text.ofString ": " ++ why.message
        | none => [])
  | transport (.told message) => message
  | transport (.found fault) =>
    fault.method ++ " " ++ fault.url ++ " failed: " ++ fault.why.kind.name ++ ": " ++ fault.why.message
  | status code => "Unexpected HTTP status " ++ Whole.toText code
  | refused refusal _ => refusal.message
  | body (.told message) => message
  | body (.found (.request why)) => "Could not encode request body: " ++ why.message
  | body (.found (.refusal code _)) =>
    "HTTP " ++ Whole.toText code ++ " body is not an etcd error: " ++ issuesMark
  | body (.found (.answer code endpoint _)) =>
    "Could not decode HTTP " ++ Whole.toText code ++ " body from " ++ endpoint.url ++ ": " ++ issuesMark

/-- The name of the kind of a fault. -/
def kindName : EndpointFault → Text
  | unspecified _ => "EndpointError"
  | address _ => "UrlConstructionError"
  | transport _ => "TransportError"
  | status _ => "UnexpectedStatusError"
  | refused _ _ => "ApiError"
  | body _ => "SerializationError"

/-- The name of the kind of the error behind a fault, where there is one. -/
def causeName? : EndpointFault → Option Text
  | address (.found fault) => fault.why.map UrlFault.kindName
  | transport (.found fault) => some fault.why.kind.name
  | body (.found (.request why)) => some why.external.kind.name
  | body (.found _) => some "ValidationError"
  | _ => none

/-- The issues behind a fault of a body that was read. -/
def issues? : EndpointFault → Option (List Issue)
  | body (.found (.refusal _ issues)) => some issues
  | body (.found (.answer _ _ issues)) => some issues
  | _ => none

end EndpointFault

/-- Why a call failed. -/
inductive Failure where
  | noEndpoints (message : Text)
  | invalidEndpoint (value : Value) (reason : Text)
  | closed (message : Text)
  | noConditions (message : Text)
  | endpoint (fault : EndpointFault) (member : Option Endpoint)
  | cluster (errors : List Failure) (members : List Endpoint)
  | watchDeadline (limit : Value) (errors : List Failure)
  | usedProgress (attempts : Nat)
  | otherEndpoints (held own : List Endpoint)
  | timeoutNotPositive (given : Scalar)
  | timeoutNotNumber (given : Text)
  | unencodable (why : Unencodable)
  | url (fault : UrlFault)
  | domain (fault : DomainFault)
  | markup (fault : Console.MarkupFault)
  | external (error : External)
  /-- An error from outside that has no message: to ask for one fails with another error, which nobody takes for a
  deadline or a cancellation. -/
  | mute (kind : ExternalKind) (why : Failure)

namespace Failure

/-- A call needs a member to try. -/
def noMembers : Failure := noEndpoints "at least one endpoint is required"

/-- The client has been closed. -/
def clientClosed : Failure := closed "client has been closed"

/-- The transport of the client has been closed. -/
def transportClosed : Failure := closed "transport has been closed"

/-- A conditional write needs a condition. -/
def conditionsMissing : Failure := noConditions "current_value or current_modified_index is required"

/-- The name of the kind of a failure. -/
def kindName : Failure → Text
  | noEndpoints _ => "NoEndpointsError"
  | invalidEndpoint _ _ => "InvalidEndpointError"
  | closed _ => "ClientClosedError"
  | noConditions _ => "InvalidConditionsError"
  | endpoint fault _ => fault.kindName
  | cluster _ _ => "ClusterError"
  | watchDeadline _ _ => "WatchTimeoutError"
  | usedProgress _ | otherEndpoints _ _ | timeoutNotPositive _ | timeoutNotNumber _ => "ValueError"
  | unencodable _ => "UnicodeEncodeError"
  | url fault => fault.kindName
  | domain fault => fault.kindName
  | markup fault => fault.kindName
  | external error => error.kind.name
  | mute kind _ => kind.name

/-- The kinds that a failure of this library belongs to, the narrowest first. -/
def lineage (f : Failure) : List Text :=
  match f with
  | noEndpoints _ | invalidEndpoint _ _ => [f.kindName, "ConfigurationError", "EtcdClientError"]
  | closed _ | noConditions _ | cluster _ _ | watchDeadline _ _ => [f.kindName, "EtcdClientError"]
  | endpoint (.unspecified _) _ => [f.kindName, "EtcdClientError"]
  | endpoint _ _ => [f.kindName, "EndpointError", "EtcdClientError"]
  | _ => []

/-- Where the failure at a position happened: the member, or the position if there is none. -/
def place (members : List Endpoint) (position : Nat) : Text :=
  match members[position]? with
  | some member => member.url
  | none => "#" ++ Text.ofNat position

mutual

/-- The message of a failure. -/
def message : Failure → Text
  | noEndpoints message | closed message | noConditions message => message
  | invalidEndpoint value reason =>
    "Invalid endpoint " ++ value.quoted ++ (if reason.isEmpty then ([] : Text) else ": " ++ reason)
  | endpoint fault _ => fault.message
  | cluster errors members =>
    if errors.isEmpty then "All endpoints failed"
    else
      Text.join "\n" (("All " ++ Text.ofNat errors.length ++ " endpoint(s) failed:") ::
        messageLines members 0 errors)
  | watchDeadline limit errors =>
    "Watch timed out after " ++ limit.toText ++ "s (" ++ Text.ofNat errors.length ++
      " endpoint error(s) before the deadline)"
  | usedProgress attempts =>
    "FailoverState already used for " ++ Text.ofNat attempts ++
      " attempt(s); pass a fresh state to each call"
  | otherEndpoints held own =>
    "FailoverState endpoints " ++ Endpoint.quotedList held ++ " do not match executor endpoints " ++
      Endpoint.quotedList own
  | timeoutNotPositive given => "timeout must be positive, got " ++ (Value.scalar given).toText
  | timeoutNotNumber given => "ETCD_TIMEOUT must be a number, got " ++ given.quoted
  | unencodable why => why.message
  | url fault => fault.message
  | domain fault => fault.message
  | markup fault => fault.message
  | external error => error.message
  | mute _ _ => []

/-- A line for each failure from a position on. -/
def messageLines (members : List Endpoint) (position : Nat) : List Failure → List Text
  | [] => []
  | f :: rest =>
    ("  " ++ place members position ++ ": " ++ f.kindName ++ ": " ++ f.message) ::
      messageLines members (position + 1) rest

end

/-- A failure of an attempt is given the member it was made against, unless it has one. -/
def against (member : Endpoint) : Failure → Failure
  | endpoint fault none => endpoint fault (some member)
  | f => f

/-! ## Failures without a message

Errors from outside are shown by code from outside, which may fail in turn. What such an error is asked for then is
answered by that other failure.
-/

/-- What the message of a failure fails with, if it does. -/
def whyMute? : Failure → Option Failure
  | mute _ why => some why
  | _ => none

/-- A failure whose message can be asked for. -/
def Speaks (f : Failure) : Prop := f.whyMute? = none

instance : DecidablePred Speaks
  | mute _ _ => isFalse nofun
  | noEndpoints _ | invalidEndpoint _ _ | closed _ | noConditions _ | endpoint _ _ | cluster _ _
  | watchDeadline _ _ | usedProgress _ | otherEndpoints _ _ | timeoutNotPositive _ | timeoutNotNumber _
  | unencodable _ | url _ | domain _ | markup _ | external _ => isTrue rfl

theorem Speaks.whyMute?_ne {f : Failure} (hf : f.Speaks) (why : Failure) : f.whyMute? ≠ some why := by
  rw [show f.whyMute? = none from hf]
  exact nofun

/-- A failure that does not speak is kept from it by another failure. -/
theorem not_speaks_iff {f : Failure} : ¬f.Speaks ↔ ∃ why, f.whyMute? = some why :=
  Option.ne_none_iff_exists'

/-- An error from outside that is about a value: a missing key is shown quoted, anything else as it is. If the value
cannot be shown, the error has no message. -/
def about (room : Room) (kind : ExternalKind) (what : Value) : Failure :=
  match what.whyUnshown? room.shown with
  | some e => mute kind (external e)
  | none => external ⟨kind, if kind = .key then what.quoted else what.toText⟩

/-- An error about a value that cannot be shown is answered for by what keeps the value from being shown. -/
theorem about_of_whyUnshown? {room : Room} {kind : ExternalKind} {what : Value} {e : External}
    (h : what.whyUnshown? room.shown = some e) : about room kind what = mute kind (external e) := by
  rw [about, h]

/-- The failure of a watch that its deadline interrupts. It shows how long the watch could take, and a number that cannot
be shown is at fault itself. -/
def ofDeadline (room : Room) (limit : Scalar) (errors : List Failure) : Failure :=
  match (Value.scalar limit).whyUnshown? room.shown with
  | some e => external e
  | none => watchDeadline (.scalar limit) errors

/-- A time that can be shown is told with the errors that there were. -/
theorem ofDeadline_of_shown {room : Room} {limit : Scalar}
    (h : (Value.scalar limit).whyUnshown? room.shown = none) (errors : List Failure) :
    ofDeadline room limit errors = watchDeadline (.scalar limit) errors := by
  rw [ofDeadline, h]

/-- A system error with its number. -/
def ofErrno (room : Room) (n : Int) (what : Value) : Failure :=
  match what.whyUnshown? room.shown with
  | some e => mute (.ofErrno n) (external e)
  | none => external ⟨.ofErrno n, "[Errno " ++ Whole.toText n ++ "] " ++ what.toText⟩

/-- A member is told to failures of attempts alone, so that it does not make a failure mute or speak. -/
@[simp] theorem whyMute?_against (member : Endpoint) (f : Failure) :
    (f.against member).whyMute? = f.whyMute? := by
  cases f <;> try rfl
  next fault given => cases given <;> rfl

/-- All members have failed. The failure shows those of the members, and one of them that cannot be shown is at
fault itself. -/
def ofMembers (errors : List Failure) (members : List Endpoint) : Failure :=
  (errors.findSome? whyMute?).getD (cluster errors members)

/-- Failures that can all be shown make one failure of the cluster, which holds them as they are. -/
theorem ofMembers_of_speaks {errors : List Failure} (members : List Endpoint) (h : ∀ f ∈ errors, f.Speaks) :
    ofMembers errors members = cluster errors members := by
  have hnone : errors.findSome? whyMute? = none := List.findSome?_eq_none_iff.2 h
  rw [ofMembers, hnone, Option.getD_none]

end Failure

end ClusterClient
