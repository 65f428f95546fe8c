import ClusterClient.Exchange.ClusterInfo
import ClusterClient.Exchange.RequestSpec

/-!
# Taking an answer

The answer of a member is a status, headers and octets. What it means depends on what was asked: the
payload of a success, a refusal in the cluster's own words, or an answer that makes no sense. Headers tell
the state of the cluster and decide nothing.
-/

namespace ClusterClient

/-- The answer of a member, not yet read. -/
structure Reply where
  status : Int
  headers : Headers
  body : Octets

/-- Whether the status is one of success. -/
def Reply.isOk (r : Reply) : Bool := 200 ≤ r.status && r.status < 300

/-- The answer to a call: the payload, the state of the cluster, and the member that gave it. -/
structure Response where
  payload : Payload
  cluster : ClusterInfo
  endpoint : Endpoint

namespace Reply

/-- Octets that are blank in ASCII. -/
def isBlankOctet (b : UInt8) : Bool := (0x09 ≤ b && b ≤ 0x0D) || b = 0x20

/-- Why an answer without success fails the attempt. -/
def refusal (r : Reply) : EndpointFault :=
  -- without a body there are no words to read
  if r.body.all isBlankOctet then .status r.status
  else
    match Reading.decode Refusal.ofJson r.body with
    | .ok refusal => .refused refusal (some r.status)
    | .refused issues => .body (.found (.refusal r.status issues))

/-- The payload that a status stands for by itself; of two for one status the last. -/
def payloadFor? (payloads : List (Int × Payload)) (status : Int) : Option Payload :=
  payloads.foldl (fun found p => if p.1 = status then some p.2 else found) none

/-- The payload of an answer, or why it fails the attempt. -/
def payload (r : Reply) (spec : RequestSpec) (endpoint : Endpoint) : Except EndpointFault Payload :=
  match spec.statusPayloads with
  | some payloads =>
    match payloadFor? payloads r.status with
    | some payload => .ok payload
    | none =>
      match r.refusal with
      | .refused refusal status => .error (.refused refusal status)
      -- a body that words no refusal is not looked into any further here
      | _ => .error (.status r.status)
  | none =>
    -- success is what the call says it is, not what is common
    if spec.success.contains r.status then
      match spec.schema with
      | none => .ok .nothing
      | some schema =>
        match schema.decode r.body with
        | .ok payload => .ok payload
        | .refused issues => .error (.body (.found (.answer r.status endpoint issues)))
    else .error r.refusal

/-- Takes the answer of a member to a call. -/
def classify (r : Reply) (spec : RequestSpec) (endpoint : Endpoint) : Except Failure Response :=
  match r.payload spec endpoint with
  | .ok payload => .ok ⟨payload, ClusterInfo.ofHeaders r.headers, endpoint⟩
  | .error fault => .error (.endpoint fault (some endpoint))

end Reply

end ClusterClient
