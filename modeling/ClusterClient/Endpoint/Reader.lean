import ClusterClient.Failure
import ClusterClient.Url.Reader

/-!
# Reading endpoints

An endpoint is read from a text that is an `http` or `https` URL with a host and without query and
fragment. It is kept as the URL in its normal form. A list of endpoints keeps its order and has to have
one at least; the first one that is refused is the failure.
-/

namespace ClusterClient

namespace Endpoint

/-- The endpoint of a URL, or why it is refused. -/
def ofUrl (value : Value) (url : Url) : Except Failure Endpoint := do
  if url.scheme ≠ "http" && url.scheme ≠ "https" then
    throw (.invalidEndpoint value "scheme must be http or https")
  -- the host is decoded to be looked at, so that one that does not decode is at fault itself
  match Host.shown url.host with
  | .error fault => throw (.domain fault)
  | .ok host =>
    if host.isEmpty then throw (.invalidEndpoint value "missing host")
    -- a mark with nothing behind it is let pass, and stays in the text
    let isPresent (part : Option Text) : Bool := !(part.getD []).isEmpty
    if isPresent url.query || isPresent url.fragment then
      throw (.invalidEndpoint value "query and fragment are not allowed")
    return ⟨url.toText⟩

/-- The failure of a value that cannot be read. It shows the value, and a value that cannot be shown is at
fault itself. -/
def refusal (room : Room) (value : Value) (reason : Text) : Failure :=
  match value.whyUnshown? room.shown with
  | some e => .external e
  | none => .invalidEndpoint value reason

/-- Reads an endpoint from a value. -/
def read (room : Room) (value : Value) : Except Failure Endpoint :=
  let refused := refusal room value "expected a non-empty URL string"
  match value with
  | .scalar (.text t) =>
    if t.isBlank then .error refused
    else
      -- blanks around the text are taken away, but the failure shows it with them
      match Url.read t.strip with
      | .error fault => .error (.invalidEndpoint value fault.message)
      | .ok url => ofUrl value url
  | _ => .error refused

/-- An endpoint as it is handed in: read already, or a value still to be read. -/
inductive Source where
  | value (value : Value)
  | endpoint (endpoint : Endpoint)

/-- The endpoint of a source. -/
def ofSource (room : Room) : Source → Except Failure Endpoint
  | .value v => read room v
  | .endpoint e => .ok e

/-- Reads a list of endpoints. -/
def readAll (room : Room) (sources : List Source) : Except Failure (List Endpoint) := do
  let endpoints ← sources.mapM (ofSource room)
  if endpoints.isEmpty then throw .noMembers
  return endpoints

end Endpoint

end ClusterClient
