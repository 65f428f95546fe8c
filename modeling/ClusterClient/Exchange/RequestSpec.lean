import ClusterClient.Failure
import ClusterClient.Form
import ClusterClient.Headers
import ClusterClient.Json.OfValue
import ClusterClient.Json.Writer
import ClusterClient.Payload.Schema
import ClusterClient.Url.Reader

/-!
# What is asked of a member

A specification describes one call against any member: where it goes, what it sends, and how its answer is
to be taken. `address` joins it with an endpoint; `body` writes what is sent. Values in it are shown and written as
far as the room of the caller allows.
-/

namespace ClusterClient

/-- One call against any member. -/
structure RequestSpec where
  method : Text
  path : Text
  query : List (Text × Value)
  /-- A form to send. -/
  form : Option (List (Text × Value))
  /-- A document to send, if there is no form. -/
  document : Option Value
  /-- Statuses of answers whose body is read. -/
  success : List Int
  /-- What the body is read as; nothing is read without one. -/
  schema : Option Schema
  /-- Statuses that stand for a payload by themselves. -/
  statusPayloads : Option (List (Int × Payload))
  /-- Whether the answer may take as long as it needs. -/
  longPoll : Bool

/-- A call that asks for something and carries nothing. -/
def RequestSpec.get (path : Text) : RequestSpec :=
  ⟨"GET", path, [], none, none, [200], none, none, false⟩

/-- What is sent: the octets, if any, and the headers that describe them. -/
structure Body where
  content : Option Octets
  headers : Headers

namespace RequestSpec

def contentType : Text := "content-type"

/-- The octets of an ASCII text. -/
def asciiOctets (t : Text) : Octets := t.flatMap CodePoint.utf8

/-- A named value of a form as it is written. The name comes first, then the value, and its octets last. -/
def writeField (room : Room) (field : Text × Value) : Except Failure Text :=
  match Form.writePart field.1 with
  | .error e => .error (.unencodable e)
  | .ok name =>
    -- the name has been escaped by now, so that a fault in it comes first
    match field.2.text? room with
    | .error e => .error (.external e)
    | .ok t =>
      match Form.writePart t with
      | .error e => .error (.unencodable e)
      | .ok value => .ok (name ++ "=" ++ value)

/-- A form as it is written. Whatever keeps one of its values from being written is the failure. -/
def writeForm (room : Room) (form : List (Text × Value)) : Except Failure Text :=
  Text.join "&" <$> form.mapM (writeField room)

/-- The failure of a document that is not written. There may be no room for it; anything else is a fault of the
document. -/
def unwritten : Unwritable → Failure
  | .depth => .external Unwritable.depth.external
  | why => .endpoint (.body (.found (.request why))) none

/-- The body of a call. -/
def body (room : Room) (spec : RequestSpec) : Except Failure Body :=
  match spec.form, spec.document with
  -- a form wins over a document
  | some form, _ =>
    -- no failure of a form is one of the body: it is raised as it is
    match writeForm room form with
    | .ok written =>
      .ok ⟨some (asciiOctets written), [(contentType, "application/x-www-form-urlencoded")]⟩
    | .error f => .error f
  | none, some document =>
    -- a document has a failure of its own, but for one that is nested too deep
    match document.toJson room.sent with
    | .ok json =>
      .ok ⟨some (asciiOctets (json.toText .compact)), [(contentType, "application/json")]⟩
    | .error why => .error (unwritten why)
  | none, none => .ok ⟨none, []⟩

/-- What the path of a call keeps when it is quoted. -/
def isKeptInPath (c : CodePoint) : Bool :=
  Percent.isUnreserved c || (Text.ofString "/:@!$&'()*+,;=").contains c

/-- The URL of a path below an endpoint, with parameters in its query. -/
def addressUrl (endpoint : Endpoint) (path : Text) (parameters : List (Text × Text)) :
    Except UrlFault Url := do
  -- the endpoint brings the slash between the two
  match Percent.encode isKeptInPath (path.dropWhile (· = CodePoint.ofChar '/')) with
  | .error e => throw (.unencodable e)
  | .ok quoted =>
    let url ← Url.read (endpoint.base ++ quoted)
    -- without parameters the query that the path brings along is left alone
    if parameters.isEmpty then return url
    else url.withParameters parameters

/-- The parameters of a query with their texts, up to the first value that cannot be shown. -/
def parametersOf (room : Room) (query : List (Text × Value)) : Except External (List (Text × Text)) :=
  query.mapM fun p => (p.1, ·) <$> p.2.queryText? room

/-- The failure of an address that is no URL. -/
def noAddress (endpoint : Endpoint) (path : Text) (why : Option UrlFault) : Failure :=
  .endpoint (.address (.found ⟨endpoint, path, why⟩)) (some endpoint)

/-- The failure of parameters that cannot be shown. They are looked at when there is a URL without them. -/
def noParameters (endpoint : Endpoint) (path : Text) (why : External) : Failure :=
  match addressUrl endpoint path [] with
  | .error fault => noAddress endpoint path (some fault)
  | .ok _ =>
    if why.kind.isAboutArgument then noAddress endpoint path (some (.parameter why)) else .external why

/-- The address of a path below an endpoint. -/
def addressOf (room : Room) (endpoint : Endpoint) (path : Text) (query : List (Text × Value)) :
    Except Failure Text :=
  match parametersOf room query with
  | .error why => .error (noParameters endpoint path why)
  | .ok parameters =>
    match addressUrl endpoint path parameters with
    | .error why => .error (noAddress endpoint path (some why))
    | .ok url =>
      -- the text is a URL, but not one that a request can be made to
      if url.scheme.isEmpty then .error (noAddress endpoint path none)
      else
        match Host.shown url.host with
        -- a host that does not decode is raised as it is, and is no failure of the address
        | .error why => .error (.domain why)
        | .ok host => if host.isEmpty then .error (noAddress endpoint path none) else .ok url.toText

/-- The address of a call to a member. -/
def address (room : Room) (spec : RequestSpec) (endpoint : Endpoint) : Except Failure Text :=
  addressOf room endpoint spec.path spec.query

end RequestSpec

end ClusterClient
