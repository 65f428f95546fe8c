import ClusterClient.Console.Trace
import ClusterClient.Exchange.Reply
import ClusterClient.Outcome
import ClusterClient.Settings.Basic

/-!
# Transport

Requests are handed over one at a time and answered later. A request is handed over once its headers and
its body are there, and is refused at once if its address is no URL or a header is not ASCII. Errors of
the network become failures of the transport, unless they have no message; other errors stay what they are. Once
closed, the transport hands nothing over.

If tracing is on, requests and answers are printed. What cannot be printed fails the request.
-/

namespace ClusterClient

/-- A request as it is handed over. -/
structure Request where
  method : Text
  url : Text
  headers : Headers
  body : Option Octets
  longPoll : Bool

/-- A request that has been handed over, and whether it was taken back before an answer came. -/
structure Issued where
  request : Request
  cancelled : Bool

/-- A request that waits for its answer, and its position among those handed over. -/
structure Pending where
  number : Nat
  request : Request

/-- What comes back for a request. -/
inductive Answer where
  | reply (reply : Reply)
  | fails (failure : Failure)
  | cancelled

/-- What is to be sent: text, octets, or nothing. -/
inductive Content where
  | nothing
  | text (t : Text)
  | octets (body : Octets)

/-- The octets to be sent. -/
def Content.encoded : Content → Except Unencodable (Option Octets)
  | nothing => .ok none
  | text t => some <$> t.encode .utf8
  | octets body => .ok (some body)

/-- The transport of a client. `closings` counts how often the connections have been closed. Its calls are made from
wherever the program stands, so that they have the same room. -/
structure Transport where
  settings : ResolvedSettings
  room : Room
  closed : Bool
  closings : Nat
  issued : List Issued
  console : List Text

namespace Headers

def acceptName : Text := "accept"

def authorizationName : Text := "Authorization"

/-- The headers with the kind of answer that is accepted, if they do not name one. -/
def withAccept (headers : Headers) : Headers :=
  if headers.has acceptName then headers else headers.put acceptName "application/json"

/-- The octets of headers are ASCII; the first part that is not is the fault. -/
def encodable : Headers → Except Unencodable Unit
  | [] => .ok ()
  | (name, value) :: rest => do
    let _ ← name.encode .ascii
    let _ ← value.encode .ascii
    encodable rest

end Headers

/-- Configured headers, those of a call, and credentials, each over those before. -/
def ResolvedSettings.headersFor (settings : ResolvedSettings) (call : Headers) :
    Except Unencodable Headers :=
  let headers := (settings.headers.merge call).withAccept
  match settings.credentials with
  | none => .ok headers
  | some credentials => (headers.put Headers.authorizationName ·) <$> credentials.header

/-- Whether a request can be sent at all. -/
def Request.check (r : Request) : Except Failure Unit :=
  match Url.read r.url with
  | .error fault => .error (.url fault)
  | .ok _ =>
    match Headers.encodable r.headers with
    | .error e => .error (.unencodable e)
    | .ok () => .ok ()

namespace Transport

/-- The width of the console. -/
def consoleWidth : Nat := 100

/-- A transport that has done nothing yet. -/
def fresh (room : Room) (settings : ResolvedSettings) : Transport := ⟨settings, room, false, 0, [], []⟩

/-- Prints a trace if tracing is on. -/
def print (t : Transport) (trace : Console.Printed) : Transport × Except Failure Unit :=
  if t.settings.trace then
    let printed := { t with console := t.console ++ trace.lines }
    match trace.stopped with
    | none => (printed, .ok ())
    | some why => (printed, .error why.failure)
  else (t, .ok ())

/-- Hands a request over. -/
def hand (t : Transport) (r : Request) : Transport × Except Failure Pending :=
  -- a request counts as handed over even if it is refused there
  let handed := { t with issued := t.issued ++ [⟨r, false⟩] }
  match r.check with
  | .ok () => (handed, .ok ⟨t.issued.length, r⟩)
  | .error f => (handed, .error f)

/-- Builds a request and hands it over. -/
def issue (t : Transport) (method url : Text) (headers : Headers) (content : Content)
    (longPoll : Bool) : Transport × Except Failure Pending :=
  -- closed before anything is looked at
  if t.closed then (t, .error .transportClosed)
  else
    match t.settings.headersFor headers with
    | .error e => (t, .error (.unencodable e))
    | .ok headers =>
      match content.encoded with
      | .error e => (t, .error (.unencodable e))
      | .ok body =>
        -- what cannot be printed keeps the request from being handed over
        match t.print (Console.Trace.request t.room consoleWidth method url headers (body.getD [])) with
        | (t, .error f) => (t, .error f)
        | (t, .ok ()) => t.hand ⟨method, url, headers, body, longPoll⟩

/-- A failure of the transport stands for an error of the network. -/
def networkFault (r : Request) (e : External) : Failure :=
  .endpoint (.transport (.found ⟨r.method, r.url, e⟩)) none

/-- Takes what comes back for a request. -/
def receive (t : Transport) (r : Request) (answer : Answer) : Transport × Outcome Reply :=
  match answer with
  | .reply reply =>
    -- an answer that cannot be printed is lost, although the member has acted on the request
    match t.print (Console.Trace.response t.room consoleWidth r.url reply.status reply.headers reply.body) with
    | (t, .ok ()) => (t, .returned reply)
    | (t, .error f) => (t, .raised f)
  | .fails (.external e) =>
    -- errors of the network alone are traced, and become failures of the transport
    if e.kind.isNetwork then
      match t.print (Console.Trace.error consoleWidth r.method r.url e.kind.name e.message) with
      | (t, .ok ()) => (t, .raised (networkFault r e))
      | (t, .error f) => (t, .raised f)
    else (t, .raised (.external e))
  -- an error of the network is asked for its message before anything is printed
  | .fails (.mute kind why) => if kind.isNetwork then (t, .raised why) else (t, .raised (.mute kind why))
  | .fails f => (t, .raised f)
  | .cancelled => (t, .cancelled)

/-- Takes a request back. -/
def withdraw (t : Transport) (number : Nat) : Transport :=
  { t with issued := t.issued.modify number fun issued => { issued with cancelled := true } }

/-- Closes the transport, unless it has been closed. -/
def close (t : Transport) : Transport :=
  if t.closed then t else { t with closed := true, closings := t.closings + 1 }

/-! ## One call against one member -/

/-- Makes the request of a call to a member. -/
def dispatch (t : Transport) (spec : RequestSpec) (endpoint : Endpoint) :
    Transport × Except Failure Pending :=
  match spec.address t.room endpoint with
  | .error f => (t, .error (f.against endpoint))
  | .ok url =>
    match spec.body t.room with
    | .error f => (t, .error (f.against endpoint))
    | .ok body =>
      let content := match body.content with
        | none => Content.nothing
        | some octets => Content.octets octets
      match t.issue spec.method url body.headers content spec.longPoll with
      | (t, .ok pending) => (t, .ok pending)
      | (t, .error f) => (t, .error (f.against endpoint))

/-- Takes the answer of a member to the request of a call. -/
def conclude (t : Transport) (spec : RequestSpec) (endpoint : Endpoint) (r : Request)
    (answer : Answer) : Transport × Outcome Response :=
  match t.receive r answer with
  | (t, .returned reply) =>
    match reply.classify spec endpoint with
    | .ok response => (t, .returned response)
    | .error f => (t, .raised f)
  | (t, .raised f) => (t, .raised (f.against endpoint))
  | (t, .cancelled) => (t, .cancelled)

end Transport

end ClusterClient
