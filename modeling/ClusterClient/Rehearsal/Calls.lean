import ClusterClient.Client.Api
import ClusterClient.Rehearsal.Cast

/-!
# Rehearsing calls

Steps taken one after the other on one client, each against a script of its own: the script says, in the
order in which requests are handed over, how each is answered. A request is answered a microsecond later
than the one before, besides the time that its script names. Each step gives a report of what was done in
it.
-/

namespace ClusterClient.Rehearsal

/-- How the requests of a step are answered. -/
abbrev AnswerScript := List (Cue Answer)

/-- The course of the answer to a request, the first one of a step being at a position. Requests that the
script does not mention meet no server. -/
def AnswerScript.timetable (script : AnswerScript) (first : Nat) : Timetable := fun number =>
  let i := number - first
  let latency := (i + 1) * nanosecondsPerMicrosecond
  match script[i]? with
  | some (.after milliseconds a) => .ends (milliseconds * nanosecondsPerMillisecond + latency) a
  | some .never => .never
  | none => .ends latency (.fails (.external ⟨.connectError, "unscripted"⟩))

/-- Adds a header of an answer: one of the same name takes the value along, after a comma. -/
def appendHeader (headers : Headers) (header : Text × Text) : Headers :=
  let name := header.1.toAsciiLower
  match (headers.find? fun h => h.1 = name).map Prod.snd with
  | some value => headers.put name (value ++ ", " ++ header.2)
  | none => headers.put name header.2

/-- The answer with a status, headers and a body. Names of headers are in lower case, and the length of a
body is told unless it is told already. -/
def scriptedReply (status : Int) (headers : List (Text × Text)) (body : Octets) : Reply :=
  let told := headers.foldl appendHeader []
  let length : Text := "content-length"
  ⟨status, if body.isEmpty || told.has length then told
    else told.put length (Text.ofNat body.length), body⟩

/-- Statuses of answers that send the caller elsewhere. -/
def redirecting : List Int := [301, 302, 303, 307, 308]

/-- The answer of a server. One that sends the caller to what is no URL breaks the protocol. -/
def scriptedAnswer (status : Int) (headers : List (Text × Text)) (body : Octets) : Answer :=
  let reply := scriptedReply status headers body
  let location := if redirecting.contains status then reply.headers.lookup? "location" else none
  match location.map Url.read with
  | some (.error fault) =>
    .fails (.external
      ⟨.remoteProtocolError, "Invalid URL in location header: " ++ fault.message ++ "."⟩)
  | _ => .reply reply

/-- What is done in a step: a call of the caller, with progress of a name or without it, or something below the calls,
which no caller does. -/
inductive ClientCall where
  | api (call : ApiCall)
  | executeWith (spec : RequestSpec) (progress : Text)
  | dispatch (spec : RequestSpec) (member : Nat)
  | issue (method url : Text) (headers : Headers) (content : Content) (longPoll : Bool)
  | headers (call : Headers)
  | enter
  | close

/-- One step. -/
inductive ClientStep where
  | register (l : Listener) (habits : Habits)
  | deregister (l : Listener) (habits : Habits)
  | remove (l : Listener) (habits : Habits)
  | call (c : ClientCall) (script : AnswerScript)

/-- What a call has given. -/
inductive CallResult where
  | nothing
  | client
  | response (r : Response)
  | reply (r : Reply)
  | headers (h : Headers)
  | gathered (g : Client.Given)
  | failed (f : Failure)
  | cancelled
  | unfinished

/-- What is reported of a call. -/
structure CallReport where
  result : CallResult
  requests : List Issued
  closed : Bool
  deliveries : List Delivery
  failures : Nat
  console : List Text
  progress : Option Progress

/-- What is reported of a step. -/
inductive ClientReport where
  | listeners (count : Nat)
  | called (report : CallReport)

/-- A rehearsal under way. -/
structure Theatre where
  client : Client
  cast : Cast
  everRegistered : List Listener
  names : List (Text × Nat)

/-- The path and query of an address that has no scheme or no host: such an address means a place below a
root that nobody knows. -/
def rootless? (address : Text) : Option Text :=
  match Url.read address with
  | .error _ => none
  | .ok url =>
    if url.scheme.isEmpty || url.host.isEmpty then
      some ("/" ++ url.path.dropWhile (· = CodePoint.ofChar '/') ++ Url.following "?" url.query)
    else none

/-- An answer as it arrives. An answer from an address without a root cannot be taken. -/
def arriving (r : Request) : Answer → Answer
  | .reply reply =>
    match rootless? r.url with
    | some path => .fails (.external ⟨.value, "unknown url type: " ++ path.quoted⟩)
    | none => .reply reply
  | a => a

namespace CallResult

/-- What an ended call has given. -/
def ofResult : Client.Result → CallResult
  | none => unfinished
  | some (.returned r) => response r
  | some (.raised f) => failed f
  | some .cancelled => cancelled

/-- What a call of the caller has given: responses of all members, or one response. -/
def ofGiven (call : ApiCall) (g : Client.Given) : CallResult :=
  if call.isAtOnce then gathered g else ofResult g.ending

/-- What an exchange has given. -/
def ofReply : Outcome Reply → CallResult
  | .returned r => reply r
  | .raised f => failed f
  | .cancelled => cancelled

end CallResult

namespace Theatre

/-- A rehearsal with a new client. -/
def opened (settings : ResolvedSettings) : Theatre :=
  ⟨.fresh .usual settings (Cast.population []), [], [], []⟩

/-- A listener is mentioned. -/
def mention (l : Listener) (habits : Habits) (s : Theatre) : Theatre :=
  let cast := s.cast.mention l habits
  { s with
    cast
    client := { s.client with failover := { s.client.failover with population := cast.population } } }

/-- Listeners that came in during a step are mentioned. -/
def meetNewcomers (s : Theatre) : Theatre :=
  s.client.failover.observers.registered.foldl (fun s l => s.mention l .none) s

/-- The registry is changed from outside. -/
def change (c : Change) (s : Theatre) : Theatre := { s with client := s.client.change c }

/-- How many registrations there are. -/
def count (s : Theatre) : ClientReport := .listeners s.client.failover.observers.registered.length

/-- The position of the progress of a name, and the theatre in which it is there. -/
def progressOf (name : Text) (s : Theatre) : Theatre × Nat :=
  match s.names.find? fun entry => entry.1 = name with
  | some (_, i) => (s, i)
  | none =>
    let i := s.client.failover.progresses.length
    ({ s with client := s.client.addProgress s.client.endpoints, names := (name, i) :: s.names }, i)

/-- Makes one request without a call around it. -/
def issueOne (method url : Text) (headers : Headers) (content : Content) (longPoll : Bool)
    (timetable : Timetable) (c : Client) : Client × CallResult :=
  match c.transport.issue method url headers content longPoll with
  | (t, .error f) => ({ c with transport := t }, .failed f)
  | (t, .ok pending) =>
    match timetable pending.number with
    | .never => ({ c with transport := t }, .unfinished)
    | .ends _ a =>
      let (t, outcome) := t.receive pending.request (arriving pending.request a)
      ({ c with transport := t }, .ofReply outcome)

/-- Makes a call of the caller. -/
def serve (call : ApiCall) (timetable : Timetable) (c : Client) : Client × CallResult :=
  (c.serve call timetable).map id (.ofGiven call)

/-- Does what is to be done in a step. -/
def perform (call : ClientCall) (progress : Option Nat) (timetable : Timetable) (c : Client) :
    Client × CallResult :=
  match call with
  | .api call => serve call timetable c
  | .executeWith spec _ =>
    match progress with
    | some i => serve (.executeWith spec i) timetable c
    | none => serve (.execute spec) timetable c
  | .dispatch spec member =>
    match c.endpoints[member]? with
    | some endpoint => (c.dispatchOne spec endpoint timetable).map id .ofResult
    | none => (c, .nothing)
  | .issue method url headers content longPoll =>
    issueOne method url headers content longPoll timetable c
  | .headers call =>
    match c.settings.headersFor call with
    | .ok headers => (c, .headers headers)
    | .error e => (c, .failed (.unencodable e))
  | .enter => (c, .client)
  | .close => (c.close, .nothing)

/-- The theatre after a call, with its report. -/
def call (call : ClientCall) (script : AnswerScript) (s : Theatre) : Theatre × CallReport :=
  let (s, position) : Theatre × Option Nat :=
    match call with
    | .executeWith _ name =>
      let (s, i) := s.progressOf name
      (s, some i)
    | _ => (s, none)
  let before := s.client
  let first := before.transport.issued.length
  let (c, result) := perform call position (script.timetable first) before
  let report : CallReport :=
    { result
      requests := c.transport.issued.drop first
      closed := c.transport.closed
      deliveries := c.failover.observers.deliveries.drop before.failover.observers.deliveries.length
      failures := c.failover.observers.failures - before.failover.observers.failures
      console := c.transport.console.drop before.transport.console.length
      progress := position.bind fun i => c.failover.progresses[i]? }
  (meetNewcomers { s with client := c }, report)

/-- The theatre after a step, with its report. -/
def step (s : Theatre) : ClientStep → Theatre × ClientReport
  | .register l habits =>
    let s := (s.mention l habits).change (.register l)
    let s := { s with everRegistered := l :: s.everRegistered }
    (s, s.count)
  | .deregister l habits =>
    let s := (s.mention l habits).change (.deregister l)
    (s, s.count)
  | .remove l habits =>
    let s := s.mention l habits
    let s := if s.everRegistered.contains l then s.change (.deregister l) else s
    (s, s.count)
  | .call c script =>
    let (s, report) := s.call c script
    (s, .called report)

/-- The reports of some steps, each with whether a listener has been mentioned by then. -/
def reports : List ClientStep → Theatre → List (ClientReport × Bool)
  | [], _ => []
  | x :: rest, s =>
    let (s, report) := s.step x
    (report, !s.cast.isEmpty) :: reports rest s

end Theatre

end ClusterClient.Rehearsal
