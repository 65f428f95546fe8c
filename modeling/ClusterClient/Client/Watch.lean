import ClusterClient.Calls.Keys
import ClusterClient.Client.Timed

/-!
# Whole calls

A call is begun and played to its end. A watch waits for the next change of a key, for some seconds at
most. When they have passed, the watch fails with the errors of the members that had failed by then; if no
time is given at all, not even a closed client is noticed, nor is it if the time is more than a clock can be set to.
-/

namespace ClusterClient

/-- How long a call may take. -/
inductive Deadline where
  | never
  | passed
  /-- No clock can be set so far ahead. -/
  | beyond
  | after (nanoseconds : Nat)
  deriving DecidableEq, Repr

/-- Nanoseconds in a second. -/
def nanosecondsPerSecond : Nat := 1000000000

/-- The first whole number that is rounded to no number with a fraction. -/
def Whole.firstTooLarge : Int := Nat.pow 2 1024 - Nat.pow 2 970

/-- The deadline of a number of seconds. What is not a number passes as soon as anything is waited for. -/
def Deadline.ofSeconds (seconds : Scalar) : Deadline :=
  -- no time at all, or less
  if seconds.isNonPositive then passed
  else
    match seconds with
    | .flag _ => after nanosecondsPerSecond
    | .whole n => if n < Whole.firstTooLarge then after (n.toNat * nanosecondsPerSecond) else beyond
    | .real x =>
      match x.view with
      | .infinite _ => never
      -- a comparison with what is no number fails, so that the clock is set, and runs out when it is first
      -- looked at
      | .nan => after 0
      | .finite .. => after ((x.scaled? nanosecondsPerSecond).getD 0).toNat
    | _ => never

/-- A watch on a key. -/
structure Watch where
  key : Text
  index : Option Int
  recursive : Bool
  limit : Option Scalar
  deriving DecidableEq, Repr

/-- What a watch asks of a member. -/
def Watch.request (w : Watch) : RequestSpec := (KeyCall.watch w.key w.index w.recursive).request

namespace Client

/-- How a whole call has ended; there is nothing if it never does. -/
abbrev Result := Option (Outcome Response)

/-- Plays a call that has begun, if it has. -/
def playFrom (call : Nat) (timetable : Timetable) (begun : Except Failure Client) (before : Client) :
    Client × Result :=
  match begun with
  | .error f => (before, some (.raised f))
  | .ok c =>
    let (c, _) := c.play call timetable none
    (c, c.outcome? call)

/-- Makes a call. -/
def perform (spec : RequestSpec) (timetable : Timetable) (c : Client) : Client × Result :=
  playFrom c.failover.runs.length timetable (c.execute spec) c

/-- Makes a call with progress that is there. -/
def performWith (spec : RequestSpec) (progress : Nat) (timetable : Timetable) (c : Client) :
    Client × Result :=
  playFrom c.failover.runs.length timetable (c.executeWith spec progress) c

/-- Makes one request of a call to one member. -/
def dispatchOne (spec : RequestSpec) (endpoint : Endpoint) (timetable : Timetable) (c : Client) :
    Client × Result :=
  match c.transport.dispatch spec endpoint with
  | (t, .error f) => ({ c with transport := t }, some (.raised f))
  | (t, .ok pending) =>
    match timetable pending.number with
    | .never => ({ c with transport := t }, none)
    | .ends _ a =>
      let (t, outcome) := t.conclude spec endpoint pending.request a
      ({ c with transport := t }, some outcome)

/-- Makes a call that must not take longer than a time from its beginning. -/
def performWithin (spec : RequestSpec) (limit : Scalar) (nanoseconds : Nat) (timetable : Timetable)
    (c : Client) : Client × Result :=
  let progress := c.failover.progresses.length
  let call := c.failover.runs.length
  -- progress of its own, so that the errors are at hand when the time is over
  let prepared := c.addProgress c.endpoints
  match prepared.executeWith spec progress with
  | .error f => (prepared, some (.raised f))
  | .ok begun =>
    match begun.play call timetable (some nanoseconds) with
    | (c, .interrupted) =>
      let errors := ((c.failover.progresses[progress]?).map Progress.errors).getD []
      (c, some (.raised (.ofDeadline c.room limit errors)))
    | (c, _) => (c, c.outcome? call)

/-- Watches a key. -/
def watch (w : Watch) (timetable : Timetable) (c : Client) : Client × Result :=
  match w.limit with
  | none => c.perform w.request timetable
  | some limit =>
    match Deadline.ofSeconds limit with
    | .never => c.perform w.request timetable
    -- the call is not even begun, so that nobody notices whether the client is closed
    | .passed => (c, some (.raised (.ofDeadline c.room limit [])))
    | .beyond => (c, some (.raised (.external .tooLarge)))
    | .after nanoseconds => c.performWithin w.request limit nanoseconds timetable

/-- What came of a call to all members. -/
structure Gathered where
  responses : List Response
  failure : Option (Outcome Response)

/-- Makes a call to all members, of which so many responses are wanted at most. If none is wanted,
nothing is done at all. -/
def gather (spec : RequestSpec) (limit : Option Nat) (timetable : Timetable) (c : Client) :
    Client × Gathered :=
  -- a call to all members does nothing before its first item is asked for
  if limit = some 0 then (c, ⟨[], none⟩)
  else
    match c.fanOut spec with
    | .error f => (c, ⟨[], some (.raised f)⟩)
    | .ok begun =>
      let s := begun.playFan c.fans.length c.endpoints.length timetable limit
      (s.client, ⟨s.responses, s.failure⟩)

end Client

end ClusterClient
