import ClusterClient.Client.Basic
import ClusterClient.Timing

/-!
# Clients in time

A timetable says how long the answer to each request takes. Played against it, a call makes one request
after the other until it has ended or its deadline has passed. The requests of a call to all members are
made at once, and their answers are taken in the order in which they come.
-/

namespace ClusterClient

/-- When each request is answered, counted from the moment it is handed over, and how. -/
abbrev Timetable := Nat → Course Answer

namespace Client

/-- A call as a process that waits for answers. -/
def waiting (call : Nat) : Waiting Client Answer where
  awaits c := (c.pending? call).map Pending.number
  take a c := c.answer call a
  interrupt c := c.cancel call

/-- Plays a call that has begun, from some time on. -/
def play (call : Nat) (timetable : Timetable) (deadline : Option Nat) (c : Client) : Client × Ending :=
  (waiting call).play timetable deadline (c.endpoints.length + 1) 0 c

/-! ## Calls to all members at once -/

/-- A call to all members as its caller sees it. -/
structure Collecting where
  client : Client
  responses : List Response
  /-- What ended the call before all responses had come. -/
  failure : Option (Outcome Response)
  stopped : Bool

/-- The answer that a task waits for, if it ever comes, with the time it takes. -/
def dueAnswer? (timetable : Timetable) (fan i : Nat) (c : Client) : Option (Nat × Nat × Answer) :=
  match c.task? fan i with
  -- a task that has failed at once waits for nothing
  | some (_, ⟨_, .waiting pending⟩) =>
    match timetable pending.number with
    | .ends delay a => some (delay, i, a)
    | .never => none
  | _ => none

/-- The answers that the tasks wait for, in the order in which they come. -/
def schedule (timetable : Timetable) (fan : Nat) (c : Client) (tasks : Nat) : List (Nat × Nat × Answer) :=
  ((List.range tasks).filterMap fun i => c.dueAnswer? timetable fan i).mergeSort
    fun a b => a.1 ≤ b.1

/-- The caller takes one item, and stops when it has as many as it wants. -/
def collect (fan : Nat) (limit : Option Nat) (s : Collecting) : Collecting :=
  if s.stopped then s
  else
    match s.client.nextItem fan with
    | (c, none) => { s with client := c }
    | (c, some (.returned response)) =>
      let responses := s.responses ++ [response]
      { s with client := c, responses, stopped := limit = some responses.length }
    | (c, some outcome) => { s with client := c, failure := some outcome, stopped := true }

/-- Plays a call to all members until the caller stops, something fails, or nothing more comes. -/
def playFan (fan tasks : Nat) (timetable : Timetable) (limit : Option Nat) (c : Client) : Collecting :=
  -- every task starts before any answer is taken
  let c := (List.range tasks).foldl (fun c i => c.startTask fan i) c
  let s : Collecting := ⟨c, [], none, false⟩
  let s := (List.range tasks).foldl (fun s _ => collect fan limit s) s
  let s := (c.schedule timetable fan tasks).foldl (fun s due =>
    if s.stopped then s
    else collect fan limit { s with client := s.client.answerTask fan due.2.1 due.2.2 }) s
  -- a caller that is through leaves no task behind
  { s with client := s.client.stopFan fan }

end Client

end ClusterClient
