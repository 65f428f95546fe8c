import ClusterClient.Exchange.Transport
import ClusterClient.Failover.World

/-!
# Clients

A client makes calls through one transport. Each call is a run over the members of the client, heard by
the listeners that were registered when it began; what its attempts wait for are the answers to requests.
Calls to all members at once are made of tasks, one for each member.
-/

namespace ClusterClient

/-- A call that is under way: what is asked, and the request that waits for its answer. -/
structure Call where
  spec : RequestSpec
  pending : Option Pending

/-- Where a task stands. -/
inductive TaskState where
  | created
  | waiting (pending : Pending)
  | done (outcome : Outcome Response)

namespace TaskState

/-- The state of a task whose request has been made, or could not be made. -/
def ofIssued : Except Failure Pending → TaskState
  | .ok pending => .waiting pending
  | .error f => .done (.raised f)

/-- Whether a task is done. -/
def isDone : TaskState → Bool
  | done _ => true
  | _ => false

end TaskState

/-- A call to one of all members. -/
structure Task where
  endpoint : Endpoint
  state : TaskState

/-- A call to all members at once. The positions of tasks that are done stand in `arrived`, in the order
in which they came; `taken` of them have been given to the caller. -/
structure FanOut where
  spec : RequestSpec
  tasks : List Task
  arrived : List Nat
  taken : Nat
  closed : Bool

/-- A client with all its calls. The calls stand at the positions of their runs. -/
structure Client where
  transport : Transport
  failover : World Response
  calls : List Call
  fans : List FanOut

namespace Client

/-- A client that has done nothing yet. -/
def fresh (room : Room) (settings : ResolvedSettings) (population : Population) : Client :=
  ⟨.fresh room settings, .quiet population, [], []⟩

/-- The settings of a client. -/
def settings (c : Client) : ResolvedSettings := c.transport.settings

/-- The room in which a client is used. -/
def room (c : Client) : Room := c.transport.room

/-- The members of the cluster. -/
def endpoints (c : Client) : List Endpoint := c.settings.endpoints

/-- Closes the client. -/
def close (c : Client) : Client := { c with transport := c.transport.close }

/-- Registers or deregisters a listener. -/
def change (change : Change) (c : Client) : Client := { c with failover := c.failover.change change }

/-! ## Calls -/

/-- Makes the request that a call needs next, if it needs one. A request that cannot be made fails the
attempt, and the call goes on; `patience` bounds how often. -/
def advance (call : Nat) : Nat → Client → Client
  | patience, c =>
    match c.failover.awaited? call, c.calls[call]? with
    | some (_, endpoint), some ⟨spec, none⟩ =>
      match c.transport.dispatch spec endpoint with
      | (t, .ok pending) =>
        -- the call waits from here on
        { c with transport := t, calls := c.calls.set call ⟨spec, some pending⟩ }
      | (t, .error f) =>
        match patience with
        -- a call has as many members as patience, so that it never comes to this
        | 0 => { c with transport := t }
        | patience + 1 =>
          advance call patience
            { c with transport := t, failover := c.failover.resume call (.raised f) }
    | _, _ => c

/-- Makes the next request of a call. -/
def proceed (call : Nat) (c : Client) : Client := advance call c.endpoints.length c

/-- New progress of a call that is still to be made; its position is the number of those before. -/
def addProgress (endpoints : List Endpoint) (c : Client) : Client :=
  { c with failover := c.failover.addProgress endpoints }

/-- Begins a call with progress that is there; its position is the number of calls before. A closed client
makes no calls. -/
def executeWith (spec : RequestSpec) (progress : Nat) (c : Client) : Except Failure Client :=
  if c.transport.closed then .error .clientClosed
  -- no such progress: nothing to begin with
  else if c.failover.progresses.length ≤ progress then .ok c
  else
    -- whoever registers later does not hear of this call
    let listeners := c.failover.observers.registered
    .ok (proceed c.failover.runs.length
      { c with
        failover := c.failover.beginWith c.endpoints (.fixed listeners) progress
        calls := c.calls ++ [⟨spec, none⟩] })

/-- Begins a call. -/
def execute (spec : RequestSpec) (c : Client) : Except Failure Client :=
  if c.transport.closed then .error .clientClosed
  else executeWith spec c.failover.progresses.length (c.addProgress c.endpoints)

/-- The request that a call waits for. -/
def pending? (call : Nat) (c : Client) : Option Pending := (c.calls[call]?).bind Call.pending

/-- The answer to the request of a call comes. -/
def answer (call : Nat) (a : Answer) (c : Client) : Client :=
  match c.failover.awaited? call, c.calls[call]? with
  | some (_, endpoint), some ⟨spec, some pending⟩ =>
    let (t, outcome) := c.transport.conclude spec endpoint pending.request a
    proceed call
      { c with
        transport := t
        failover := c.failover.resume call outcome
        calls := c.calls.set call ⟨spec, none⟩ }
  | _, _ => c

/-- A call is cancelled while it waits. -/
def cancel (call : Nat) (c : Client) : Client :=
  match c.calls[call]? with
  | some ⟨spec, some pending⟩ =>
    { c with
      -- the request has been handed over, and is taken back there
      transport := c.transport.withdraw pending.number
      failover := c.failover.resume call .cancelled
      calls := c.calls.set call ⟨spec, none⟩ }
  | _ => c

/-- How a call has ended. -/
def outcome? (call : Nat) (c : Client) : Option (Outcome Response) := c.failover.outcome? call

/-! ## Calls to all members at once -/

/-- Begins a call to all members; its position is the number of those before. No request is made yet. -/
def fanOut (spec : RequestSpec) (c : Client) : Except Failure Client :=
  if c.transport.closed then .error .clientClosed
  else
    -- requests are made by the tasks as they start, one by one
    let tasks := c.endpoints.map fun e => (⟨e, .created⟩ : Task)
    .ok { c with fans := c.fans ++ [⟨spec, tasks, [], 0, false⟩] }

/-- A task comes to another state. -/
def setTask (fan i : Nat) (state : TaskState) (c : Client) : Client :=
  { c with
    fans := c.fans.modify fan fun f =>
      { f with
        tasks := f.tasks.modify i fun task => { task with state }
        -- tasks queue up as they are done
        arrived := if TaskState.isDone state then f.arrived ++ [i] else f.arrived } }

/-- The call to all members and the task at a position. -/
def task? (fan i : Nat) (c : Client) : Option (FanOut × Task) := do
  let f ← c.fans[fan]?
  let task ← f.tasks[i]?
  some (f, task)

/-- A task starts with its request. -/
def startTask (fan i : Nat) (c : Client) : Client :=
  match c.task? fan i with
  | some (f, ⟨endpoint, .created⟩) =>
    let (t, issued) := c.transport.dispatch f.spec endpoint
    setTask fan i (TaskState.ofIssued issued) { c with transport := t }
  | _ => c

/-- The answer to the request of a task comes. -/
def answerTask (fan i : Nat) (a : Answer) (c : Client) : Client :=
  match c.task? fan i with
  | some (f, ⟨endpoint, .waiting pending⟩) =>
    let (t, outcome) := c.transport.conclude f.spec endpoint pending.request a
    setTask fan i (.done outcome) { c with transport := t }
  | _ => c

/-- A task is cancelled, unless it is done. -/
def cancelTask (fan : Nat) (c : Client) (i : Nat) : Client :=
  match c.task? fan i with
  | some (_, ⟨_, .created⟩) => setTask fan i (.done .cancelled) c
  | some (_, ⟨_, .waiting pending⟩) =>
    setTask fan i (.done .cancelled) { c with transport := c.transport.withdraw pending.number }
  | _ => c

/-- The caller wants nothing more: what is not done is cancelled. -/
def stopFan (fan : Nat) (c : Client) : Client :=
  match c.fans[fan]? with
  | none => c
  | some f =>
    let c := (List.range f.tasks.length).foldl (cancelTask fan) c
    { c with fans := c.fans.modify fan fun f => { f with closed := true } }

/-- The next task that is done is given to the caller. Anything but a response is the end. -/
def nextItem (fan : Nat) (c : Client) : Client × Option (Outcome Response) :=
  match c.fans[fan]? with
  | none => (c, none)
  | some f =>
    match if f.closed then none else f.arrived[f.taken]? with
    | none => (c, none)
    | some i =>
      match (f.tasks[i]?).map Task.state with
      | some (.done outcome) =>
        -- an item is taken once, even if it is the last one
        let c := { c with fans := c.fans.modify fan fun f => { f with taken := f.taken + 1 } }
        match outcome with
        | .returned response => (c, some (.returned response))
        -- the others are cancelled before the caller learns of the failure
        | outcome => (stopFan fan c, some outcome)
      | _ => (c, none)

/-! ## Steps -/

/-- One step of a client, seen from outside. A step that is refused changes nothing. -/
inductive Action where
  | execute (spec : RequestSpec)
  | executeWith (spec : RequestSpec) (progress : Nat)
  | answer (call : Nat) (a : Answer)
  | cancel (call : Nat)
  | fanOut (spec : RequestSpec)
  | startTask (fan i : Nat)
  | answerTask (fan i : Nat) (a : Answer)
  | nextItem (fan : Nat)
  | stopFan (fan : Nat)
  | change (change : Change)
  | addProgress (endpoints : List Endpoint)
  | close

/-- The client after a step. -/
def step (c : Client) : Action → Client
  | .execute spec => (c.execute spec).toOption.getD c
  | .executeWith spec progress => (c.executeWith spec progress).toOption.getD c
  | .answer call a => c.answer call a
  | .cancel call => c.cancel call
  | .fanOut spec => (c.fanOut spec).toOption.getD c
  | .startTask fan i => c.startTask fan i
  | .answerTask fan i a => c.answerTask fan i a
  | .nextItem fan => (c.nextItem fan).1
  | .stopFan fan => c.stopFan fan
  | .change change => c.change change
  | .addProgress endpoints => c.addProgress endpoints
  | .close => c.close

/-- The client after some steps. -/
def steps (c : Client) (actions : List Action) : Client := actions.foldl step c

end Client

end ClusterClient
