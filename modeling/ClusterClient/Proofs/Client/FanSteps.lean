import ClusterClient.Proofs.Client.Steps

/-!
# What a step does to a call to all members

Of the many steps of a client, few concern a call to all members, and each of these does one of seven
things to it. This module says which, and what is seen of it from outside.

## The architecture

* **`FanTrace`**, **`Client.seen`**: what a step lets be seen of a call: tasks that complete, items that the
  consumer is given, requests that are handed over, and whether the consumer has stopped.
* **`FanOut.Keeps`**, **`FanOut.Stops`**: cancelling tasks one after the other leaves those that are done,
  and comes to an end at which all are. **`stops_stopFan`** is the induction on the tasks.
* **`FanOut.Moves`**: the seven things, with what is seen of each.
* **`getElem?_fans_step`**: a step that does not concern the call leaves it as it is.
* **`moves_step`**: every step does one of the seven.
-/

namespace ClusterClient

/-- Anything but a response ends a call to all members. -/
def Outcome.Ends (o : Outcome Response) : Prop := ∀ response, o ≠ .returned response

theorem Outcome.not_ends_iff {o : Outcome Response} :
    ¬o.Ends ↔ ∃ response, o = .returned response := by
  simp [Ends]

/-- The outcome of a task that is done. -/
def TaskState.outcome? : TaskState → Option (Outcome Response)
  | done outcome => some outcome
  | _ => none

/-- What is seen of a call to all members over some time: the tasks that complete with their outcomes, the
items that the consumer is given, the requests that are handed over, each in order, and whether the consumer
has stopped. -/
structure FanTrace where
  completed : List (Nat × Outcome Response)
  given : List (Outcome Response)
  handed : List Request
  stopped : Bool

namespace FanTrace

/-- Nothing is seen. -/
def nothing : FanTrace := ⟨[], [], [], false⟩

/-- What is seen first, and what is seen then. -/
def append (first second : FanTrace) : FanTrace :=
  ⟨first.completed ++ second.completed, first.given ++ second.given, first.handed ++ second.handed,
    first.stopped || second.stopped⟩

@[simp] theorem append_nothing (t : FanTrace) : t.append nothing = t := by
  simp [append, nothing]

@[simp] theorem nothing_append (t : FanTrace) : nothing.append t = t := by
  simp [append, nothing]

theorem append_assoc (a b c : FanTrace) : (a.append b).append c = a.append (b.append c) := by
  simp [append, Bool.or_assoc]

end FanTrace

namespace FanOut

/-- The outcome of the task at a position, if it is done. -/
def outcome? (f : FanOut) (i : Nat) : Option (Outcome Response) :=
  (f.tasks[i]?).bind fun task => task.state.outcome?

/-- The outcome that the consumer is to be given next, if there is one. -/
def next? (f : FanOut) : Option (Outcome Response) :=
  if f.closed then none else (f.arrived[f.taken]?).bind f.outcome?

/-- A call to all members of which one task has come to another state. -/
def withTask (f : FanOut) (i : Nat) (state : TaskState) : FanOut :=
  { f with
    tasks := f.tasks.modify i fun task => { task with state }
    arrived := if state.isDone then f.arrived ++ [i] else f.arrived }

variable {f f' f'' : FanOut} {i : Nat} {task : Task}

/-- The next outcome is that of the task that completed next, and is given as long as the call is not over. -/
theorem next?_eq_some {outcome : Outcome Response} (h : f.next? = some outcome) :
    f.closed = false ∧ ∃ i, f.arrived[f.taken]? = some i ∧ f.outcome? i = some outcome := by
  unfold next? at h
  split at h
  · cases h
  · next hopen => exact ⟨Bool.eq_false_iff.2 hopen, Option.bind_eq_some_iff.1 h⟩

/-- A task stays with its member. -/
theorem endpoints_withTask (f : FanOut) (i : Nat) (state : TaskState) :
    (f.withTask i state).tasks.map Task.endpoint = f.tasks.map Task.endpoint := by
  refine List.ext_getElem? fun j => ?_
  simp only [withTask, List.getElem?_map, List.getElem?_modify]
  cases f.tasks[j]? with
  | none => rfl
  | some task => by_cases h : i = j <;> simp [h]

theorem getElem?_withTask (htask : f.tasks[i]? = some task) (state : TaskState) :
    (f.withTask i state).tasks[i]? = some { task with state } := by
  simp [withTask, htask]

theorem getElem?_withTask_of_ne {j : Nat} (hne : i ≠ j) (state : TaskState) :
    (f.withTask i state).tasks[j]? = f.tasks[j]? := by
  simp [withTask, hne]

/-- A state that is not done leaves no trace when another one follows. -/
theorem withTask_withTask {state : TaskState} (hopen : state.isDone = false) (state' : TaskState) :
    (f.withTask i state).withTask i state' = f.withTask i state' := by
  simp only [withTask, hopen, Bool.false_eq_true, if_false, List.modify_modify_eq]
  rfl

/-! ## Cancelling what is not done -/

/-- What becomes of a call keeps its members, and the tasks that are done. -/
structure Keeps (f f' : FanOut) : Prop where
  spec : f'.spec = f.spec
  endpoints : f'.tasks.map Task.endpoint = f.tasks.map Task.endpoint
  done : ∀ {i : Nat} {task : Task}, f.tasks[i]? = some task → task.state.isDone = true →
    f'.tasks[i]? = some task

theorem Keeps.refl (f : FanOut) : f.Keeps f := ⟨rfl, rfl, fun h _ => h⟩

/-- What is kept twice is kept: a task that is done stays done, so that the second step has to leave it as well.
-/
theorem Keeps.trans (h : f.Keeps f') (h' : f'.Keeps f'') : f.Keeps f'' where
  spec := h'.spec.trans h.spec
  endpoints := h'.endpoints.trans h.endpoints
  done htask hdone := h'.done (h.done htask hdone) hdone

theorem Keeps.length_eq (h : f.Keeps f') : f'.tasks.length = f.tasks.length := by
  simpa using congrArg List.length h.endpoints

/-- A task that is not done may come to any state: no task that is done is another one. Since what is done stays
as it is, what has been completed is never taken back. -/
theorem keeps_withTask (htask : f.tasks[i]? = some task) (hopen : task.state.isDone = false)
    (state : TaskState) : f.Keeps (f.withTask i state) where
  spec := rfl
  endpoints := endpoints_withTask f i state
  done := by
    intro j task' htask' hdone
    have hne : i ≠ j := by
      rintro rfl
      rw [htask] at htask'
      cases htask'
      rw [hopen] at hdone
      cases hdone
    rw [getElem?_withTask_of_ne hne]
    exact htask'

/-- A call that is over: every task is done, and nothing is given any more. -/
structure Stops (f f' : FanOut) : Prop extends Keeps f f' where
  closed : f'.closed = true
  all : ∀ task ∈ f'.tasks, task.state.isDone = true

end FanOut

namespace Client

variable {c : Client} {fan i : Nat} {f : FanOut}

theorem fans_setTask (fan i : Nat) (state : TaskState) (c : Client) :
    (c.setTask fan i state).fans = c.fans.modify fan (·.withTask i state) := rfl

theorem transport_setTask (fan i : Nat) (state : TaskState) (c : Client) :
    (c.setTask fan i state).transport = c.transport := rfl

/-- A task of a call that is there is looked up among its tasks. -/
theorem task?_eq (hf : c.fans[fan]? = some f) (i : Nat) :
    c.task? fan i = (f.tasks[i]?).map fun task => (f, task) := by
  unfold task?
  rw [hf]
  cases htask : f.tasks[i]? <;> simp [htask]

/-- Cancelling a task leaves those that are done, and makes the task one of them. A task that is done already
has its outcome and is not touched, so that cancelling twice comes to the same. -/
theorem keeps_cancelTask (hf : c.fans[fan]? = some f) (i : Nat) :
    ∃ f', (c.cancelTask fan i).fans[fan]? = some f' ∧ f.Keeps f' ∧
      ∀ task, f'.tasks[i]? = some task → task.state.isDone = true := by
  unfold cancelTask
  rw [task?_eq hf]
  cases htask : f.tasks[i]? with
  | none => exact ⟨f, hf, .refl f, by simp [htask]⟩
  | some task =>
    obtain ⟨e, state⟩ := task
    -- a task that has not started and one that waits come to the same end
    have hcancelled : ∀ task, (f.withTask i (.done .cancelled)).tasks[i]? = some task →
        task.state.isDone = true := by
      intro task h
      rw [FanOut.getElem?_withTask htask] at h
      cases h
      rfl
    cases state with
    | created =>
      exact ⟨_, by simp [fans_setTask, hf], FanOut.keeps_withTask htask rfl _, hcancelled⟩
    | waiting pending =>
      exact ⟨_, by simp [fans_setTask, hf], FanOut.keeps_withTask htask rfl _, hcancelled⟩
    | done outcome =>
      refine ⟨f, hf, .refl f, ?_⟩
      intro task h
      rw [htask] at h
      cases h
      rfl

/-- Cancelling tasks one after the other leaves those that are done, and makes each of the tasks one of them. By
induction on the tasks that are cancelled. -/
theorem keeps_cancelTasks (hf : c.fans[fan]? = some f) (tasks : List Nat) :
    ∃ f', (tasks.foldl (cancelTask fan) c).fans[fan]? = some f' ∧ f.Keeps f' ∧
      ∀ i ∈ tasks, ∀ task, f'.tasks[i]? = some task → task.state.isDone = true := by
  induction tasks generalizing c f with
  | nil => exact ⟨f, hf, .refl f, by simp⟩
  | cons i rest ih =>
    obtain ⟨f₁, hf₁, hkeeps₁, hdone₁⟩ := keeps_cancelTask hf i
    obtain ⟨f₂, hf₂, hkeeps₂, hdone₂⟩ := ih hf₁
    refine ⟨f₂, hf₂, hkeeps₁.trans hkeeps₂, List.forall_mem_cons.2 ⟨?_, hdone₂⟩⟩
    intro task htask
    -- the first task was done before the others were cancelled, and has stayed so
    have hin : i < f₁.tasks.length := by
      rw [← hkeeps₂.length_eq]
      exact (List.getElem?_eq_some_iff.1 htask).1
    have hbefore := List.getElem?_eq_getElem hin
    have hdone := hdone₁ _ hbefore
    rw [hkeeps₂.done hbefore hdone] at htask
    cases htask
    exact hdone

/-- **Stopping a call leaves no task under way.** All tasks are cancelled, one position after the other; those
that are done already do not change, and no task comes to be done twice. -/
theorem stops_stopFan (hf : c.fans[fan]? = some f) :
    ∃ f', (c.stopFan fan).fans[fan]? = some f' ∧ f.Stops f' := by
  obtain ⟨f', hf', hkeeps, hdone⟩ := keeps_cancelTasks hf (List.range f.tasks.length)
  -- the positions that are cancelled are those of all tasks, so that none is left that is not done
  refine ⟨{ f' with closed := true }, ?_, ⟨hkeeps.spec, hkeeps.endpoints, hkeeps.done⟩, rfl, ?_⟩
  · unfold stopFan
    rw [hf]
    simp [hf']
  · intro task hmem
    obtain ⟨i, hi⟩ := List.mem_iff_getElem?.1 hmem
    have hin := (List.getElem?_eq_some_iff.1 hi).1
    refine hdone i (List.mem_range.2 ?_) task hi
    rw [← hkeeps.length_eq]
    exact hin

/-- Taking requests back does not hand any over. Each task that waits has its request withdrawn, which marks an
entry of the log and adds none. -/
theorem length_issued_stopFan (fan : Nat) (c : Client) :
    (c.stopFan fan).transport.issued.length = c.transport.issued.length := by
  have hcancel (c : Client) (i : Nat) :
      (c.cancelTask fan i).transport.issued.length = c.transport.issued.length := by
    unfold cancelTask
    split
    · rfl
    · simp [setTask, Transport.withdraw]
    · rfl
  have hcancels (tasks : List Nat) (c : Client) :
      (tasks.foldl (cancelTask fan) c).transport.issued.length = c.transport.issued.length := by
    induction tasks generalizing c with
    | nil => rfl
    | cons i rest ih => rw [List.foldl_cons, ih, hcancel]
  unfold stopFan
  split
  · rfl
  · exact hcancels _ c

/-! ## What is seen of a step -/

/-- The outcome of a task of a call to all members, if the task is done. -/
def outcomeOf? (fan i : Nat) (c : Client) : Option (Outcome Response) :=
  (c.fans[fan]?).bind fun f => f.outcome? i

/-- The completion of a task between two moments. -/
def completion (fan i : Nat) (before after : Client) : List (Nat × Outcome Response) :=
  match before.outcomeOf? fan i, after.outcomeOf? fan i with
  | none, some outcome => [(i, outcome)]
  | _, _ => []

end Client

/-- The call to all members that a step belongs to. -/
def Client.Action.fan? : Client.Action → Option Nat
  | .startTask fan _ | .answerTask fan _ _ | .nextItem fan | .stopFan fan => some fan
  | _ => none

namespace Client

/-- What a step lets be seen of a call to all members. A task completes when it starts in vain or when its
answer comes; being cancelled is no completion. -/
def seen (fan : Nat) (c : Client) (a : Action) : FanTrace :=
  if a.fan? = some fan then
    { completed :=
        match a with
        | .startTask _ i | .answerTask _ i _ => completion fan i c (c.step a)
        | _ => []
      given :=
        match a with
        | .nextItem _ => (c.nextItem fan).2.toList
        | _ => []
      handed := c.transport.handedOver (c.step a).transport
      stopped :=
        match a with
        | .stopFan _ => true
        | _ => false }
  else .nothing

end Client

namespace FanOut

/-- What a step can do to a call to all members where there is this much room, with what is seen of it. -/
inductive Moves (room : Room) (f : FanOut) : FanOut → FanTrace → Prop where
  /-- It is left as it is. -/
  | stays : Moves room f f .nothing
  /-- A task hands its request over and waits. -/
  | asks {i : Nat} {e : Endpoint} {pending : Pending} (htask : f.tasks[i]? = some ⟨e, .created⟩)
      (hasks : f.spec.Asks room e pending.request) :
      Moves room f (f.withTask i (.waiting pending)) ⟨[], [], [pending.request], false⟩
  /-- A task fails at once. -/
  | fails {i : Nat} {e : Endpoint} (request : Option Request)
      (htask : f.tasks[i]? = some ⟨e, .created⟩) (hasks : ∀ r ∈ request, f.spec.Asks room e r)
      (fault : Failure) :
      Moves room f (f.withTask i (.done (.raised fault))) ⟨[(i, .raised fault)], [], request.toList, false⟩
  /-- A task takes the answer to its request. -/
  | completes {i : Nat} {e : Endpoint} {pending : Pending} {outcome : Outcome Response}
      (htask : f.tasks[i]? = some ⟨e, .waiting pending⟩)
      (hnames : ∀ response, outcome = .returned response → response.endpoint = e) :
      Moves room f (f.withTask i (.done outcome)) ⟨[(i, outcome)], [], [], false⟩
  /-- The consumer is given a response. -/
  | gives {i : Nat} {response : Response} (hopen : f.closed = false)
      (hnext : f.arrived[f.taken]? = some i) (houtcome : f.outcome? i = some (.returned response)) :
      Moves room f { f with taken := f.taken + 1 } ⟨[], [.returned response], [], false⟩
  /-- The consumer is given anything else, and the call is over. -/
  | ends {f' : FanOut} {i : Nat} {outcome : Outcome Response} (hopen : f.closed = false)
      (hnext : f.arrived[f.taken]? = some i) (houtcome : f.outcome? i = some outcome)
      (hends : outcome.Ends) (hstops : f.Stops f') : Moves room f f' ⟨[], [outcome], [], false⟩
  /-- The consumer wants nothing more. -/
  | stops {f' : FanOut} (hstops : f.Stops f') : Moves room f f' ⟨[], [], [], true⟩

end FanOut

namespace Client

variable {c : Client} {fan i : Nat} {f : FanOut}

theorem completion_self (fan i : Nat) (c : Client) : completion fan i c c = [] := by
  unfold completion
  cases c.outcomeOf? fan i <;> rfl

theorem outcomeOf?_eq (hf : c.fans[fan]? = some f) (i : Nat) : c.outcomeOf? fan i = f.outcome? i := by
  simp [outcomeOf?, hf]

/-- A task that is set from one state to another completes if it is done only then. -/
theorem completion_setTask {task : Task} (hf : c.fans[fan]? = some f) (htask : f.tasks[i]? = some task)
    (hopen : task.state.outcome? = none) (state : TaskState) (t : Transport) :
    completion fan i c (setTask fan i state { c with transport := t }) =
      (state.outcome?.toList).map (i, ·) := by
  have hafter : (setTask fan i state { c with transport := t }).fans[fan]? =
      some (f.withTask i state) := by
    simp [fans_setTask, hf]
  unfold completion
  rw [outcomeOf?_eq hf, outcomeOf?_eq hafter, FanOut.outcome?, FanOut.outcome?,
    FanOut.getElem?_withTask htask, htask]
  simp only [Option.bind_some, hopen]
  cases state.outcome? <;> rfl

/-- A step that changes nothing and lets nothing be seen leaves the call where it stands. -/
theorem moves_of_idle {a : Action} (hf : c.fans[fan]? = some f) (hidle : c.step a = c)
    (hnothing : c.seen fan a = .nothing) :
    ∃ f', (c.step a).fans[fan]? = some f' ∧ f.Moves c.room f' (c.seen fan a) := by
  rw [hidle, hnothing]
  exact ⟨f, hf, .stays⟩

/-- To start a task that has not started is an attempt: its request waits, or it fails at once. A task that has started
is left alone. -/
theorem moves_startTask (hf : c.fans[fan]? = some f) (i : Nat) :
    ∃ f', (c.step (.startTask fan i)).fans[fan]? = some f' ∧
      f.Moves c.room f' (c.seen fan (.startTask fan i)) := by
  -- a task that is not there, or has started, is left as it is
  have hstay (h : c.startTask fan i = c) : ∃ f', (c.step (.startTask fan i)).fans[fan]? = some f' ∧
      f.Moves c.room f' (c.seen fan (.startTask fan i)) :=
    moves_of_idle hf h (by simp [seen, Action.fan?, step, h, completion_self, Transport.handedOver_of_length_eq,
      FanTrace.nothing])
  cases htask : f.tasks[i]? with
  | none => exact hstay (by simp [startTask, task?_eq hf, htask])
  | some task =>
    obtain ⟨e, state⟩ := task
    cases state with
    | waiting pending => exact hstay (by simp [startTask, task?_eq hf, htask])
    | done outcome => exact hstay (by simp [startTask, task?_eq hf, htask])
    | created =>
      have hstart : c.startTask fan i =
          setTask fan i (.ofIssued (c.transport.dispatch f.spec e).2)
            { c with transport := (c.transport.dispatch f.spec e).1 } := by
        simp [startTask, task?_eq hf, htask]
      -- a request is handed over at most once, whether or not the task then waits
      have hhandover := Transport.handover_dispatch c.transport f.spec e
      generalize c.transport.dispatch f.spec e = made at hstart hhandover
      obtain ⟨t, issued⟩ := made
      refine ⟨f.withTask i (.ofIssued issued), by simp [step, hstart, fans_setTask, hf], ?_⟩
      simp only [seen, Action.fan?, step, hstart, if_true, completion_setTask hf htask rfl]
      obtain ⟨request, hhanded, hasks, hwaits⟩ := hhandover.handedOver
      rw [transport_setTask, hhanded]
      cases issued with
      | error fault => exact .fails request htask hasks fault
      | ok pending =>
        obtain rfl := hwaits pending rfl
        exact .asks htask (hasks _ rfl)

/-- The answer to the request of a task that waits. -/
theorem answerTask_of_waiting (hf : c.fans[fan]? = some f) {e : Endpoint} {pending : Pending}
    (htask : f.tasks[i]? = some ⟨e, .waiting pending⟩) (a : Answer) :
    c.answerTask fan i a =
      setTask fan i (.done (c.transport.conclude f.spec e pending.request a).2)
        { c with transport := (c.transport.conclude f.spec e pending.request a).1 } := by
  simp [answerTask, task?_eq hf, htask]

/-- No answer is lost: the task that has waited for it completes with it. -/
theorem completed_answerTask (hf : c.fans[fan]? = some f) {e : Endpoint} {pending : Pending}
    (htask : f.tasks[i]? = some ⟨e, .waiting pending⟩) (a : Answer) :
    (c.seen fan (.answerTask fan i a)).completed =
      [(i, (c.transport.conclude f.spec e pending.request a).2)] := by
  simp only [seen, Action.fan?, step, answerTask_of_waiting hf htask, if_true,
    completion_setTask hf htask rfl]
  rfl

/-- An answer to a task that waits completes it, and any other answer is lost. If the answer is taken for a
response, this names the member of the task. -/
theorem moves_answerTask (hf : c.fans[fan]? = some f) (i : Nat) (a : Answer) :
    ∃ f', (c.step (.answerTask fan i a)).fans[fan]? = some f' ∧
      f.Moves c.room f' (c.seen fan (.answerTask fan i a)) := by
  -- a task that waits for nothing takes no answer
  have hstay (h : c.answerTask fan i a = c) :
      ∃ f', (c.step (.answerTask fan i a)).fans[fan]? = some f' ∧
        f.Moves c.room f' (c.seen fan (.answerTask fan i a)) :=
    moves_of_idle hf h (by simp [seen, Action.fan?, step, h, completion_self, Transport.handedOver_of_length_eq,
      FanTrace.nothing])
  cases htask : f.tasks[i]? with
  | none => exact hstay (by simp [answerTask, task?_eq hf, htask])
  | some task =>
    obtain ⟨e, state⟩ := task
    cases state with
    | created => exact hstay (by simp [answerTask, task?_eq hf, htask])
    | done outcome => exact hstay (by simp [answerTask, task?_eq hf, htask])
    | waiting pending =>
      have hanswer := answerTask_of_waiting hf htask a
      have hsame := Transport.sameConnection_conclude c.transport f.spec e pending.request a
      refine ⟨f.withTask i (.done (c.transport.conclude f.spec e pending.request a).2),
        by simp [step, hanswer, fans_setTask, hf], ?_⟩
      simp only [seen, Action.fan?, step, hanswer, if_true, completion_setTask hf htask rfl]
      rw [transport_setTask, Transport.handedOver_of_length_eq (congrArg List.length hsame.issued)]
      refine .completes htask ?_
      intro response hresponse
      obtain ⟨reply, -, -, hendpoint⟩ := Transport.reply_of_conclude hresponse
      exact hendpoint

/-- One more item has been given to the consumer. -/
def afterItem (fan : Nat) (c : Client) : Client :=
  { c with fans := c.fans.modify fan fun f => { f with taken := f.taken + 1 } }

/-- Asking for the next item gives it, and anything but a response ends the call. The item is that of the task
that completed next, and the consumer has taken one more whatever it is. -/
theorem nextItem_eq (hf : c.fans[fan]? = some f) :
    c.nextItem fan =
      match f.next? with
      | none => (c, none)
      | some (.returned response) => (c.afterItem fan, some (.returned response))
      | some outcome => (stopFan fan (c.afterItem fan), some outcome) := by
  unfold nextItem afterItem FanOut.next? FanOut.outcome?
  simp only [hf]
  cases hclosed : f.closed with
  | true => simp
  | false =>
    cases hi : f.arrived[f.taken]? with
    | none => simp
    | some i =>
      cases htask : f.tasks[i]? with
      | none => simp [htask]
      | some task =>
        obtain ⟨e, state⟩ := task
        cases state with
        | created => simp [htask, TaskState.outcome?]
        | waiting pending => simp [htask, TaskState.outcome?]
        | done outcome => cases outcome <;> simp [htask, TaskState.outcome?]

theorem nextItem_of_none (hf : c.fans[fan]? = some f) (hnext : f.next? = none) :
    c.nextItem fan = (c, none) := by
  rw [nextItem_eq hf, hnext]

/-- A response is given, and the call goes on. -/
theorem nextItem_of_returned (hf : c.fans[fan]? = some f) {response : Response}
    (hnext : f.next? = some (.returned response)) :
    c.nextItem fan = (c.afterItem fan, some (.returned response)) := by
  rw [nextItem_eq hf, hnext]

/-- Anything else is given too, and the call is over. -/
theorem nextItem_of_ends (hf : c.fans[fan]? = some f) {outcome : Outcome Response}
    (hnext : f.next? = some outcome) (hends : outcome.Ends) :
    c.nextItem fan = (stopFan fan (c.afterItem fan), some outcome) := by
  rw [nextItem_eq hf, hnext]
  cases outcome with
  | returned response => exact absurd rfl (hends response)
  | raised fault => rfl
  | cancelled => rfl

/-- The consumer is given the next outcome, whatever it is. -/
theorem snd_nextItem (hf : c.fans[fan]? = some f) : (c.nextItem fan).2 = f.next? := by
  rw [nextItem_eq hf]
  cases f.next? with
  | none => rfl
  | some outcome => cases outcome <;> rfl

/-- The consumer asks for the next item, and the call goes on with a response or is over with anything else.
When it is over, all tasks that are not done are cancelled with it. -/
theorem moves_nextItem (hf : c.fans[fan]? = some f) :
    ∃ f', (c.step (.nextItem fan)).fans[fan]? = some f' ∧ f.Moves c.room f' (c.seen fan (.nextItem fan)) := by
  simp only [seen, Action.fan?, step, if_true]
  cases hnext : f.next? with
  | none =>
    rw [nextItem_of_none hf hnext]
    refine ⟨f, hf, ?_⟩
    rw [Transport.handedOver_of_length_eq rfl]
    exact .stays
  | some outcome =>
    -- the item is taken first; only a last one then stops the call
    have hafter : (c.afterItem fan).fans[fan]? = some { f with taken := f.taken + 1 } := by
      simp [afterItem, hf]
    have hsame : (c.afterItem fan).transport = c.transport := rfl
    obtain ⟨hopen, i, hi, houtcome⟩ := FanOut.next?_eq_some hnext
    by_cases hreturned : ∃ response, outcome = .returned response
    · obtain ⟨response, rfl⟩ := hreturned
      rw [nextItem_of_returned hf hnext]
      refine ⟨_, hafter, ?_⟩
      rw [hsame, Transport.handedOver_of_length_eq rfl]
      exact .gives hopen hi houtcome
    · have hends : outcome.Ends := fun response heq => hreturned ⟨response, heq⟩
      obtain ⟨f', hf', hstops⟩ := stops_stopFan hafter
      have hlength := length_issued_stopFan fan (c.afterItem fan)
      rw [hsame] at hlength
      rw [nextItem_of_ends hf hnext hends]
      refine ⟨f', hf', ?_⟩
      rw [Transport.handedOver_of_length_eq hlength]
      refine .ends hopen hi houtcome hends ?_
      exact ⟨⟨hstops.spec, hstops.endpoints, hstops.done⟩, hstops.closed, hstops.all⟩

/-- The consumer wants nothing more, and no task stays under way. -/
theorem moves_stopFan (hf : c.fans[fan]? = some f) :
    ∃ f', (c.step (.stopFan fan)).fans[fan]? = some f' ∧ f.Moves c.room f' (c.seen fan (.stopFan fan)) := by
  obtain ⟨f', hf', hstops⟩ := stops_stopFan hf
  refine ⟨f', hf', ?_⟩
  simp only [seen, Action.fan?, step, if_true,
    Transport.handedOver_of_length_eq (length_issued_stopFan fan c)]
  exact .stops hstops

/-! ## Steps that do not concern the call

Calls that try members one after the other leave the calls to all members alone, and so do other calls to
all members. Operation by operation: -/

/-- Making requests for a call is nothing to the calls to all members. -/
theorem Advances.fans {call : Nat} {c c' : Client} (h : Advances call c c') : c'.fans = c.fans := by
  induction h with
  | still => rfl
  | asked => rfl
  | abandoned => rfl
  | passed _ _ ih => exact ih

theorem fans_executeWith {spec : RequestSpec} {progress : Nat} {c c' : Client}
    (h : c.executeWith spec progress = .ok c') : c'.fans = c.fans := by
  obtain ⟨-, rfl⟩ | ⟨-, rfl⟩ := executeWith_cases h
  · rfl
  · exact (advances _ _ _).fans

theorem fans_execute {spec : RequestSpec} {c c' : Client} (h : c.execute spec = .ok c') :
    c'.fans = c.fans := by
  have hbegun := fans_executeWith (executeWith_of_execute h)
  exact hbegun

theorem fans_answer (call : Nat) (a : Answer) (c : Client) : (c.answer call a).fans = c.fans := by
  unfold answer
  split
  · exact (advances _ _ _).fans
  · rfl

theorem fans_cancel (call : Nat) (c : Client) : (c.cancel call).fans = c.fans := by
  unfold cancel
  split <;> rfl

theorem getElem?_fans_setTask {other : Nat} (hne : other ≠ fan) (i : Nat) (state : TaskState)
    (c : Client) : (c.setTask other i state).fans[fan]? = c.fans[fan]? := by
  rw [fans_setTask, List.getElem?_modify_ne _ _ hne]

theorem getElem?_fans_startTask {other : Nat} (hne : other ≠ fan) (i : Nat) (c : Client) :
    (c.startTask other i).fans[fan]? = c.fans[fan]? := by
  unfold startTask
  split
  · exact getElem?_fans_setTask hne i _ _
  · rfl

theorem getElem?_fans_answerTask {other : Nat} (hne : other ≠ fan) (i : Nat) (a : Answer) (c : Client) :
    (c.answerTask other i a).fans[fan]? = c.fans[fan]? := by
  unfold answerTask
  split
  · exact getElem?_fans_setTask hne i _ _
  · rfl

/-- Another call stops on its own: each of the tasks that are cancelled is one of its tasks. By induction on
them. -/
theorem getElem?_fans_stopFan {other : Nat} (hne : other ≠ fan) (c : Client) :
    (c.stopFan other).fans[fan]? = c.fans[fan]? := by
  have hcancel (c : Client) (i : Nat) : (c.cancelTask other i).fans[fan]? = c.fans[fan]? := by
    unfold cancelTask
    split
    · exact getElem?_fans_setTask hne i _ _
    · exact getElem?_fans_setTask hne i _ _
    · rfl
  have hcancels (tasks : List Nat) (c : Client) :
      (tasks.foldl (cancelTask other) c).fans[fan]? = c.fans[fan]? := by
    induction tasks generalizing c with
    | nil => rfl
    | cons i rest ih => rw [List.foldl_cons, ih, hcancel]
  -- the tasks that are cancelled, and the call that is over then, stand at the other position
  unfold stopFan
  split
  · rfl
  · dsimp only
    rw [List.getElem?_modify_ne _ _ hne, hcancels]

/-- The consumer of another call takes an item of that call, and stops that call at most. Both the item and the
tasks that are cancelled are at the position of the other call. -/
theorem getElem?_fans_nextItem {other : Nat} (hne : other ≠ fan) (c : Client) :
    (c.nextItem other).1.fans[fan]? = c.fans[fan]? := by
  have hafter : (c.afterItem other).fans[fan]? = c.fans[fan]? := List.getElem?_modify_ne _ _ hne
  cases hf : c.fans[other]? with
  | none =>
    unfold nextItem
    rw [hf]
  | some f =>
    cases hnext : f.next? with
    | none => rw [nextItem_of_none hf hnext]
    | some outcome =>
      by_cases hreturned : ∃ response, outcome = .returned response
      · obtain ⟨response, rfl⟩ := hreturned
        rw [nextItem_of_returned hf hnext]
        exact hafter
      · rw [nextItem_of_ends hf hnext fun response heq => hreturned ⟨response, heq⟩]
        exact (getElem?_fans_stopFan hne _).trans hafter

/-- **A step that does not belong to a call to all members leaves it as it is.** One case for each step: those
of calls that try members in order leave all calls to all members alone, and those of another call to all
members change what is at its own position. A call that begins is put behind those that are there. -/
theorem getElem?_fans_step (hf : c.fans[fan]? = some f) {a : Action} (ha : a.fan? ≠ some fan) :
    (c.step a).fans[fan]? = some f := by
  cases a with
  | execute spec =>
    simp only [step]
    cases h : c.execute spec with
    | error fault => exact hf
    | ok c' => exact (congrArg (·[fan]?) (fans_execute h)).trans hf
  | executeWith spec progress =>
    simp only [step]
    cases h : c.executeWith spec progress with
    | error fault => exact hf
    | ok c' => exact (congrArg (·[fan]?) (fans_executeWith h)).trans hf
  | answer call a => exact (congrArg (·[fan]?) (fans_answer call a c)).trans hf
  | cancel call => exact (congrArg (·[fan]?) (fans_cancel call c)).trans hf
  -- a new call stands behind those that are there
  | fanOut spec =>
    obtain ⟨hin, -⟩ := List.getElem?_eq_some_iff.1 hf
    simp only [step, fanOut]
    split
    · exact hf
    · exact (List.getElem?_append_left hin).trans hf
  | startTask other i =>
    exact (getElem?_fans_startTask (fun h => ha (congrArg some h)) i c).trans hf
  | answerTask other i a =>
    exact (getElem?_fans_answerTask (fun h => ha (congrArg some h)) i a c).trans hf
  | nextItem other => exact (getElem?_fans_nextItem (fun h => ha (congrArg some h)) c).trans hf
  | stopFan other => exact (getElem?_fans_stopFan (fun h => ha (congrArg some h)) c).trans hf
  | change change => exact hf
  | addProgress endpoints => exact hf
  | close => exact hf

/-- **Every step moves a call to all members** in one of the seven ways. -/
theorem moves_step (hf : c.fans[fan]? = some f) (a : Action) :
    ∃ f', (c.step a).fans[fan]? = some f' ∧ f.Moves c.room f' (c.seen fan a) := by
  by_cases ha : a.fan? = some fan
  · cases a with
    | startTask other i => cases ha; exact moves_startTask hf i
    | answerTask other i a => cases ha; exact moves_answerTask hf i a
    | nextItem other => cases ha; exact moves_nextItem hf
    | stopFan other => cases ha; exact moves_stopFan hf
    | _ => cases ha
  · refine ⟨f, getElem?_fans_step hf ha, ?_⟩
    rw [show c.seen fan a = .nothing from if_neg ha]
    exact .stays

end Client

end ClusterClient
