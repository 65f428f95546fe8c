import ClusterClient.Proofs.Client.FanSteps
import ClusterClient.Proofs.Client.Steps

/-!
# What a call to all members gives its consumer

The members answer in any order, the consumer asks for items whenever it likes and may stop at any time, and
other calls go on meanwhile. Whatever the order of steps, the consumer is given what completes, as it
completes, up to the first failure, and nothing is left under way in the end.

## The architecture

* **`Client.traceOf`**: what is seen of the call over a history of steps.
* **`FanOut.Follows`**: the invariant between a call and what has been seen of it. While the call runs, its
  books hold exactly the completed tasks; once it is over, every task is done.
* **`Follows.moves`**: the step, one case for each of the seven moves. **`follows_steps`**: the run.
* **`gathers_as_completed`**: the law, for every history of steps.
-/

namespace ClusterClient

/-- A list that goes on with an element goes on from a start that is extended by it. -/
theorem prefix_concat_of_getElem? {α : Type} {start whole : List α} {x : α} (h : start <+: whole)
    (hx : whole[start.length]? = some x) : start ++ [x] <+: whole := by
  obtain ⟨rest, rfl⟩ := h
  cases rest with
  | nil => simp at hx
  | cons y rest =>
    obtain rfl : y = x := by simpa using hx
    exact ⟨rest, by simp⟩

/-- An element that is not there can be put at the end without repetition. -/
theorem nodup_concat {α : Type} {l : List α} {x : α} (h : l.Nodup) (hx : x ∉ l) : (l ++ [x]).Nodup := by
  refine List.nodup_append.2 ⟨h, by simp, ?_⟩
  rintro a ha b hb rfl
  exact hx (List.mem_singleton.1 hb ▸ ha)

/-- What is seen of a call to all members over some steps. -/
def Client.traceOf (fan : Nat) (c : Client) : List Client.Action → FanTrace
  | [] => .nothing
  | a :: rest => (c.seen fan a).append (traceOf fan (c.step a) rest)

namespace FanOut

/-- A call to all members stands as what has been seen of it says. -/
structure Follows (room : Room) (f : FanOut) (spec : RequestSpec) (members : List Endpoint) (seen : FanTrace) :
    Prop where
  spec : f.spec = spec
  endpoints : f.tasks.map Task.endpoint = members
  once : (seen.completed.map Prod.fst).Nodup
  names : ∀ p ∈ seen.completed, ∃ e, members[p.1]? = some e ∧
    ∀ response, p.2 = .returned response → response.endpoint = e
  order : seen.given <+: seen.completed.map Prod.snd
  last : ∀ outcome ∈ seen.given.dropLast, ¬outcome.Ends
  ended : f.closed = true ↔ seen.stopped = true ∨ ∃ outcome ∈ seen.given, outcome.Ends
  arrived : f.closed = false → f.arrived = seen.completed.map Prod.fst
  taken : f.closed = false → f.taken = seen.given.length
  outcomes : f.closed = false → ∀ i outcome, (i, outcome) ∈ seen.completed ↔ f.outcome? i = some outcome
  finished : f.closed = true → ∀ task ∈ f.tasks, task.state.isDone = true
  asked : ∃ posed : List (Nat × Request), posed.map Prod.snd = seen.handed ∧
    (posed.map Prod.fst).Nodup ∧
    ∀ p ∈ posed, ∃ task, f.tasks[p.1]? = some task ∧ task.state ≠ .created ∧
      f.spec.Asks room task.endpoint p.2

variable {room : Room} {f f' : FanOut} {spec : RequestSpec} {members : List Endpoint} {seen : FanTrace} {i : Nat}
  {task : Task}

/-- A call to all members of which no request has been made yet. -/
def fresh (spec : RequestSpec) (members : List Endpoint) : FanOut :=
  ⟨spec, members.map fun e => ⟨e, .created⟩, [], 0, false⟩

namespace Follows

/-- Nothing has been seen yet of a call that begins: no task has started, nobody has been asked, and the
consumer has been given nothing. -/
theorem fresh (room : Room) (spec : RequestSpec) (members : List Endpoint) :
    (FanOut.fresh spec members).Follows room spec members .nothing where
  spec := rfl
  endpoints := by
    rw [FanOut.fresh, List.map_map]
    exact List.map_id _
  once := List.nodup_nil
  names := by simp [FanTrace.nothing]
  order := List.prefix_rfl
  last := by simp [FanTrace.nothing]
  ended := by simp [FanTrace.nothing, FanOut.fresh]
  arrived _ := rfl
  taken _ := rfl
  outcomes := by
    intro _ i outcome
    -- no task has started
    have hnone : (FanOut.fresh spec members).outcome? i = none := by
      simp only [FanOut.outcome?, FanOut.fresh, List.getElem?_map]
      cases members[i]? <;> rfl
    simp [FanTrace.nothing, hnone]
  finished := by simp [FanOut.fresh]
  asked := ⟨[], rfl, List.nodup_nil, by simp⟩

/-- A task is one against the member at its position. -/
theorem getElem?_members (h : f.Follows room spec members seen) (htask : f.tasks[i]? = some task) :
    members[i]? = some task.endpoint := by
  rw [← h.endpoints, List.getElem?_map, htask]
  rfl

/-- A call with a task under way is not over. -/
theorem isOpen (h : f.Follows room spec members seen) (htask : f.tasks[i]? = some task)
    (hopen : task.state.isDone = false) : f.closed = false := by
  refine Bool.eq_false_iff.2 fun hclosed => ?_
  have hdone := h.finished hclosed task (List.mem_of_getElem? htask)
  rw [hopen] at hdone
  cases hdone

/-- While a call runs, the consumer has been given responses only. -/
theorem not_ends (h : f.Follows room spec members seen) (hopen : f.closed = false) :
    ∀ outcome ∈ seen.given, ¬outcome.Ends := by
  intro outcome hmem hends
  have hclosed := h.ended.2 (.inr ⟨outcome, hmem, hends⟩)
  rw [hopen] at hclosed
  cases hclosed

/-- The members that have been asked stay so when a task comes to another state, provided that it is not the
state of a task that has yet to start. The task itself asks what it asked before, and no other task is touched.
-/
theorem asked_withTask {posed : List (Nat × Request)}
    (h : ∀ p ∈ posed, ∃ task, f.tasks[p.1]? = some task ∧ task.state ≠ .created ∧
      spec.Asks room task.endpoint p.2)
    (htask : f.tasks[i]? = some task) {state : TaskState} (hstate : state ≠ .created) :
    ∀ p ∈ posed, ∃ task, (f.withTask i state).tasks[p.1]? = some task ∧ task.state ≠ .created ∧
      spec.Asks room task.endpoint p.2 := by
  intro p hp
  obtain ⟨task', htask', hstarted, hasks⟩ := h p hp
  by_cases hi : i = p.1
  · subst hi
    rw [htask] at htask'
    cases htask'
    exact ⟨_, getElem?_withTask htask state, hstate, hasks⟩
  · exact ⟨task', by rw [getElem?_withTask_of_ne hi, htask'], hstarted, hasks⟩

/-- A task that comes to a state has the outcome of that state, and the other tasks keep theirs. -/
theorem outcome?_withTask (htask : f.tasks[i]? = some task) (state : TaskState) (j : Nat) :
    (f.withTask i state).outcome? j = if i = j then state.outcome? else f.outcome? j := by
  unfold FanOut.outcome?
  split
  · next h =>
    subst h
    rw [getElem?_withTask htask]
    rfl
  · next h => rw [getElem?_withTask_of_ne h]

/-- A task that is not done has no outcome. -/
theorem outcome?_of_open (htask : f.tasks[i]? = some task) (hopen : task.state.isDone = false) :
    f.outcome? i = none := by
  rw [FanOut.outcome?, htask, Option.bind_some]
  cases hstate : task.state with
  | done outcome => rw [hstate] at hopen; cases hopen
  | _ => rfl

/-- A task hands its request over: one more member has been asked, and nothing has completed. The task had not
started before, so that its position is not among those that were asked. -/
theorem ask (h : f.Follows room spec members seen) {e : Endpoint}
    (htask : f.tasks[i]? = some ⟨e, .created⟩) (pending : Pending) (hasks : f.spec.Asks room e pending.request) :
    (f.withTask i (.waiting pending)).Follows room spec members
      (seen.append ⟨[], [], [pending.request], false⟩) where
  spec := h.spec
  endpoints := (endpoints_withTask f i _).trans h.endpoints
  once := by simpa [FanTrace.append] using h.once
  names := by simpa [FanTrace.append] using h.names
  order := by simpa [FanTrace.append] using h.order
  last := by simpa [FanTrace.append] using h.last
  ended := by simpa [FanTrace.append, withTask] using h.ended
  arrived := by simpa [FanTrace.append, withTask, TaskState.isDone] using h.arrived
  taken := by simpa [FanTrace.append, withTask] using h.taken
  outcomes := by
    intro hopen j outcome
    -- a task that waits has no more of an outcome than one that has not started
    have hwaits : f.outcome? i = none := outcome?_of_open htask rfl
    rw [outcome?_withTask htask]
    split
    · next heq =>
      subst heq
      simpa [FanTrace.append, TaskState.outcome?, hwaits] using h.outcomes hopen i outcome
    · simpa [FanTrace.append] using h.outcomes hopen j outcome
  finished := by
    intro hclosed
    rw [show (f.withTask i (.waiting pending)).closed = f.closed from rfl, h.isOpen htask rfl] at hclosed
    cases hclosed
  asked := by
    obtain ⟨posed, hhanded, hnodup, hposed⟩ := h.asked
    refine ⟨posed ++ [(i, pending.request)], by simp [FanTrace.append, hhanded], ?_, ?_⟩
    · -- the position has not been asked before, for its task had not started
      have hfresh : i ∉ posed.map Prod.fst := by
        intro hmem
        obtain ⟨p, hp, rfl⟩ := List.mem_map.1 hmem
        obtain ⟨task', htask', hstarted, -⟩ := hposed p hp
        rw [htask] at htask'
        cases htask'
        exact hstarted rfl
      rw [List.map_append]
      exact nodup_concat hnodup hfresh
    · intro p hp
      rcases List.mem_append.1 hp with hold | hnew
      · exact asked_withTask hposed htask (by simp) p hold
      · obtain rfl := List.mem_singleton.1 hnew
        exact ⟨_, getElem?_withTask htask _, by simp, hasks⟩

/-- A task completes: it is the last in the books, and the consumer has not been given its outcome yet. The task
was not done before, so that no task completes twice; and the call is still open, as all tasks of a call that is
over are done. -/
theorem complete (h : f.Follows room spec members seen) (htask : f.tasks[i]? = some task)
    (hopen : task.state.isDone = false) (outcome : Outcome Response)
    (hnames : ∀ response, outcome = .returned response → response.endpoint = task.endpoint) :
    (f.withTask i (.done outcome)).Follows room spec members
      (seen.append ⟨[(i, outcome)], [], [], false⟩) where
  spec := h.spec
  endpoints := (endpoints_withTask f i _).trans h.endpoints
  once := by
    -- a task that was not done has not completed before
    have hfresh : i ∉ seen.completed.map Prod.fst := by
      intro hmem
      obtain ⟨⟨j, before⟩, hp, rfl⟩ := List.mem_map.1 hmem
      have hdone := (h.outcomes (h.isOpen htask hopen) j before).1 hp
      rw [outcome?_of_open htask hopen] at hdone
      cases hdone
    rw [FanTrace.append, List.map_append]
    exact nodup_concat h.once hfresh
  names := by
    intro p hp
    rcases List.mem_append.1 hp with hold | hnew
    · exact h.names p hold
    · obtain rfl := List.mem_singleton.1 hnew
      exact ⟨_, h.getElem?_members htask, hnames⟩
  order := by
    rw [FanTrace.append, List.map_append, List.append_nil]
    exact h.order.trans (List.prefix_append _ _)
  last := by simpa [FanTrace.append] using h.last
  ended := by simpa [FanTrace.append, withTask] using h.ended
  arrived := by
    intro hclosed
    simp [FanTrace.append, withTask, TaskState.isDone, h.arrived hclosed]
  taken := by simpa [FanTrace.append, withTask] using h.taken
  outcomes := by
    intro hclosed j result
    rw [outcome?_withTask htask, FanTrace.append, List.mem_append, h.outcomes hclosed]
    split
    · next heq =>
      subst heq
      rw [outcome?_of_open htask hopen]
      simp [TaskState.outcome?, eq_comm]
    · next hne => simp [Ne.symm hne]
  finished := by
    intro hclosed
    rw [show (f.withTask i (.done outcome)).closed = f.closed from rfl, h.isOpen htask hopen] at hclosed
    cases hclosed
  asked := by
    obtain ⟨posed, hhanded, hnodup, hposed⟩ := h.asked
    exact ⟨posed, by simpa [FanTrace.append] using hhanded, hnodup, asked_withTask hposed htask (by simp)⟩

/-- The consumer is given the next outcome, which is the first that it has not been given in the order of completion. -/
theorem order_next (h : f.Follows room spec members seen) (hopen : f.closed = false)
    (hnext : f.arrived[f.taken]? = some i) {outcome : Outcome Response}
    (houtcome : f.outcome? i = some outcome) :
    seen.given ++ [outcome] <+: seen.completed.map Prod.snd := by
  rw [h.arrived hopen, h.taken hopen, List.getElem?_map] at hnext
  obtain ⟨⟨j, outcome'⟩, hp, rfl⟩ := Option.map_eq_some_iff.1 hnext
  have hsame := (h.outcomes hopen j outcome').1 (List.mem_of_getElem? hp)
  rw [houtcome] at hsame
  cases hsame
  exact prefix_concat_of_getElem? h.order (by rw [List.getElem?_map, hp]; rfl)

/-- The consumer is given a response, and the call goes on. The response is that of the task that completed
next, so that what was given is still the first part of what has completed. -/
theorem give (h : f.Follows room spec members seen) (hopen : f.closed = false)
    (hnext : f.arrived[f.taken]? = some i) {response : Response}
    (houtcome : f.outcome? i = some (.returned response)) :
    ({ f with taken := f.taken + 1 } : FanOut).Follows room spec members
      (seen.append ⟨[], [.returned response], [], false⟩) where
  spec := h.spec
  endpoints := h.endpoints
  once := by simpa [FanTrace.append] using h.once
  names := by simpa [FanTrace.append] using h.names
  order := by simpa [FanTrace.append] using h.order_next hopen hnext houtcome
  last := by
    rw [FanTrace.append, List.dropLast_concat]
    exact h.not_ends hopen
  ended := by
    -- a response ends nothing, so that the call is over no more than before
    have hresponse : ¬(Outcome.returned response).Ends := fun hends => hends response rfl
    simp only [FanTrace.append, Bool.or_false, List.mem_append, List.mem_singleton, or_and_right,
      exists_or, exists_eq_left, hresponse, or_false]
    exact h.ended
  arrived := by simpa [FanTrace.append] using h.arrived
  taken _ := by simp [FanTrace.append, h.taken hopen]
  outcomes hopen i outcome := by
    rw [FanTrace.append, List.append_nil]
    exact h.outcomes hopen i outcome
  finished := h.finished
  asked := by simpa [FanTrace.append] using h.asked

/-- While a call runs, the next item is the first outcome that the consumer has not been given. -/
theorem next?_eq (h : f.Follows room spec members seen) (hopen : f.closed = false) :
    f.next? = (seen.completed.map Prod.snd)[seen.given.length]? := by
  rw [next?, hopen, if_neg Bool.false_ne_true, h.arrived hopen, h.taken hopen, List.getElem?_map,
    List.getElem?_map]
  cases hp : seen.completed[seen.given.length]? with
  | none => rfl
  | some p => exact (h.outcomes hopen p.1 p.2).1 (List.mem_of_getElem? hp)

/-- When as many items have been given as there are members, every task is done. The items come of different
tasks, so that a task still under way would be one more than there are members. -/
theorem all_done (h : f.Follows room spec members seen) (hopen : f.closed = false)
    (hgiven : seen.given.length = members.length) : ∀ task ∈ f.tasks, task.state.isDone = true := by
  intro task hmem
  obtain ⟨i, htask⟩ := List.mem_iff_getElem?.1 hmem
  have hlength : members.length ≤ (seen.completed.map Prod.fst).length := by
    have hle := h.order.length_le
    rw [List.length_map] at hle ⊢
    omega
  refine Decidable.byContradiction fun hdone => ?_
  -- a task under way would be one more position than there are members
  have hunseen : i ∉ seen.completed.map Prod.fst := by
    intro hi
    obtain ⟨p, hp, rfl⟩ := List.mem_map.1 hi
    have houtcome := (h.outcomes hopen p.1 p.2).1 hp
    rw [outcome?_of_open htask (Bool.eq_false_iff.2 hdone)] at houtcome
    cases houtcome
  have hin (j : Nat) (hj : j ∈ i :: seen.completed.map Prod.fst) : j ∈ List.range members.length := by
    rw [List.mem_range]
    rcases List.mem_cons.1 hj with rfl | hj
    · exact (List.getElem?_eq_some_iff.1 (h.getElem?_members htask)).1
    · obtain ⟨p, hp, rfl⟩ := List.mem_map.1 hj
      obtain ⟨e, he, -⟩ := h.names p hp
      exact (List.getElem?_eq_some_iff.1 he).1
  have hcount := List.Nodup.length_le_of_subset (List.nodup_cons.2 ⟨hunseen, h.once⟩) hin
  rw [List.length_cons, List.length_range] at hcount
  omega

/-- The call is over, because the consumer has stopped or has been given what ends it. All that is asked from now on is
that every task is done; the books are closed. -/
theorem stop (h : f.Follows room spec members seen) (hstops : f.Stops f') {given : List (Outcome Response)}
    {stopped : Bool} (horder : seen.given ++ given <+: seen.completed.map Prod.snd)
    (hlast : ∀ outcome ∈ (seen.given ++ given).dropLast, ¬outcome.Ends)
    (hended : (seen.stopped || stopped) = true ∨ ∃ outcome ∈ seen.given ++ given, outcome.Ends) :
    f'.Follows room spec members (seen.append ⟨[], given, [], stopped⟩) where
  spec := hstops.spec.trans h.spec
  endpoints := hstops.endpoints.trans h.endpoints
  once := by simpa [FanTrace.append] using h.once
  names := by simpa [FanTrace.append] using h.names
  order := by simpa [FanTrace.append] using horder
  last := hlast
  ended := ⟨fun _ => hended, fun _ => hstops.closed⟩
  arrived hopen := by rw [hstops.closed] at hopen; cases hopen
  taken hopen := by rw [hstops.closed] at hopen; cases hopen
  outcomes hopen := by rw [hstops.closed] at hopen; cases hopen
  finished _ := hstops.all
  asked := by
    obtain ⟨posed, hhanded, hnodup, hposed⟩ := h.asked
    refine ⟨posed, by simpa [FanTrace.append] using hhanded, hnodup, ?_⟩
    intro p hp
    obtain ⟨task, htask, -, hasks⟩ := hposed p hp
    -- the task is still there for the same member, and it is done now
    have hin : p.1 < f'.tasks.length := by
      rw [hstops.length_eq]
      exact (List.getElem?_eq_some_iff.1 htask).1
    have htask' := List.getElem?_eq_getElem hin
    have hdone := hstops.all _ (List.mem_of_getElem? htask')
    have hsame : f'.tasks[p.1].endpoint = task.endpoint := by
      have hboth := congrArg (·[p.1]?) hstops.endpoints
      simpa [htask', htask] using hboth
    refine ⟨_, htask', ?_, ?_⟩
    · intro hcreated
      rw [hcreated] at hdone
      cases hdone
    · rw [hstops.spec, hsame]
      exact hasks

/-- **Whatever happens to a call, it stands as what has been seen of it says.** One case for each of the seven
moves; a request that is handed over and then fails at once is two of them, one after the other. -/
theorem moves (h : f.Follows room spec members seen) {now : FanTrace} (hmoves : f.Moves room f' now) :
    f'.Follows room spec members (seen.append now) := by
  cases hmoves with
  | stays =>
    rw [FanTrace.append_nothing]
    exact h
  | asks htask hasks => exact h.ask htask _ hasks
  | @fails i e request htask hasks fault =>
    have hnames (response : Response) (heq : (Outcome.raised fault : Outcome Response) = .returned response) :
        response.endpoint = e := by cases heq
    cases request with
    | none => exact h.complete htask rfl (.raised fault) hnames
    | some r =>
      -- the request is handed over, and then the task completes
      have hasked := h.ask htask ⟨0, r⟩ (hasks r rfl)
      have hcompleted := hasked.complete (getElem?_withTask htask _) rfl (.raised fault) hnames
      rw [withTask_withTask rfl, FanTrace.append_assoc] at hcompleted
      exact hcompleted
  | completes htask hnames => exact h.complete htask rfl _ hnames
  | gives hopen hnext houtcome => exact h.give hopen hnext houtcome
  | ends hopen hnext houtcome hends hstops =>
    refine h.stop hstops (h.order_next hopen hnext houtcome) ?_ (.inr ⟨_, by simp, hends⟩)
    rw [List.dropLast_concat]
    exact h.not_ends hopen
  | stops hstops =>
    refine h.stop hstops ?_ ?_ (.inl (Bool.or_true _))
    · rw [List.append_nil]
      exact h.order
    · rw [List.append_nil]
      exact h.last

end Follows

end FanOut

namespace Client

variable {room : Room} {c : Client} {fan : Nat} {f : FanOut} {spec : RequestSpec} {members : List Endpoint}
  {seen : FanTrace}

/-- An open client can always begin a call to all members. -/
theorem fanOut_eq (hopen : c.transport.closed = false) (spec : RequestSpec) :
    c.fanOut spec = .ok { c with fans := c.fans ++ [.fresh spec c.endpoints] } := by
  unfold fanOut
  rw [hopen, if_neg Bool.false_ne_true]
  rfl

/-- **Over a whole history the call stands as what has been seen of it says.** The induction is on the history,
and what one step shows is appended to what was seen before it. -/
theorem follows_steps (hf : c.fans[fan]? = some f)
    (h : f.Follows c.room spec members seen) (actions : List Action) :
    ∃ f', (c.steps actions).fans[fan]? = some f' ∧
      f'.Follows c.room spec members (seen.append (c.traceOf fan actions)) := by
  induction actions generalizing c f seen with
  | nil => exact ⟨f, hf, by rw [traceOf, FanTrace.append_nothing]; exact h⟩
  | cons a rest ih =>
    obtain ⟨f₁, hf₁, hmoves⟩ := moves_step hf a
    -- the step leaves the client the room that it had
    have hroom := (continues_step c a).room
    have hmoved := h.moves hmoves
    rw [← hroom] at hmoved
    obtain ⟨f₂, hf₂, hfollows⟩ := ih hf₁ hmoved
    rw [FanTrace.append_assoc, hroom] at hfollows
    exact ⟨f₂, hf₂, hfollows⟩

/-- The consumer has stopped if one of the steps was to stop. -/
theorem stopped_traceOf (fan : Nat) (c : Client) (actions : List Action) :
    (c.traceOf fan actions).stopped = true ↔ .stopFan fan ∈ actions := by
  induction actions generalizing c with
  | nil => simp [traceOf, FanTrace.nothing]
  | cons a rest ih =>
    have hseen : (c.seen fan a).stopped = true ↔ .stopFan fan = a := by
      unfold seen
      cases a with
      | stopFan other =>
        by_cases h : other = fan
        · simp [Action.fan?, h]
        · simp [Action.fan?, h, Ne.symm h, FanTrace.nothing]
      | _ => split <;> simp [FanTrace.nothing]
    rw [traceOf, FanTrace.append, Bool.or_eq_true, hseen, ih, List.mem_cons]

/-! ## When all members have answered -/

/-- Completions that are responses of the members at their positions. -/
theorem exists_responses (members : List Endpoint) {completed : List (Nat × Outcome Response)}
    (h : ∀ p ∈ completed, ∃ response, p.2 = .returned response ∧
      members[p.1]? = some response.endpoint) :
    ∃ responses : List Response, completed.map Prod.snd = responses.map .returned ∧
      responses.map (fun response => some response.endpoint) =
        (completed.map Prod.fst).map fun i => members[i]? := by
  induction completed with
  | nil => exact ⟨[], rfl, rfl⟩
  | cons p rest ih =>
    obtain ⟨hfirst, hrest⟩ := List.forall_mem_cons.1 h
    obtain ⟨response, houtcome, hmember⟩ := hfirst
    obtain ⟨responses, houtcomes, hmembers⟩ := ih hrest
    exact ⟨response :: responses, by simp [houtcome, houtcomes], by simp [hmember, hmembers]⟩

/-- If every member has answered, the responses are those of all members, each once. Each task has completed
once and names its member, so that the members of the responses are the members of the tasks, in the order in
which they completed. -/
theorem exists_responses_of_all (h : f.Follows room spec members seen) (hopen : f.closed = false)
    (hall : ∀ i < members.length, ∃ response, (i, Outcome.returned response) ∈ seen.completed) :
    ∃ responses : List Response, seen.completed.map Prod.snd = responses.map .returned ∧
      (responses.map Response.endpoint).Perm members := by
  obtain ⟨responses, houtcomes, hmembers⟩ := exists_responses members fun p hp => by
    obtain ⟨e, he, hnames⟩ := h.names p hp
    obtain ⟨response, hresponse⟩ := hall p.1 (List.getElem?_eq_some_iff.1 he).1
    -- the task has completed once only
    have hsame := (h.outcomes hopen _ _).1 hp
    rw [(h.outcomes hopen _ _).1 hresponse] at hsame
    have houtcome := (Option.some.inj hsame).symm
    exact ⟨response, houtcome, by rw [he, hnames response houtcome]⟩
  refine ⟨responses, houtcomes, ?_⟩
  have hpositions : (seen.completed.map Prod.fst).Perm (List.range members.length) := by
    refine (List.perm_ext_iff_of_nodup h.once List.nodup_range).2 fun i => ?_
    rw [List.mem_range]
    constructor
    · intro hi
      obtain ⟨p, hp, rfl⟩ := List.mem_map.1 hi
      obtain ⟨e, he, -⟩ := h.names p hp
      exact (List.getElem?_eq_some_iff.1 he).1
    · intro hi
      obtain ⟨response, hresponse⟩ := hall i hi
      exact List.mem_map_of_mem hresponse
  have hrange : (List.range members.length).map (fun i => members[i]?) = members.map some := by
    refine List.ext_getElem (by simp) fun i hi _ => ?_
    simp at hi ⊢
  have hperm := hpositions.map fun i => members[i]?
  rw [← hmembers, hrange] at hperm
  simpa [List.filterMap_map] using hperm.filterMap id

/-- **The consumer of a call to all members is given what completes, as it completes.** Whatever the order
of steps: each member is asked once at most, and completes once at most; a member that answers while its
request waits completes with that answer; the items are the first outcomes, in order; all but the last are
responses. Unless the call has ended, because the consumer has stopped or has been given anything but a
response, the next item is the next outcome. If every member answers and the consumer takes all there is, it
has the responses of all members. When the call has ended or all items have been taken, no task is left under
way. -/
theorem gathers_as_completed (c : Client) (hopen : c.transport.closed = false) (spec : RequestSpec) :
    ∃ begun, c.fanOut spec = .ok begun ∧ ∀ actions : List Action,
    let fan := c.fans.length
    let final := begun.steps actions
    let seen := begun.traceOf fan actions
    let outcomes := seen.completed.map Prod.snd
    let ended := .stopFan fan ∈ actions ∨ ∃ outcome ∈ seen.given, outcome.Ends
    (∃ posed : List (Nat × Request), posed.map Prod.snd = seen.handed ∧ (posed.map Prod.fst).Nodup ∧
      ∀ p ∈ posed, ∃ e, c.endpoints[p.1]? = some e ∧ spec.Asks c.room e p.2) ∧
    (seen.completed.map Prod.fst).Nodup ∧
    (∀ p ∈ seen.completed, ∃ e, c.endpoints[p.1]? = some e ∧
      ∀ response, p.2 = .returned response → response.endpoint = e) ∧
    (∀ i f e pending a, final.task? fan i = some (f, ⟨e, .waiting pending⟩) →
      (final.seen fan (.answerTask fan i a)).completed =
        [(i, (final.transport.conclude spec e pending.request a).2)]) ∧
    seen.given <+: outcomes ∧
    (∀ outcome ∈ seen.given.dropLast, ∃ response, outcome = .returned response) ∧
    (¬ended → (final.nextItem fan).2 = outcomes[seen.given.length]?) ∧
    (ended → (final.nextItem fan).2 = none) ∧
    (¬ended → (final.nextItem fan).2 = none →
      (∀ i < c.endpoints.length, ∃ response, (i, Outcome.returned response) ∈ seen.completed) →
      ∃ responses : List Response, seen.given = responses.map .returned ∧
        (responses.map Response.endpoint).Perm c.endpoints) ∧
    (ended ∨ seen.given.length = c.endpoints.length → ∃ f, final.fans[fan]? = some f ∧
      f.tasks.map Task.endpoint = c.endpoints ∧ ∀ task ∈ f.tasks, task.state.isDone = true) := by
  refine ⟨_, fanOut_eq hopen spec, ?_⟩
  intro actions fan final seen outcomes ended
  have hbegins :
      ({ c with fans := c.fans ++ [.fresh spec c.endpoints] } : Client).fans[c.fans.length]? =
        some (.fresh spec c.endpoints) := by simp
  obtain ⟨f, hf, h⟩ := follows_steps hbegins (.fresh _ spec c.endpoints) actions
  rw [FanTrace.nothing_append] at h
  have hended : f.closed = true ↔ ended := by
    rw [h.ended, stopped_traceOf]
  have hopen (hrunning : ¬ended) : f.closed = false :=
    Bool.eq_false_iff.2 fun hclosed => hrunning (hended.1 hclosed)
  have hitem (hrunning : ¬ended) : (final.nextItem fan).2 = outcomes[seen.given.length]? :=
    (snd_nextItem hf).trans (h.next?_eq (hopen hrunning))
  refine ⟨?_, h.once, h.names, ?_, h.order, ?_, hitem, ?_, ?_, ?_⟩
  · obtain ⟨posed, hhanded, hnodup, hposed⟩ := h.asked
    refine ⟨posed, hhanded, hnodup, fun p hp => ?_⟩
    obtain ⟨task, htask, -, hasks⟩ := hposed p hp
    rw [h.spec] at hasks
    exact ⟨_, h.getElem?_members htask, hasks⟩
  · intro i f' e pending a hwaits
    rw [task?_eq hf] at hwaits
    obtain ⟨task, htask, hpair⟩ := Option.map_eq_some_iff.1 hwaits
    obtain ⟨-, rfl⟩ := Prod.mk.inj hpair
    rw [completed_answerTask hf htask, h.spec]
  · intro outcome hmem
    exact Outcome.not_ends_iff.1 (h.last outcome hmem)
  · intro hover
    rw [snd_nextItem hf, FanOut.next?, hended.2 hover, if_pos rfl]
  · intro hrunning hnone hall
    obtain ⟨responses, houtcomes, hperm⟩ := exists_responses_of_all h (hopen hrunning) hall
    -- the consumer has taken all there is
    rw [hitem hrunning, List.getElem?_eq_none_iff] at hnone
    have hgiven : seen.given = outcomes := h.order.eq_of_length_le hnone
    exact ⟨responses, hgiven.trans houtcomes, hperm⟩
  · intro hover
    refine ⟨f, hf, h.endpoints, ?_⟩
    by_cases hclosed : f.closed = true
    · exact h.finished hclosed
    · rcases hover with hover | hgiven
      · exact absurd (hended.2 hover) hclosed
      · exact h.all_done (Bool.eq_false_iff.2 hclosed) hgiven

/-- The second of two members answers first and the consumer stops after its response: the request to the
first member is not left waiting. -/
theorem gathers_as_completed_stopped_early :
    let actions : List Action :=
      [.startTask 0 0, .startTask 0 1, .answerTask 0 1 (.reply ⟨200, [], []⟩), .nextItem 0, .stopFan 0]
    ofTwo.transport.closed = false ∧ ∃ begun, ofTwo.fanOut (.get "/health") = .ok begun ∧
      ∃ f, (begun.steps actions).fans[0]? = some f ∧ f.tasks.map Task.endpoint = ofTwo.endpoints ∧
        ∀ task ∈ f.tasks, task.state.isDone = true := by
  intro actions
  obtain ⟨begun, hbegun, hgathers⟩ := gathers_as_completed ofTwo rfl (.get "/health")
  obtain ⟨-, -, -, -, -, -, -, -, -, hdone⟩ := hgathers actions
  have hstopped : Action.stopFan ofTwo.fans.length ∈ actions := by
    show Action.stopFan 0 ∈ actions
    simp [actions]
  exact ⟨rfl, begun, hbegun, hdone (.inl (.inl hstopped))⟩

end Client

end ClusterClient
