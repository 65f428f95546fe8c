import ClusterClient.Proofs.Client.Conversation
import ClusterClient.Proofs.Client.Runs

/-!
# Calls do not disturb each other

Any number of calls may be under way at once, through one executor or one client, and some of them may be
cancelled. Each makes the same attempts and ends in the same way as if it were the only one that was ever
made.

## The architecture

* **`Client.Leaves`**: what a step of anybody else makes of a client. It is reflexive and transitive, so that
  an operation made of several needs a lemma for each of them only; **`leaves_step`** is any such step.
* **`carries_execute`**, **`carries_steps`**: a client carries a call from its beginning on as the call would
  go by itself.
* **`calls_are_isolated`**: the law, for runs side by side and for the calls of clients.
-/

namespace ClusterClient

namespace Client

variable {c c' c'' : Client} {call slot : Nat} {spec : RequestSpec} {listeners : List Listener}
  {v : Conversation}

/-! ## Steps of others -/

/-- A client is left by others as far as a call is concerned: it stays open or closed, what the call asks
stays there, and its runs have taken steps of which none is the call's. -/
structure Leaves (call : Nat) (c c' : Client) : Prop where
  settings : c'.settings = c.settings
  room : c'.room = c.room
  closed : c'.transport.closed = c.transport.closed
  calls : ∀ x, c.calls[call]? = some x → c'.calls[call]? = some x
  failover : ∃ actions : List (World.Action Response), c'.failover = c.failover.steps actions ∧
    ∀ a ∈ actions, a.outcomeFor? call = none ∧ ∀ slot, a.Spares slot

namespace Leaves

theorem refl (call : Nat) (c : Client) : c.Leaves call c :=
  ⟨rfl, rfl, rfl, fun _ h => h, [], rfl, by simp⟩

/-- What two steps leave is left. -/
theorem trans (h : Leaves call c c') (h' : Leaves call c' c'') : Leaves call c c'' := by
  obtain ⟨actions, hsteps, hforeign⟩ := h.failover
  obtain ⟨actions', hsteps', hforeign'⟩ := h'.failover
  refine ⟨h'.settings.trans h.settings, h'.room.trans h.room, h'.closed.trans h.closed,
    fun x hx => h'.calls x (h.calls x hx), actions ++ actions', ?_, ?_⟩
  · rw [hsteps', hsteps, World.steps, World.steps, World.steps, List.foldl_append]
  · intro a ha
    exact (List.mem_append.1 ha).elim (hforeign a) (hforeign' a)

theorem of_sameCalls (h : c.SameCalls c') : c.Leaves call c' :=
  ⟨h.settings, h.room, h.closed, fun x hx => by rw [h.calls]; exact hx, [], h.failover, by simp⟩

/-- A client whose runs take one step. -/
theorem of_step (a : World.Action Response) (hsettings : c'.settings = c.settings) (hroom : c'.room = c.room)
    (hclosed : c'.transport.closed = c.transport.closed)
    (hcalls : ∀ x, c.calls[call]? = some x → c'.calls[call]? = some x)
    (hfailover : c'.failover = c.failover.step a) (hforeign : a.outcomeFor? call = none)
    (hspares : ∀ slot, a.Spares slot) : Leaves call c c' :=
  ⟨hsettings, hroom, hclosed, hcalls, [a], hfailover, by simpa using ⟨hforeign, hspares⟩⟩

end Leaves

theorem set_calls_other {other : Nat} (hother : other ≠ call) (x : Call) (y : Call)
    (hy : c.calls[call]? = some y) : (c.calls.set other x)[call]? = some y := by
  rwa [List.getElem?_set_ne hother]

theorem outcomeFor_resume {other : Nat} (hother : other ≠ call) (outcome : Outcome Response) :
    (World.Action.resume other outcome).outcomeFor? call = none := if_neg hother

/-- Another call makes its next request. The transport hands it over with settings, room and being open as they
were; if it cannot be made, only the run of the other call hears of it. -/
theorem Advances.leaves {other : Nat} (hother : other ≠ call) (h : Advances other c c') :
    Leaves call c c' := by
  induction h with
  | still c => exact .refl call c
  | asked =>
    -- no run has moved, and what the other call asks does not touch this one
    exact ⟨Transport.settings_dispatch _ _ _, Transport.room_dispatch _ _ _, Transport.closed_dispatch _ _ _,
      set_calls_other hother _, [], rfl, by simp⟩
  | abandoned =>
    exact .of_sameCalls
      ⟨Transport.settings_dispatch _ _ _, Transport.room_dispatch _ _ _, Transport.closed_dispatch _ _ _, rfl, rfl⟩
  | @passed c c' spec e f _ _ ih =>
    have hsettings := Transport.settings_dispatch c.transport spec e
    have hroom := Transport.room_dispatch c.transport spec e
    have hclosed := Transport.closed_dispatch c.transport spec e
    refine .trans ?_ ih
    exact .of_step (.resume other (.raised f)) hsettings hroom hclosed (fun _ hx => hx) rfl
      (outcomeFor_resume hother _) fun _ => trivial

/-- A call that begins leaves the calls that are there. -/
theorem leaves_executeWith (hcall : call ≠ c.failover.runs.length) {spec : RequestSpec} {slot : Nat}
    (h : c.executeWith spec slot = .ok c') : Leaves call c c' := by
  obtain ⟨-, rfl⟩ | ⟨-, rfl⟩ := executeWith_cases h
  · exact .refl call c'
  · refine .trans ?_ ((advances _ _ _).leaves hcall.symm)
    -- the call that begins is put behind those that are there
    refine .of_step (.beginWith c.endpoints _ slot) rfl rfl rfl (fun x hx => ?_) rfl rfl fun _ => trivial
    obtain ⟨hin, -⟩ := List.getElem?_eq_some_iff.1 hx
    rwa [withCall, List.getElem?_append_left hin]

theorem leaves_addProgress (endpoints : List Endpoint) (c : Client) :
    Leaves call c (c.addProgress endpoints) :=
  .of_step (.addProgress endpoints) rfl rfl rfl (fun _ hx => hx) rfl rfl fun _ => trivial

/-- A call that begins leaves those that are there as they are. -/
theorem leaves_execute (hcall : call ≠ c.failover.runs.length) {spec : RequestSpec}
    (h : c.execute spec = .ok c') : Leaves call c c' :=
  (leaves_addProgress c.endpoints c).trans (leaves_executeWith hcall (executeWith_of_execute h))

/-- An answer to another call is heard by that call alone. -/
theorem leaves_answer {other : Nat} (hother : other ≠ call) (a : Answer) (c : Client) :
    Leaves call c (c.answer other a) := by
  unfold answer
  split
  · next attempt e spec pending _ _ =>
    have hsame := Transport.sameConnection_conclude c.transport spec e pending.request a
    refine .trans ?_ ((advances _ _ _).leaves hother)
    exact .of_step (.resume other _) hsame.settings hsame.room hsame.closed (set_calls_other hother _) rfl
      (outcomeFor_resume hother _) fun _ => trivial
  · exact .refl call c

/-- So is the caller of another call who gives it up. -/
theorem leaves_cancel {other : Nat} (hother : other ≠ call) (c : Client) :
    Leaves call c (c.cancel other) := by
  unfold cancel
  split
  · exact .of_step (.resume other .cancelled) rfl rfl rfl (set_calls_other hother _) rfl
      (outcomeFor_resume hother _) fun _ => trivial
  · exact .refl call c

/-- What a step tells a call. -/
def Action.signal? (call : Nat) : Action → Option Signal
  | .answer other a => if other = call then some (.answer a) else none
  | .cancel other => if other = call then some .cancel else none
  | _ => none

/-- **A step of others.** One case for each step that begins no call at this position, is no signal to this call
and does not close the client. Calls to all members leave every run alone; whoever registers or unregisters a
listener changes what later calls hear, and this one has its listeners already. -/
theorem leaves_step (c : Client) {a : Action} (hopen : a ≠ .close) (hcall : call ≠ c.failover.runs.length)
    (hforeign : a.signal? call = none) : Leaves call c (c.step a) := by
  cases a with
  | execute spec =>
    simp only [step]
    cases h : c.execute spec with
    | error f => exact .refl call c
    | ok c' => exact leaves_execute hcall h
  | executeWith spec slot =>
    simp only [step]
    cases h : c.executeWith spec slot with
    | error f => exact .refl call c
    | ok c' => exact leaves_executeWith hcall h
  | answer other a =>
    -- the signal is for another call, since it is none for this one
    refine leaves_answer ?_ a c
    rintro rfl
    simp [Action.signal?] at hforeign
  | cancel other =>
    refine leaves_cancel ?_ c
    rintro rfl
    simp [Action.signal?] at hforeign
  | fanOut spec =>
    simp only [step]
    cases h : c.fanOut spec with
    | error f => exact .refl call c
    | ok c' => exact .of_sameCalls (sameCalls_fanOut h)
  | startTask fan i => exact .of_sameCalls (sameCalls_startTask fan i c)
  | answerTask fan i a => exact .of_sameCalls (sameCalls_answerTask fan i a c)
  | nextItem fan => exact .of_sameCalls (sameCalls_nextItem fan c)
  | stopFan fan => exact .of_sameCalls (sameCalls_stopFan fan c)
  | change change =>
    exact .of_step (.change change) rfl rfl rfl (fun _ hx => hx) rfl rfl fun _ => trivial
  | addProgress endpoints => exact leaves_addProgress endpoints c
  | close => exact absurd rfl hopen

theorem Reachable.sound (h : c.Reachable) : c.failover.Sound := h.failover.sound

/-! ## A call among others -/

/-- What a call hears, by some steps. -/
def signalsFor (call : Nat) (actions : List Action) : List Signal := actions.filterMap (Action.signal? call)

/-- A client carries a call as before when others have done something. -/
theorem Carries.left (h : c.Carries call spec listeners slot v) (hleft : Leaves call c c') :
    c'.Carries call spec listeners slot v := by
  obtain ⟨actions, hactions, hforeign⟩ := hleft.failover
  obtain ⟨pending, hcall, hasked⟩ := h.asks
  have hfollows := World.follows_steps h.follows actions fun a ha => (hforeign a ha).2 slot
  have hnothing : World.outcomesFor call actions = [] :=
    List.filterMap_eq_nil_iff.2 fun a ha => (hforeign a ha).1
  rw [hnothing, ← hactions] at hfollows
  refine ⟨hleft.closed.trans h.isOpen, ?_, pending, hleft.calls _ hcall, hasked⟩
  rwa [endpoints, hleft.settings]

/-- **A client carries a call through any steps** but its end, as the call would go by itself. The induction is
on the steps: those of others leave the call as it is, and a signal moves it as it moves the call by itself. -/
theorem carries_steps (h : c.Carries call spec listeners slot v) (later : List Action)
    (hopen : ∀ a ∈ later, a ≠ .close) :
    (c.steps later).Carries call spec listeners slot
      ((signalsFor call later).foldl (Conversation.hear c.room c.settings spec) v) := by
  induction later generalizing c v with
  | nil => exact h
  | cons a rest ih =>
    have hrest := fun a ha => hopen a (List.mem_cons_of_mem _ ha)
    have hcontinues := continues_step c a
    cases hsignal : a.signal? call with
    | none =>
      -- a step of others; the call is there, so that it is not one that begins now
      have hcall : call ≠ c.failover.runs.length := by
        obtain ⟨hin, -⟩ := List.getElem?_eq_some_iff.1 h.owns.there
        exact Nat.ne_of_lt hin
      have hstep := h.left (leaves_step c (hopen a (by simp)) hcall hsignal)
      have hsteps := ih hstep hrest
      rw [hcontinues.settings, hcontinues.room] at hsteps
      rwa [signalsFor, List.filterMap_cons_none hsignal]
    | some signal =>
      have hstep : (c.step a).Carries call spec listeners slot (v.hear c.room c.settings spec signal) := by
        cases a with
        | answer other a =>
          simp only [Action.signal?] at hsignal
          split at hsignal
          · next hsame => subst hsame; cases hsignal; exact h.answer a
          · cases hsignal
        | cancel other =>
          simp only [Action.signal?] at hsignal
          split at hsignal
          · next hsame => subst hsame; cases hsignal; exact h.cancel
          · cases hsignal
        | _ => cases hsignal
      have hsteps := ih hstep hrest
      rw [hcontinues.settings, hcontinues.room] at hsteps
      rwa [signalsFor, List.filterMap_cons_some hsignal]

/-- A call begins in a client as it does by itself: with progress that nobody else has, and with the listeners
that are registered at that time. Before it goes on to its first member it stands at the same place in both, and
going on keeps the two together. -/
theorem carries_execute (hreachable : c.Reachable) (hopen : c.transport.closed = false)
    (hown : c.endpoints ≠ []) (spec : RequestSpec) :
    (c.step (.execute spec)).Carries c.failover.runs.length spec c.failover.observers.registered
      c.failover.progresses.length (.begin c.room c.settings spec) := by
  let begun : Client := (c.addProgress c.endpoints).withCall spec c.failover.progresses.length
  -- the call has its own progress by now, and no member has been asked
  have hexecute : c.execute spec = .ok (begun.advance c.failover.runs.length c.endpoints.length) :=
    execute_of_begun hopen
      (executeWith_of_lt (c := c.addProgress c.endpoints) hopen (by simp [addProgress, World.addProgress]))
  have hfollows := World.follows_begin hreachable.sound hown (.fixed c.failover.observers.registered)
  have hbegun : begun.Carries c.failover.runs.length spec c.failover.observers.registered
      c.failover.progresses.length ⟨.onward (.start c.endpoints), none⟩ :=
    ⟨hopen, hfollows, none, by simp [begun, withCall, addProgress, ← hreachable.aligned], rfl⟩
  simp only [step, hexecute]
  exact hbegun.advance c.endpoints.length

/-! ## Alone and among others -/

/-- A step that tells a call something. -/
def Action.ofSignal (call : Nat) : Signal → Action
  | .answer a => .answer call a
  | .cancel => .cancel call

/-- A call hears what it is told, in order. -/
theorem signalsFor_map_ofSignal (call : Nat) (signals : List Signal) :
    signalsFor call (signals.map (Action.ofSignal call)) = signals := by
  induction signals with
  | nil => rfl
  | cons signal rest ih =>
    rw [signalsFor] at ih
    cases signal <;> simp [signalsFor, Action.ofSignal, Action.signal?, ih]

theorem Action.ofSignal_ne_close (call : Nat) (signal : Signal) : ofSignal call signal ≠ .close := by
  cases signal <;> nofun

/-- Two clients that carry a call that stands alike show the same of it. -/
theorem Carries.alike {call' slot' : Nat} {listeners' : List Listener}
    (h : c.Carries call spec listeners slot v) (h' : c'.Carries call' spec listeners' slot' v) :
    c.outcome? call = c'.outcome? call' ∧
      c.failover.invoked call = c'.failover.invoked call' ∧
      (c.pending? call).map Pending.request = (c'.pending? call').map Pending.request := by
  obtain ⟨pending, hcall, hasked⟩ := h.asks
  obtain ⟨pending', hcall', hasked'⟩ := h'.asks
  obtain ⟨-, houtcome, hinvoked⟩ := h.owns.alike h'.owns.toHolds rfl rfl
  exact ⟨houtcome, hinvoked, by simp [pending?, hcall, hcall', hasked, hasked']⟩

end Client

/-- **Calls do not disturb each other.** A call through an executor, whoever else is under way and whatever has
happened before, waits for the same attempts, has tried the same members and ends in the same way as in
any other world in which its attempts end in these ways and nothing else happens. Its progress is its own,
so that nobody moves it, and no event keeps it waiting for ever. A call of a client waits for the same
requests, has tried the same members and ends in the same way as in any other client of the same settings, with the
same room, that does nothing else. -/
theorem calls_are_isolated :
    (∀ {α : Type} (w w' : World α) (own : List Endpoint) (audience audience' : Audience)
      (later : List (World.Action α)),
      w.Reachable → w'.Reachable → own ≠ [] → (∀ a ∈ later, a.Spares w.progresses.length) →
      let call := w.runs.length
      let call' := w'.runs.length
      let after := (w.begin own audience).steps later
      let alone := (w'.begin own audience').feed call' (World.outcomesFor call later)
      (audience = .live → ¬ after.IsStuck call) → (audience' = .live → ¬ alone.IsStuck call') →
        after.awaited? call = alone.awaited? call' ∧ after.outcome? call = alone.outcome? call' ∧
          after.invoked call = alone.invoked call') ∧
    (∀ (c c' : Client) (spec : RequestSpec) (later : List Client.Action),
      c.Reachable → c'.Reachable → c.transport.closed = false → c'.transport.closed = false →
      c'.settings = c.settings → c'.room = c.room → c.endpoints ≠ [] → (∀ a ∈ later, a ≠ .close) →
      let call := c.failover.runs.length
      let call' := c'.failover.runs.length
      let after := (c.step (.execute spec)).steps later
      let alone := (c'.step (.execute spec)).steps
        ((Client.signalsFor call later).map (Client.Action.ofSignal call'))
      after.outcome? call = alone.outcome? call' ∧
        after.failover.invoked call = alone.failover.invoked call' ∧
        (after.pending? call).map Pending.request = (alone.pending? call').map Pending.request) := by
  refine ⟨?_, ?_⟩
  · intro α w w' own audience audience' later hreachable hreachable' hown hspares call call' after alone
      hgoing hgoing'
    have hfollows := World.follows_steps (World.follows_begin hreachable.sound hown audience) later hspares
    -- the run alone is given the same outcomes, and both stand where these have brought them
    have hfollows' := (World.follows_begin hreachable'.sound hown audience').feed
      (World.outcomesFor call later)
    exact (hfollows.owns hgoing).alike (hfollows'.owns hgoing').toHolds rfl rfl
  · intro c c' spec later hreachable hreachable' hopen hopen' hsettings hroom hown hclose call call' after alone
    have hown' : c'.endpoints ≠ [] := by rwa [Client.endpoints, hsettings]
    -- a call carries what its signals say; settings and room are those it began with
    have hcarries := Client.carries_steps (Client.carries_execute hreachable hopen hown spec) later hclose
    have hcarries' := Client.carries_steps (Client.carries_execute hreachable' hopen' hown' spec)
      ((Client.signalsFor call later).map (Client.Action.ofSignal call')) fun a ha => by
        obtain ⟨signal, -, rfl⟩ := List.mem_map.1 ha
        exact Client.Action.ofSignal_ne_close call' signal
    have hbegun := Client.continues_step c (.execute spec)
    have hbegun' := Client.continues_step c' (.execute spec)
    rw [hbegun.settings, hbegun.room] at hcarries
    rw [hbegun'.settings, hbegun'.room, Client.signalsFor_map_ofSignal, hsettings, hroom] at hcarries'
    exact hcarries.alike hcarries'

/-- Two calls over the same two members, one of which is cancelled; and a client that makes another call while
the first one waits. -/
theorem calls_are_isolated_ofTwo :
    let members : List Endpoint := [⟨"http://etcd1:2379"⟩, ⟨"http://etcd2:2379"⟩]
    let w : World Nat := .quiet ⟨fun _ _ _ => .quiet, 1⟩
    let later : List (World.Action Nat) :=
      [.begin members (.fixed []), .resume 0 (.raised (.closed "refused")), .resume 1 .cancelled,
        .resume 0 (.returned 7)]
    let alone := (w.begin members (.fixed [])).feed 0 [.raised (.closed "refused"), .returned 7]
    let spec : RequestSpec := .get "v2/keys/foo"
    let other : RequestSpec := .get "v2/keys/bar"
    let refused : Answer := .fails (.external ⟨.connectError, "refused"⟩)
    let c := Client.ofTwo.step (.change (.register "log"))
    ((w.begin members (.fixed [])).steps later).outcome? 0 = alone.outcome? 0 ∧
      alone.outcome? 0 = some (.returned 7) ∧
      ((c.step (.execute spec)).steps [.execute other, .answer 0 refused, .cancel 1]).outcome? 0 =
        ((Client.ofTwo.step (.execute spec)).steps [.answer 0 refused]).outcome? 0 := by
  intro members w later alone spec other refused c
  have hworld := (calls_are_isolated.1 w w members (.fixed []) (.fixed []) later ⟨_, [], rfl⟩ ⟨_, [], rfl⟩
    (List.cons_ne_nil _ _) (by simp [later, World.Action.Spares]) (fun hlive => by cases hlive)
    (fun hlive => by cases hlive)).2.1
  have hclient := (calls_are_isolated.2 c Client.ofTwo spec [.execute other, .answer 0 refused, .cancel 1]
    ⟨_, _, _, [.change (.register "log")], rfl⟩ Client.reachable_ofTwo rfl rfl rfl rfl (List.cons_ne_nil _ _)
    (by simp)).1
  exact ⟨hworld, rfl, hclient⟩

end ClusterClient
