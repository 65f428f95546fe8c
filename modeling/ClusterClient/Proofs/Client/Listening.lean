import ClusterClient.Proofs.Client.Isolation
import ClusterClient.Proofs.Failover.Hearing

/-!
# Who hears the calls of a client

A call of a client is heard by the listeners that are registered when it begins. They may come and go while
it is under way, and so may others, at any time and by anyone's doing; the call does not notice, and the
next one does.

## The architecture

* **`Observers.Hear`**: what runs do to the observers as they go on: they call listeners, who change the
  registry as they do and in no other way (**`GoesOn.hear`**).
* **`Client.changesDuring`**: the changes that are made while a client takes steps, by listeners as they are
  called and from outside. The registry is what they make of it (**`registered_steps`**).
* **`Client.Begins`**: a call begins. From then on it recounts its events to the listeners of that moment
  (**`Begins.recounts_steps`**).
* **`calls_are_heard_as_they_began`**: the law.
-/

namespace ClusterClient

namespace World

variable {α : Type} {w w' w'' : World α} {call : Nat}

/-- **Nothing is told in the name of a call that has ended.** Its run stays as it is through every step, so that
no outcome of an attempt reaches it any more; and what is told for other calls is told in their names. -/
theorem heard_steps_of_ended {run : Run α} {outcome : Outcome α} (hrun : w.runs[call]? = some run)
    (hended : run.phase = .ended outcome) (actions : List (Action α)) :
    (w.steps actions).observers.heard call = w.observers.heard call := by
  -- one step: the run stays, and nothing is told for it
  have hfirst (w : World α) (hrun : w.runs[call]? = some run) (a : Action α) :
      (w.step a).runs[call]? = some run ∧ (w.step a).observers.heard call = w.observers.heard call := by
    refine ⟨?_, ?_⟩
    · cases a with
      | begin own audience => exact runs_beginWith_of_ended (w := w.addProgress own) hrun own audience _
      | beginWith own audience slot => exact runs_beginWith_of_ended hrun own audience slot
      | resume other result => exact runs_resume_of_ended hrun hended other result
      | _ => exact hrun
    · cases houtcome : a.outcomeFor? call with
      | none => exact heard_step (List.getElem?_eq_some_iff.1 hrun).1 houtcome
      | some result =>
        obtain rfl := Action.eq_resume houtcome
        have hidle : w.resume call result = w :=
          resume_of_idle hrun (fun attempt e hphase => by rw [hended] at hphase; cases hphase) result
        exact congrArg (fun w => w.observers.heard call) hidle
  induction actions generalizing w with
  | nil => rfl
  | cons a rest ih =>
    obtain ⟨hthere, hsame⟩ := hfirst w hrun a
    exact (ih hthere).trans hsame

end World

/-! ## The registry -/

/-- The changes that listeners make when these deliveries come after those that have been told. -/
def Population.changesOf (population : Population) : List Delivery → List Delivery → List Change
  | _, [] => []
  | told, d :: rest =>
    (population.react told d.listener d.event).changes ++ changesOf population (told ++ [d]) rest

/-- One more delivery brings the changes that its listener makes, knowing all that were told before. -/
theorem Population.changesOf_concat (population : Population) (told deliveries : List Delivery)
    (d : Delivery) :
    population.changesOf told (deliveries ++ [d]) =
      population.changesOf told deliveries ++
        (population.react (told ++ deliveries) d.listener d.event).changes := by
  induction deliveries generalizing told with
  | nil => simp [changesOf]
  | cons first rest ih =>
    rw [List.cons_append, changesOf, ih, changesOf, List.append_assoc, List.append_assoc]
    rfl

namespace Observers

/-- What changes make of a registry depends on nothing but the registry. -/
theorem registered_foldl_change {o o' : Observers} (h : o.registered = o'.registered)
    (changes : List Change) :
    (changes.foldl change o).registered = (changes.foldl change o').registered := by
  induction changes generalizing o o' with
  | nil => exact h
  | cons c rest ih =>
    refine ih ?_
    cases c with
    | register l => exact congrArg (· ++ [l]) h
    | deregister l => exact congrArg (·.erase l) h

/-- Listeners have been called since, and have changed the registry as they do and in no other way. -/
def Hear (population : Population) (o o' : Observers) : Prop :=
  ∃ deliveries, o'.deliveries = o.deliveries ++ deliveries ∧
    o'.registered = ((population.changesOf o.deliveries deliveries).foldl change o).registered

/-- To call one more listener is no more than that. -/
theorem Hear.deliver {population : Population} {o o' : Observers} (h : Hear population o o') (call : Nat)
    (event : Event) (l : Listener) : Hear population o (o'.deliver population call event l) := by
  obtain ⟨deliveries, hdeliveries, hregistered⟩ := h
  refine ⟨deliveries ++ [⟨call, l, event⟩], ?_, ?_⟩
  · rw [deliveries_deliver, hdeliveries, List.append_assoc]
  · rw [Population.changesOf_concat, List.foldl_append, ← hdeliveries]
    -- the delivery is noted before the listener is called, which leaves the registry as it is
    let told : Observers := { o' with deliveries := o'.deliveries ++ [⟨call, l, event⟩] }
    have htold : told.registered =
        ((population.changesOf o.deliveries deliveries).foldl change o).registered := hregistered
    exact registered_foldl_change htold (population.react o'.deliveries l event).changes

theorem change_deregister_of_not_mem {o : Observers} {l : Listener} (h : l ∉ o.registered) :
    o.change (.deregister l) = o := by
  simp only [change, List.erase_of_not_mem h]

end Observers

/-- Runs that go on call listeners, and do nothing else to the observers: whatever the runs do is made of single
steps, and only a change of the registry would be another thing. -/
theorem World.GoesOn.hear {α : Type} {w w' : World α} (h : w.GoesOn w') :
    Observers.Hear w.population w.observers w'.observers := by
  obtain ⟨actions, rfl, hruns⟩ := h
  have hsteps (actions : List (Action α)) (hruns : ∀ a ∈ actions, a.IsOfRuns) (w' : World α)
      (hpopulation : w'.population = w.population)
      (hw' : Observers.Hear w.population w.observers w'.observers) :
      Observers.Hear w.population w.observers (w'.steps actions).observers := by
    induction actions generalizing w' with
    | nil => exact hw'
    | cons a rest ih =>
      -- what runs do is no change of the registry
      have hchange : ∀ c, a ≠ .change c := by
        rintro c rfl
        exact hruns _ List.mem_cons_self
      refine ih (fun a ha => hruns a (by simp [ha])) (w'.step a)
        ((population_step w' a).trans hpopulation) ?_
      refine keeps_step hchange (fun call _ event o l ho => ?_) hw'
      rw [hpopulation]
      exact ho.deliver call event l
  exact hsteps actions hruns w rfl ⟨[], by simp, rfl⟩

namespace Client

variable {c c' begun : Client} {call slot : Nat} {spec : RequestSpec} {p : Progress}

/-- The changes of the registry that are made in a step: the one that it asks for, or those of the listeners
that are called in it, each as it is called. -/
def changesOf (c : Client) : Action → List Change
  | .change change => [change]
  | a =>
    let told := c.failover.observers.deliveries
    c.failover.population.changesOf told ((c.step a).failover.observers.deliveries.drop told.length)

/-- The changes of the registry that are made in some steps, in order. -/
def changesDuring (c : Client) : List Action → List Change
  | [] => []
  | a :: rest => c.changesOf a ++ (c.step a).changesDuring rest

/-- After one step the registry is what its changes make of it: the step asks for one, or listeners make them
while they hear of events. A step that asks for a change tells nobody anything, so that the two do not mix. -/
theorem registered_step (c : Client) (a : Action) :
    (c.step a).failover.observers.registered =
      ((c.changesOf a).foldl Observers.change c.failover.observers).registered := by
  by_cases hchange : ∃ change, a = .change change
  · obtain ⟨change, rfl⟩ := hchange
    rfl
  · have hother : ∀ change, a ≠ .change change := fun change h => hchange ⟨change, h⟩
    obtain ⟨deliveries, hdeliveries, hregistered⟩ := (goesOn_step c hother).hear
    have hchanges : c.changesOf a =
        c.failover.population.changesOf c.failover.observers.deliveries deliveries := by
      cases a with
      | change change => exact absurd rfl (hother change)
      | _ => simp only [changesOf, hdeliveries, List.drop_left]
    rw [hchanges]
    exact hregistered

/-- **The registry is what the changes make of it.** -/
theorem registered_steps (c : Client) (actions : List Action) :
    (c.steps actions).failover.observers.registered =
      ((c.changesDuring actions).foldl Observers.change c.failover.observers).registered := by
  induction actions generalizing c with
  | nil => rfl
  | cons a rest ih =>
    rw [changesDuring, List.foldl_append]
    exact (ih (c.step a)).trans (Observers.registered_foldl_change (registered_step c a) _)

/-! ## A call begins -/

/-- A call begins that is let pass: without progress of its caller, or with progress of which nobody has been
tried. -/
inductive Begins (c : Client) (spec : RequestSpec) : Nat → Progress → Client → Prop
  | alone {begun : Client} (made : c.execute spec = .ok begun) :
      Begins c spec c.failover.progresses.length (.start c.endpoints) begun
  | given {slot : Nat} {p : Progress} {begun : Client} (there : c.failover.progresses[slot]? = some p)
      (accepted : p.accept c.endpoints = .ok ()) (made : c.executeWith spec slot = .ok begun) :
      Begins c spec slot p begun

/-- A call begins with progress that is there, and makes its first request. -/
theorem eq_advance_of_executeWith {p : Progress} (hp : c.failover.progresses[slot]? = some p)
    (h : c.executeWith spec slot = .ok begun) :
    begun = (c.withCall spec slot).advance c.failover.runs.length c.endpoints.length := by
  obtain ⟨hslot, -⟩ := List.getElem?_eq_some_iff.1 hp
  obtain ⟨hnone, -⟩ | ⟨-, hbegun⟩ := executeWith_cases h
  · omega
  · exact hbegun

/-- The run of a call begins among the listeners that are registered, and goes on from there. -/
theorem Begins.exists_starts (h : c.Begins spec slot p begun) :
    ∃ w, World.Starts c.endpoints (.fixed c.failover.observers.registered) c.failover slot p w ∧
      w.GoesOn begun.failover := by
  cases h with
  | alone made =>
    have hfresh : (c.addProgress c.endpoints).failover.progresses[c.failover.progresses.length]? =
        some (.start c.endpoints) := by simp [addProgress, World.addProgress]
    obtain rfl := eq_advance_of_executeWith hfresh (executeWith_of_execute made)
    exact ⟨_, .alone, (advances _ _ _).goesOn⟩
  | given there accepted made =>
    obtain rfl := eq_advance_of_executeWith there made
    exact ⟨_, .given there accepted, (advances _ _ _).goesOn⟩

/-- **From its beginning on a call recounts its events to the listeners that were registered then**,
whatever the client does. -/
theorem Begins.recounts_steps (h : c.Begins spec slot p begun) (hreachable : c.Reachable)
    (hown : c.endpoints ≠ []) (later : List Action) :
    ∃ outcomes, (begun.steps later).failover.Recounts c.failover.runs.length c.endpoints
      (.fixed c.failover.observers.registered) slot c.failover.observers.registered
      ((Standing.onward p : Standing Response).afterAll outcomes)
      ([p.announces] ++ (Standing.onward p : Standing Response).announcesAll outcomes) := by
  -- a call begins as a run does, and makes its first requests by steps of runs
  obtain ⟨w, hstarts, first, hfirst, hruns⟩ := h.exists_starts
  obtain ⟨more, hmore, hspares⟩ := exists_steps begun later
  have hreached (w : World Response) : (Audience.fixed c.failover.observers.registered).Reaches
      w.population c.failover.runs.length c.failover.observers.registered w.observers :=
    Audience.reaches_fixed _ _ _ _
  have hbegun := hstarts.recounts hreachable.failover hown (hreached c.failover)
  have hall : ∀ a ∈ first ++ more, a.Spares slot := fun a ha =>
    (List.mem_append.1 ha).elim (fun hin => (hruns a hin).spares slot) fun hin => hspares a hin slot
  let keeps (_ : World Response) : Prop := True
  -- a fixed audience is reached whatever has become of the registry
  have hkept : keeps w := trivial
  have hsteps := World.Recounts.steps (fun w _ => hreached w) hbegun hkept (fun _ _ _ _ => trivial) hall
  rw [World.steps, List.foldl_append] at hsteps
  refine ⟨World.outcomesFor c.failover.runs.length (first ++ more), ?_⟩
  rw [hmore, hfirst]
  exact hsteps

/-- An open client makes every call. -/
theorem execute_of_open (hopen : c.transport.closed = false) (spec : RequestSpec) :
    c.execute spec = .ok (c.step (.execute spec)) := by
  have hslot : c.failover.progresses.length < (c.addProgress c.endpoints).failover.progresses.length := by
    simp [addProgress, World.addProgress]
  have hopen' : (c.addProgress c.endpoints).transport.closed = false := hopen
  have hexecute := execute_of_begun hopen (@executeWith_of_lt spec _ _ hopen' hslot)
  simp only [step, hexecute, Except.toOption, Option.getD]

/-- A call that is refused is never heard. It has ended before anything was told, and nothing is told in the
name of a call that has ended; the calls of listeners before it was there were all for calls that were. -/
theorem heard_of_refused (hreachable : c.Reachable) {f : Failure}
    (hp : c.failover.progresses[slot]? = some p) (hrefused : p.accept c.endpoints = .error f)
    (h : c.executeWith spec slot = .ok begun) (later : List Action) :
    (begun.steps later).failover.observers.heard c.failover.runs.length = [] := by
  obtain rfl := eq_advance_of_executeWith hp h
  obtain ⟨f', -, hbegun⟩ :=
    World.refuses_of_accept hp hrefused (.fixed c.failover.observers.registered)
  obtain ⟨first, hfirst, -⟩ := (advances c.failover.runs.length c.endpoints.length
    (c.withCall spec slot)).goesOn
  obtain ⟨more, hmore, -⟩ := exists_steps
    ((c.withCall spec slot).advance c.failover.runs.length c.endpoints.length) later
  have hthere : (c.withCall spec slot).failover.runs[c.failover.runs.length]? =
      some ⟨c.endpoints, .fixed c.failover.observers.registered, slot, .ended (.raised f'), []⟩ := by
    show (c.failover.beginWith _ _ slot).runs[_]? = _
    rw [hbegun]
    simp [World.addRun]
  -- nothing has been told for a run that was not there
  have hsilent : (c.withCall spec slot).failover.observers.heard c.failover.runs.length = [] := by
    show (c.failover.beginWith _ _ slot).observers.heard _ = _
    rw [hbegun]
    exact hreachable.failover.heard_of_le (Nat.le_refl _)
  calc _ = ((c.withCall spec slot).failover.steps (first ++ more)).observers.heard _ := by
        rw [hmore, hfirst, World.steps, World.steps, World.steps, List.foldl_append]
    _ = _ := World.heard_steps_of_ended hthere rfl (first ++ more)
    _ = [] := hsilent

/-- **A call is heard by those who are registered when it begins.** Whatever happens meanwhile, whoever
registers or deregisters whom, and whatever its listeners do as they are called: each of its events is
delivered to exactly these registrations, once each and in order, before the call goes on. What it tells are
the events of its attempts as they have ended so far. A call that is refused its progress tells nothing.

The registry itself is what the changes make of it, those of listeners included, so that the next call
begins with all that have been made by then. To deregister a listener that is not registered changes
nothing, and to deregister one that is takes exactly one registration away and leaves the others in their
order. -/
theorem calls_are_heard_as_they_began :
    (∀ (c begun : Client) (spec : RequestSpec) (slot : Nat) (p : Progress) (later : List Action),
      c.Reachable → c.endpoints ≠ [] → c.Begins spec slot p begun →
      let call := c.failover.runs.length
      let listeners := c.failover.observers.registered
      let after := (begun.steps later).failover
      ∃ (outcomes : List (Outcome Response)) (events : List Event),
        let s := (Standing.onward p : Standing Response).afterAll outcomes
        after.runs[call]? = some ⟨c.endpoints, .fixed listeners, slot, s.phase, s.progress.attempted⟩ ∧
        after.progresses[slot]? = some s.progress ∧
        Recital c.endpoints p.errors outcomes events ∧
        after.observers.heard call = events.flatMap (Event.toEach call listeners)) ∧
    (∀ (c begun : Client) (spec : RequestSpec) (slot : Nat) (p : Progress) (f : Failure)
      (later : List Action),
      c.Reachable → c.failover.progresses[slot]? = some p → p.accept c.endpoints = .error f →
      c.executeWith spec slot = .ok begun →
        (begun.steps later).failover.observers.heard c.failover.runs.length = []) ∧
    (∀ (c : Client) (actions : List Action),
      (c.steps actions).failover.observers.registered =
        ((c.changesDuring actions).foldl Observers.change c.failover.observers).registered) ∧
    (∀ (c : Client) (l : Listener),
      (l ∉ c.failover.observers.registered → c.change (.deregister l) = c) ∧
      (l ∈ c.failover.observers.registered → ∃ front back, l ∉ front ∧
        c.failover.observers.registered = front ++ l :: back ∧
        (c.change (.deregister l)).failover.observers.registered = front ++ back)) := by
  refine ⟨?_, ?_, registered_steps, ?_⟩
  · intro c begun spec slot p later hreachable hown hbegins call listeners after
    obtain ⟨outcomes, hrecounts⟩ := hbegins.recounts_steps hreachable hown later
    -- the call began at its first attempt, and so its account begins there
    obtain ⟨w, hstarts, -⟩ := hbegins.exists_starts
    exact ⟨outcomes, _, hrecounts.owns.there, hrecounts.owns.given,
      hstarts.recital hreachable.failover.sound outcomes, hrecounts.heard⟩
  · intro c begun spec slot p f later hreachable hp hrefused hbegun
    exact heard_of_refused hreachable hp hrefused hbegun later
  · intro c l
    refine ⟨fun hout => ?_, fun hin => ?_⟩
    · show { c with failover := { c.failover with observers := c.failover.observers.change _ } } = c
      rw [Observers.change_deregister_of_not_mem hout]
    · obtain ⟨front, back, hfirst, hsplit, herased⟩ := List.exists_erase_eq hin
      exact ⟨front, back, hfirst, hsplit, herased⟩

/-- A client of two members with three registrations. One listener, registered twice, takes a registration
of its own away whenever it is called, registers another listener, and fails. -/
def ofRestless : Client :=
  (fresh .usual ofTwo.settings
    ⟨fun _ l _ => if l = "once" then ⟨[.deregister "once", .register "late"], true⟩ else .quiet, 0⟩).steps
      [.change (.register "once"), .change (.register "log"), .change (.register "once")]

/-- A call is heard by all three registrations, although none of them is left while it is under way. Another
one, with progress over other members, is refused and heard by nobody. -/
theorem calls_are_heard_as_they_began_restless :
    ofRestless.Reachable ∧ ofRestless.endpoints ≠ [] ∧
      ofRestless.Begins (.get "v2/keys/foo") 0 (.start ofRestless.endpoints)
        (ofRestless.step (.execute (.get "v2/keys/foo"))) ∧
      (∃ outcomes events, Recital ofRestless.endpoints [] (outcomes : List (Outcome Response)) events ∧
        ((ofRestless.step (.execute (.get "v2/keys/foo"))).steps
            [.change (.deregister "log")]).failover.observers.heard 0 =
          events.flatMap (Event.toEach 0 ["once", "log", "once"])) ∧
      ((ofRestless.step (.execute (.get "v2/keys/foo"))).steps
          [.change (.deregister "log")]).failover.observers.registered = ["late", "late"] ∧
      ((ofRestless.changesDuring [.execute (.get "v2/keys/foo"), .change (.deregister "log")]).foldl
          Observers.change ofRestless.failover.observers).registered = ["late", "late"] ∧
      (∃ refused, (ofRestless.step (.addProgress [])).executeWith (.get "v2/keys/foo") 0 = .ok refused ∧
        refused.failover.observers.heard 0 = []) ∧
      ofRestless.change (.deregister "nobody") = ofRestless ∧
      ∃ front back : List Listener,
        ofRestless.failover.observers.registered = front ++ ("log" : Text) :: back ∧
          (ofRestless.change (.deregister "log")).failover.observers.registered = front ++ back := by
  obtain ⟨hheard, hrefused, hregistry, hderegister⟩ := calls_are_heard_as_they_began
  have hreachable : ofRestless.Reachable := ⟨_, _, _, _, rfl⟩
  have hbegins := Begins.alone (execute_of_open (c := ofRestless) rfl (.get "v2/keys/foo"))
  obtain ⟨outcomes, events, -, -, hrecital, hfirst⟩ :=
    hheard ofRestless _ _ _ _ [.change (.deregister "log")] hreachable (List.cons_ne_nil _ _) hbegins
  have hregistered : ((ofRestless.step (.execute (.get "v2/keys/foo"))).steps
      [.change (.deregister "log")]).failover.observers.registered = ["late", "late"] := by decide +kernel
  have hchanges := (hregistry ofRestless
    [.execute (.get "v2/keys/foo"), .change (.deregister "log")]).symm.trans hregistered
  -- a call that brings progress over no member
  have hgiven :=
    @executeWith_of_lt (.get "v2/keys/foo") 0 (ofRestless.step (.addProgress [])) rfl Nat.zero_lt_one
  have hsilent := hrefused _ _ _ 0 _ _ [] (hreachable.step (.addProgress [])) rfl rfl hgiven
  obtain ⟨front, back, -, hsplit, hremoved⟩ := (hderegister ofRestless "log").2 (by decide)
  exact ⟨hreachable, List.cons_ne_nil _ _, hbegins, ⟨outcomes, events, hrecital, hfirst⟩, hregistered,
    hchanges, ⟨_, hgiven, hsilent⟩, (hderegister ofRestless "nobody").1 (by decide), front, back, hsplit,
    hremoved⟩

end Client

end ClusterClient
