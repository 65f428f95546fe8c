import ClusterClient.Proofs.Failover.Delivering
import ClusterClient.Proofs.Failover.Following

/-!
# What each registration hears

Among listeners that change no registrations, each registration hears of a call what the call has done, in
order, and each event reaches all registrations before the call goes on. Other calls may be under way at the
same time: what they tell is told in their own name.

## The architecture

* **`World.Recounts`**: a call stands where its attempts have brought it, and its events so far have reached its
  listeners. **`recounts_beginWith`** is how it begins, **`Recounts.step`** one step, by whomever, and
  **`Recounts.steps`** any steps, all of them for whatever audience is reached.
* **`World.Hears`**: the same among listeners that change no registrations (**`hears_steps`**).
* **`registrations_hear_in_order`**: the law. The events are a `Recital`.
-/

namespace ClusterClient

/-- The deliveries in the name of a call. -/
def Observers.heard (call : Nat) (o : Observers) : List Delivery := o.deliveries.filter fun d => d.call = call

/-- What a call tells is told for this call only, so that nothing of it is lost when the deliveries for the call
are picked out. -/
theorem Event.filter_toEach (call : Nat) (listeners : List Listener) (events : List Event) :
    (events.flatMap (Event.toEach call listeners)).filter (fun d => d.call = call) =
      events.flatMap (Event.toEach call listeners) := by
  refine List.filter_eq_self.2 fun d hd => ?_
  obtain ⟨event, -, hdelivery⟩ := List.mem_flatMap.1 hd
  obtain ⟨l, -, rfl⟩ := List.mem_map.1 hdelivery
  exact decide_eq_true rfl

namespace World

variable {α : Type} {w : World α} {call slot : Nat} {own : List Endpoint} {audience : Audience}
  {listeners : List Listener} {s : Standing α} {events : List Event} {p : Progress}

/-- The listeners change no registrations, and there is patience for each of those that are called. -/
structure IsAttentive (w : World α) (audience : Audience) (listeners : List Listener) : Prop where
  still : w.population.IsStill
  hearers : audience.hearers w.observers = listeners
  patience : audience = .live → w.observers.registered.length ≤ w.population.patience

/-- A call stands so, and each of its events so far has reached the listeners in order. -/
structure Recounts (w : World α) (call : Nat) (own : List Endpoint) (audience : Audience) (slot : Nat)
    (listeners : List Listener) (s : Standing α) (events : List Event) : Prop where
  owns : w.Owns call ⟨own, audience, slot, s.phase, s.progress.attempted⟩ s.progress
  heard : w.observers.heard call = events.flatMap (Event.toEach call listeners)

/-- Among listeners that change no registrations, a call stands so, and each of its events so far has reached
them. -/
structure Hears (w : World α) (call : Nat) (own : List Endpoint) (audience : Audience) (slot : Nat)
    (listeners : List Listener) (s : Standing α) (events : List Event) : Prop
    extends w.IsAttentive audience listeners, w.Recounts call own audience slot listeners s events

/-! ## One step -/

/-- Who does not end an attempt of a call tells nothing in its name. A step speaks in the name of one call at
most: that of a run which begins behind those that are there, or that of the attempt that ends. -/
theorem heard_step {a : Action α} (hin : call < w.runs.length) (hforeign : a.outcomeFor? call = none) :
    (w.step a).observers.heard call = w.observers.heard call := by
  by_cases hchange : ∃ c, a = .change c
  · obtain ⟨c, rfl⟩ := hchange
    cases c <;> rfl
  · let keeps (o : Observers) : Prop := o.heard call = w.observers.heard call
    have hkept : keeps w.observers := rfl
    refine keeps_step (fun c hc => hchange ⟨c, hc⟩) (fun speaker hspeaks event o l ho => ?_) hkept
    -- a run that begins stands behind this one, and an attempt that ends is one of another run
    have hother : speaker ≠ call := by
      rintro rfl
      cases a with
      | begin own audience => exact absurd hspeaks (Nat.ne_of_lt hin)
      | beginWith own audience slot => exact absurd hspeaks.1 (Nat.ne_of_lt hin)
      | resume other outcome =>
        obtain ⟨rfl, -⟩ := hspeaks
        simp [Action.outcomeFor?] at hforeign
      | _ => exact hspeaks.elim
    show (o.deliver w.population speaker event l).heard call = _
    rw [Observers.heard, Observers.deliveries_deliver, List.filter_append]
    have hnone : [(⟨speaker, l, event⟩ : Delivery)].filter (fun d => d.call = call) = [] := by simp [hother]
    rw [hnone, List.append_nil]
    exact ho

/-- No call is heard before it begins. -/
theorem Reachable.heard_of_le (h : w.Reachable) (hcall : w.runs.length ≤ call) :
    w.observers.heard call = [] := by
  refine List.filter_eq_nil_iff.2 fun d hd => ?_
  have hlt := h.isSpoken d hd
  simp only [decide_eq_true_eq]
  omega

/-- A call that has reached its listeners with some events has then reached them with more. -/
theorem heard_of_deliveries {o o' : Observers} {more : List Event}
    (hheard : o.heard call = events.flatMap (Event.toEach call listeners))
    (hdeliveries : o'.deliveries = o.deliveries ++ more.flatMap (Event.toEach call listeners)) :
    o'.heard call = (events ++ more).flatMap (Event.toEach call listeners) := by
  rw [Observers.heard, hdeliveries, List.filter_append, Event.filter_toEach, List.flatMap_append]
  exact congrArg (· ++ _) hheard

namespace Recounts

/-- A step of others leaves the call where it stands, and tells nothing in its name. -/
theorem other (h : w.Recounts call own audience slot listeners s events) {a : Action α}
    (hspares : a.Spares slot) (hforeign : a.outcomeFor? call = none) :
    (w.step a).Recounts call own audience slot listeners s events := by
  obtain ⟨hin, -⟩ := List.getElem?_eq_some_iff.1 h.owns.there
  exact ⟨owns_step h.owns a hspares hforeign, (heard_step hin hforeign).trans h.heard⟩

/-- The call goes on: an attempt of it ends, and the listeners hear of that. They are reached by all events up
to the next rest, so that the run is not stuck on the way. -/
theorem resume (h : w.Recounts call own audience slot listeners s events)
    (hreaches : audience.Reaches w.population call listeners w.observers) (outcome : Outcome α) :
    (w.resume call outcome).Recounts call own audience slot listeners (s.take outcome)
      (events ++ s.announces outcome) := by
  obtain ⟨p, phase⟩ := s
  cases phase with
  | attempting attempt e =>
    obtain ⟨o', htold, hdeliveries⟩ := hreaches (Standing.announces ⟨p, .attempting attempt e⟩ outcome)
    have hresume := resume_of_waiting h.owns.there rfl h.owns.given outcome
    rw [Moment.resume_of_tellAll htold] at hresume
    have htried := Standing.attempted_take (s := ⟨p, .attempting attempt e⟩) rfl outcome
    have hused : 0 < (Standing.take ⟨p, .attempting attempt e⟩ outcome).progress.attempts := by
      have hbefore := h.owns.used
      rw [Progress.attempts, htried, List.length_append]
      exact Nat.lt_of_lt_of_le hbefore (Nat.le_add_right _ _)
    rw [hresume]
    refine ⟨?_, heard_of_deliveries h.heard hdeliveries⟩
    rw [htried]
    exact h.owns.toHolds.settle hused
  | ended _ | stuck =>
    -- a call that does not wait takes nothing, and tells nothing
    rw [resume_of_idle h.owns.there fun attempt e hphase => by cases hphase]
    exact ⟨h.owns, by rw [h.heard]; simp [Standing.announces]⟩

/-- **One step**, by whomever. Either it ends the attempt of the call, and what the call then tells is what it
announces; or it is about something else, and adds nothing to what the listeners have heard of the call. -/
theorem step (h : w.Recounts call own audience slot listeners s events)
    (hreaches : audience.Reaches w.population call listeners w.observers) {a : Action α}
    (hspares : a.Spares slot) :
    (w.step a).Recounts call own audience slot listeners (s.afterAll (a.outcomeFor? call).toList)
      (events ++ s.announcesAll (a.outcomeFor? call).toList) := by
  cases houtcome : a.outcomeFor? call with
  | none =>
    have hother := h.other hspares houtcome
    rwa [Option.toList_none, Standing.announcesAll, List.append_nil]
  | some outcome =>
    obtain rfl := Action.eq_resume houtcome
    have hresumed := h.resume hreaches outcome
    rw [Option.toList_some, Standing.announcesAll, Standing.announcesAll, List.append_nil]
    exact hresumed

/-- **Any steps**, as long as the audience is reached. The induction is on the steps, with what they keep of the
world, which is what lets the audience be reached again. -/
theorem steps {keeps : World α → Prop}
    (hreaches : ∀ w, keeps w → audience.Reaches w.population call listeners w.observers)
    (h : w.Recounts call own audience slot listeners s events) (hw : keeps w) {later : List (Action α)}
    (hkeeps : ∀ a ∈ later, ∀ w, keeps w → keeps (w.step a)) (hspares : ∀ a ∈ later, a.Spares slot) :
    (w.steps later).Recounts call own audience slot listeners (s.afterAll (outcomesFor call later))
      (events ++ s.announcesAll (outcomesFor call later)) := by
  induction later generalizing w s events with
  | nil =>
    show w.Recounts call own audience slot listeners s (events ++ [])
    rwa [List.append_nil]
  | cons a rest ih =>
    have hfirst := h.step (hreaches w hw) (hspares a (by simp))
    have hrest := ih hfirst (hkeeps a (by simp) w hw) (fun a ha => hkeeps a (by simp [ha]))
      fun a ha => hspares a (by simp [ha])
    rwa [outcomesFor_cons, Standing.announcesAll_append, ← List.append_assoc, Standing.afterAll,
      List.foldl_append]

end Recounts

/-! ## Attentive listeners -/

/-- While nobody changes the registry, listeners stay as attentive as they are: they make no changes of their
own, so that the steps in between leave the registrations alone. -/
theorem IsAttentive.step (h : w.IsAttentive audience listeners) {a : Action α}
    (hchange : ∀ c, a ≠ .change c) : (w.step a).IsAttentive audience listeners := by
  let keeps (o : Observers) : Prop := o.registered = w.observers.registered
  have hkept : keeps w.observers := rfl
  have hregistered : (w.step a).observers.registered = w.observers.registered := by
    refine keeps_step hchange (fun call _ event o l ho => ?_) hkept
    exact (h.still.registered_deliver call event o l).trans ho
  have hpopulation := population_step w a
  refine ⟨by rw [hpopulation]; exact h.still, ?_, fun hlive => ?_⟩
  · rw [← h.hearers]
    cases audience with
    | live => exact hregistered
    | fixed listeners => rfl
  · rw [hregistered, hpopulation]
    exact h.patience hlive

/-- A call with attentive listeners reaches them, whether they were fixed as it began or are asked each time. -/
theorem IsAttentive.reaches (h : w.IsAttentive audience listeners) (call : Nat) :
    audience.Reaches w.population call listeners w.observers := by
  rw [← h.hearers]
  exact h.still.reaches call h.patience

/-- **Any steps** of which none changes the registry. -/
theorem hears_steps (h : w.Hears call own audience slot listeners s events) {later : List (Action α)}
    (hspares : ∀ a ∈ later, a.Spares slot) (hchange : ∀ a ∈ later, ∀ c, a ≠ .change c) :
    (w.steps later).Hears call own audience slot listeners (s.afterAll (outcomesFor call later))
      (events ++ s.announcesAll (outcomesFor call later)) := by
  have hkeeps : ∀ a ∈ later, ∀ w : World α, w.IsAttentive audience listeners →
      (w.step a).IsAttentive audience listeners := fun a ha w hw => hw.step (hchange a ha)
  refine ⟨?_, Recounts.steps (fun w hw => hw.reaches call) h.toRecounts h.toIsAttentive hkeeps hspares⟩
  have hw := h.toIsAttentive
  clear h hspares hchange
  induction later generalizing w with
  | nil => exact hw
  | cons a rest ih => exact ih (fun a ha => hkeeps a (by simp [ha])) (hkeeps a (by simp) w hw)

/-! ## A run begins -/

/-- A call that is let pass is at its first attempt, and its listeners have heard so. The run is at the end of
the list, so that nothing was told in its name before. -/
theorem recounts_beginWith (hreachable : w.Reachable) (hown : own ≠ []) (hp : w.progresses[slot]? = some p)
    (haccept : p.accept own = .ok ())
    (hreaches : audience.Reaches w.population w.runs.length listeners w.observers) :
    (w.beginWith own audience slot).Recounts w.runs.length own audience slot listeners (.onward p)
      [p.announces] := by
  let run : Run α := ⟨own, audience, slot, .stuck, []⟩
  have hthere : (w.addRun run).runs[w.runs.length]? = some run := by simp [addRun]
  obtain ⟨o', htold, hdeliveries⟩ := hreaches [p.announces]
  have hbegun : w.beginWith own audience slot = (w.addRun run).settle w.runs.length run
      ⟨(Standing.onward p : Standing α).progress, o', (Standing.onward p : Standing α).phase⟩ := by
    rw [beginWith_of_some hp, Moment.begin_of_accept haccept htold]
  -- the call is not stuck, as all listeners have been called
  have hfollows := follows_beginWith hreachable.sound hown hp haccept audience
  rw [← onward_of_accept hreachable.sound hown hp haccept] at hfollows
  have hgoing : ¬ (w.beginWith own audience slot).IsStuck w.runs.length := by
    rintro ⟨run', hrun', hstuck⟩
    rw [hbegun, runs_settle hthere] at hrun'
    obtain rfl := Option.some.inj hrun'
    have hcomes := Standing.comesOf_afterAll own p.errors ([] : List (Outcome α))
    rw [Standing.afterAll, List.foldl_nil, ← onward_of_accept hreachable.sound hown hp haccept] at hcomes
    exact hcomes.phase_ne_stuck hstuck
  refine ⟨hfollows.owns fun _ => hgoing, ?_⟩
  -- and nobody has spoken in its name before
  have hbefore : w.observers.heard w.runs.length =
      ([] : List Event).flatMap (Event.toEach w.runs.length listeners) :=
    hreachable.heard_of_le (Nat.le_refl _)
  rw [hbegun]
  exact heard_of_deliveries hbefore hdeliveries

/-- A run begins that is let pass: without progress of its caller, or with progress of which nobody has been
tried. -/
inductive Starts (own : List Endpoint) (audience : Audience) (w : World α) :
    Nat → Progress → World α → Prop
  | alone : Starts own audience w w.progresses.length (.start own) (w.begin own audience)
  | given {slot : Nat} {p : Progress} (there : w.progresses[slot]? = some p)
      (accepted : p.accept own = .ok ()) : Starts own audience w slot p (w.beginWith own audience slot)

/-- **A call that begins** has announced its first member, and has told each listener so. It stands where its
progress lets it begin. -/
theorem Starts.recounts {begun : World α} (h : Starts own audience w slot p begun) (hreachable : w.Reachable)
    (hown : own ≠ []) (hreaches : audience.Reaches w.population w.runs.length listeners w.observers) :
    begun.Recounts w.runs.length own audience slot listeners (.onward p) [p.announces] := by
  cases h with
  | alone =>
    have hfresh : (w.addProgress own).progresses[w.progresses.length]? = some (.start own) := by
      simp [addProgress]
    have hadded : (w.addProgress own).Reachable := by
      obtain ⟨population, history, rfl⟩ := hreachable
      exact ⟨population, history ++ [.addProgress own], by simp [World.steps, World.step]⟩
    exact recounts_beginWith hadded hown hfresh (Progress.accept_eq_ok_iff.2 ⟨rfl, rfl⟩) hreaches
  | given there accepted => exact recounts_beginWith hreachable hown there accepted hreaches

/-- The same among attentive listeners, who stay so: beginning a call changes no registration. -/
theorem Starts.hears {begun : World α} (h : Starts own audience w slot p begun) (hreachable : w.Reachable)
    (hown : own ≠ []) (hattentive : w.IsAttentive audience listeners) :
    begun.Hears w.runs.length own audience slot listeners (.onward p) [p.announces] := by
  refine ⟨?_, h.recounts hreachable hown (hattentive.reaches w.runs.length)⟩
  cases h with
  | alone => exact hattentive.step (a := .begin own audience) fun c hc => by cases hc
  | given there accepted => exact hattentive.step (a := .beginWith own audience slot) fun c hc => by cases hc

/-- Progress that a call is let pass with is before its first member, and recalls its failures. -/
theorem eq_beforeNext_of_accept (hsound : w.Sound) (hp : w.progresses[slot]? = some p)
    (haccept : p.accept own = .ok ()) :
    p = (Progress.beforeNext own [] p.inFlight).recalling p.errors := by
  obtain ⟨hunused, hmembers⟩ := Progress.accept_eq_ok_iff.1 haccept
  have hattempted : p.attempted = [] := List.length_eq_zero_iff.1 hunused
  have hwhole := hsound.whole slot p hp
  rw [hattempted, List.nil_append, hmembers] at hwhole
  obtain ⟨endpoints, remaining, attempted, inFlight, errors⟩ := p
  simp_all [Progress.beforeNext, Progress.recalling]

/-- What a run tells from its beginning on. -/
theorem Starts.recital {begun : World α} (h : Starts own audience w slot p begun) (hsound : w.Sound)
    (outcomes : List (Outcome α)) :
    Recital own p.errors outcomes
      ([p.announces] ++ (Standing.onward p : Standing α).announcesAll outcomes) := by
  have hfresh : p = (Progress.beforeNext own [] p.inFlight).recalling p.errors := by
    cases h with
    | alone => rfl
    | given there accepted => exact eq_beforeNext_of_accept hsound there accepted
  have hspeak : ∀ f ∈ ([] : List Failure), f.Speaks := nofun
  have hnone : ([] : List Failure).length ≤ own.length := Nat.zero_le _
  have hrecital := Standing.recital_announcesAll p.errors p.inFlight hspeak hnone outcomes
  rw [← hfresh] at hrecital
  exact hrecital

/-- **Each registration hears what a call does**, in order, and all of them hear an event in the order in which
they are registered before the call goes on. Listeners may be registered repeatedly and may fail, but they
change no registrations; other calls may be under way at the same time. Each failed attempt has started and
has failed, at its position, against its member and with its failure. After the failed ones, one more attempt
has started; it may have succeeded, and then it is told how many failures there are; or it has been cancelled, or has
failed with what cannot be shown, and nothing more is told. When all members have failed, so much is told once, with
all failures. Failures that the progress of the call recalls from before count as well. -/
theorem registrations_hear_in_order (hreachable : w.Reachable) (hown : own ≠ []) {begun : World α}
    (hstarts : Starts own audience w slot p begun) (hattentive : w.IsAttentive audience listeners)
    {later : List (Action α)} (hspares : ∀ a ∈ later, a.Spares slot)
    (hchange : ∀ a ∈ later, ∀ c, a ≠ .change c) :
    ∃ events, Recital own p.errors (outcomesFor w.runs.length later) events ∧
      (begun.steps later).observers.heard w.runs.length =
        events.flatMap (Event.toEach w.runs.length listeners) := by
  have hhears := hears_steps (hstarts.hears hreachable hown hattentive) hspares hchange
  exact ⟨_, hstarts.recital hreachable.sound (outcomesFor w.runs.length later), hhears.heard⟩

/-- Two listeners, of which one is registered twice and the other one fails. The first member fails, another
call comes in between, and the second member gives the value. -/
theorem registrations_hear_in_order_twice :
    let population : Population := ⟨fun _ l _ => ⟨[], l = "bell"⟩, 3⟩
    let members : List Endpoint := [⟨"http://etcd1:2379"⟩, ⟨"http://etcd2:2379"⟩]
    let w : World Nat :=
      (World.quiet population).steps [.change (.register "log"), .change (.register "bell"),
        .change (.register "log")]
    let later : List (Action Nat) :=
      [.resume 0 (.raised .clientClosed), .begin members .live, .resume 0 (.returned 7)]
    w.Reachable ∧ members ≠ [] ∧ Starts members .live w 0 (.start members) (w.begin members .live) ∧
      w.IsAttentive .live ["log", "bell", "log"] ∧ (∀ a ∈ later, a.Spares 0) ∧
      (∀ a ∈ later, ∀ c, a ≠ .change c) ∧
      ∃ events, Recital members [] (outcomesFor 0 later) events ∧
        ((w.begin members .live).steps later).observers.heard 0 =
          events.flatMap (Event.toEach 0 ["log", "bell", "log"]) := by
  intro population members w later
  have hreachable : w.Reachable := ⟨population, _, rfl⟩
  have hstarts : Starts members .live w 0 (.start members) (w.begin members .live) := .alone
  -- one of the three registrations raises whenever it is called, which stops nobody
  have hattentive : w.IsAttentive .live ["log", "bell", "log"] :=
    ⟨fun _ _ _ => rfl, rfl, fun _ => Nat.le_refl 3⟩
  have hspares : ∀ a ∈ later, a.Spares 0 := by simp [later, Action.Spares]
  have hchange : ∀ a ∈ later, ∀ c, a ≠ .change c := by simp [later]
  exact ⟨hreachable, List.cons_ne_nil _ _, hstarts, hattentive, hspares, hchange,
    registrations_hear_in_order hreachable (List.cons_ne_nil _ _) hstarts hattentive hspares hchange⟩

/-- A failure that has been recorded before a call begins is told as one of its own: the first member gives the
value, and yet one failure is said to have come before. -/
theorem recalled_failure_is_told :
    ¬ ∀ (w begun : World Nat) (own : List Endpoint) (slot : Nat) (p : Progress) (listeners : List Listener)
      (later : List (Action Nat)), w.Reachable → own ≠ [] → Starts own .live w slot p begun →
      w.IsAttentive .live listeners → (∀ a ∈ later, a.Spares slot) → (∀ a ∈ later, ∀ c, a ≠ .change c) →
      ∃ events, Recital own [] (outcomesFor w.runs.length later) events ∧
        (begun.steps later).observers.heard w.runs.length =
          events.flatMap (Event.toEach w.runs.length listeners) := by
  intro hownFailuresAlone
  let members : List Endpoint := [⟨"http://member0:2379"⟩]
  let early : Progress.Move := .fail (.closed "refused")
  let history : List (Action Nat) :=
    [.change (.register "a"), .addProgress members, .moveProgress 0 early]
  let w : World Nat := (World.quiet ⟨fun _ _ _ => .quiet, 1⟩).steps history
  have hstarts : Starts members .live w 0 (.after members [early]) (w.beginWith members .live 0) :=
    .given rfl (Progress.accept_eq_ok_iff.2 ⟨rfl, rfl⟩)
  have hattentive : w.IsAttentive .live ["a"] := ⟨fun _ _ _ => rfl, rfl, fun _ => Nat.le_refl 1⟩
  obtain ⟨events, hrecital, hheard⟩ :=
    hownFailuresAlone w _ members 0 _ ["a"] [.resume 0 (.returned 1)] ⟨_, history, rfl⟩
      (List.cons_ne_nil _ _) hstarts hattentive (by simp [Action.Spares]) (by simp)
  -- of a member that gives the value at once, only its start and its success may be told
  have hevents {outcomes : List (Outcome Nat)} (h : Recital members [] outcomes events)
      (houtcomes : outcomes = [.returned 1]) :
      events = [⟨.start, 0, members[0]?⟩, ⟨.success 0, 0, members[0]?⟩] := by
    cases h with
    | waiting errors hspeaks hleft => cases errors <;> cases houtcomes
    | returned errors value rest hspeaks hleft =>
      cases errors with
      | nil => rfl
      | cons f errors => cases houtcomes
    | cancelled errors rest hspeaks hleft => cases errors <;> cases houtcomes
    | mute errors rest hspeaks hwhy hleft => cases errors <;> cases houtcomes
    | exhausted errors rest hspeaks hall =>
      cases errors with
      | nil => cases hall
      | cons f errors => cases houtcomes
  rw [hevents hrecital rfl] at hheard
  cases hheard

end World

end ClusterClient
