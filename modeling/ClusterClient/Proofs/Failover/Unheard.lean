import ClusterClient.Proofs.Failover.Announcing
import ClusterClient.Proofs.Failover.Emission

/-!
# Nobody who listens makes a difference

Listeners may fail, leave and register others while a run tells them its events. As long as no kind of event
leads back to where it came from, every event ends, and the runs go as they would if nobody listened.

## The architecture

* **`World.hush`**: the same world without anybody who listens; **`World.Action.hush`** the same step.
* **`IsTiered.exists_tellAll`**: the events of one step end.
* **`exists_settle`**: a run comes to its next rest, with listeners and without them. Everything that a step
  does goes through it, so that **`exists_step`** is one case for each kind of step.
* **`listeners_make_no_difference`**: the law, from the induction on the steps **`exists_steps`**.
-/

namespace ClusterClient

/-- Nobody listens. -/
def Audience.hush : Audience → Audience
  | live => live
  | fixed _ => fixed []

/-- The events of a step end, one after the other. -/
theorem Population.IsTiered.exists_tellAll {population : Population} {members : List Listener}
    (h : population.IsTiered members) (call : Nat) (events : List Event) {audience : Audience}
    (haudience : audience.Within members) {o : Observers} (ho : o.Within members) :
    ∃ enough o', o'.Within members ∧ ∀ patience, enough ≤ patience →
      audience.tellAll (population.patient patience) call events o = some o' := by
  induction events generalizing o with
  | nil => exact ⟨0, o, ho, fun patience _ => rfl⟩
  | cons event rest ih =>
    obtain ⟨first, o₁, ho₁, -, hemit⟩ := h.exists_emit call event haudience ho
    obtain ⟨others, o₂, ho₂, hrest⟩ := ih ho₁
    refine ⟨max first others, o₂, ho₂, fun patience hpatience => ?_⟩
    exact Audience.tellAll_cons (hemit patience (by omega)) (hrest patience (by omega))

namespace World

variable {α : Type} {w : World α} {members : List Listener}

/-- The same world, in which an event has this much patience. -/
def patient (patience : Nat) (w : World α) : World α :=
  { w with population := w.population.patient patience }

/-- The same world without anybody who listens. -/
def hush (w : World α) : World α where
  population := ⟨fun _ _ _ => .quiet, 0⟩
  observers := .nobody
  progresses := w.progresses
  runs := w.runs.map fun run => { run with audience := run.audience.hush }

/-- The same step when nobody listens. -/
def Action.hush : Action α → Option (Action α)
  | .begin own audience => some (.begin own audience.hush)
  | .beginWith own audience slot => some (.beginWith own audience.hush slot)
  | .change _ => none
  | a => some a

/-- All who listen are members. -/
structure Within (members : List Listener) (w : World α) : Prop where
  observers : w.observers.Within members
  audiences : ∀ run ∈ w.runs, run.audience.Within members

/-- A step brings in no listeners but members. -/
def Action.Within (members : List Listener) : Action α → Prop
  | .begin _ audience | .beginWith _ audience _ => audience.Within members
  | .change (.register l) => l ∈ members
  | _ => True

/-! ## Without listeners -/

/-- Where nobody listens, telling goes through whatever is told, and leaves nobody listening. -/
theorem tellAll_hush (w : World α) (call : Nat) (events : List Event) (audience : Audience) :
    audience.hush.tellAll w.hush.population call events w.hush.observers = some w.hush.observers := by
  induction events with
  | nil => rfl
  | cons event rest ih =>
    have hfirst : audience.hush.emit w.hush.population call event w.hush.observers =
        some w.hush.observers := by
      cases audience <;> rfl
    exact Audience.tellAll_cons hfirst ih

theorem hush_addRun (run : Run α) (w : World α) :
    (w.addRun run).hush = w.hush.addRun { run with audience := run.audience.hush } := by
  simp [addRun, hush]

/-- Coming to a rest and hushing may be done in either order: a rest writes a phase, whom the run has tried and
progress, and these are what hushing leaves. -/
theorem hush_settle (call : Nat) (run : Run α) (m : Moment α) (w : World α) :
    (w.settle call run m).hush =
      w.hush.settle call { run with audience := run.audience.hush } { m with observers := .nobody } := by
  simp [settle, hush, List.map_set]

/-- **Hushing is not seen from outside**: what a call waits for, how it has ended and whom it has tried are the
same. -/
theorem shown_hush (w : World α) (call : Nat) :
    w.hush.awaited? call = w.awaited? call ∧ w.hush.outcome? call = w.outcome? call ∧
      w.hush.invoked call = w.invoked call := by
  have hrun : w.hush.runs[call]? =
      (w.runs[call]?).map fun run => { run with audience := run.audience.hush } := List.getElem?_map
  unfold awaited? outcome? invoked
  rw [hrun]
  cases w.runs[call]? <;> exact ⟨rfl, rfl, rfl⟩

/-! ## One step, with listeners and without them -/

/-- With patience enough, what is done in a world leads to one in which still only members listen; and without
listeners that is the other world. -/
def Agrees (members : List Listener) (w : World α) (act : World α → World α) (hushed : World α) : Prop :=
  ∃ (enough : Nat) (w' : World α), w'.population = w.population ∧ w'.Within members ∧ w'.hush = hushed ∧
    ∀ patience, enough ≤ patience → act (w.patient patience) = w'.patient patience

theorem agrees_of_eq (w' : World α) {hushed : World α} {act : World α → World α}
    (hpopulation : w'.population = w.population) (hwithin : w'.Within members) (hhush : w'.hush = hushed)
    (hact : ∀ patience, act (w.patient patience) = w'.patient patience) : w.Agrees members act hushed :=
  ⟨0, w', hpopulation, hwithin, hhush, fun patience _ => hact patience⟩

/-- A run comes to its next rest. What it does on the way is given by the events that it tells: where they end,
it comes to a standing in which nobody who listens occurs. -/
theorem agrees_settle (h : w.population.IsTiered members) (hw : w.Within members) {call : Nat} {run : Run α}
    (hrun : run.audience.Within members) {events : List Event} {s : Standing α}
    {moment : Population → Audience → Observers → Moment α}
    (hmoment : ∀ population audience o o', audience.tellAll population call events o = some o' →
      moment population audience o = ⟨s.progress, o', s.phase⟩) :
    w.Agrees members (fun w => w.settle call run (moment w.population run.audience w.observers))
      (w.hush.settle call { run with audience := run.audience.hush }
        (moment w.hush.population run.audience.hush w.hush.observers)) := by
  obtain ⟨enough, o', ho', htold⟩ := h.exists_tellAll call events hrun hw.observers
  refine ⟨enough, w.settle call run ⟨s.progress, o', s.phase⟩, rfl, ⟨ho', ?_⟩, ?_, ?_⟩
  · intro run' hrun'
    rcases List.mem_or_eq_of_mem_set hrun' with hold | rfl
    · exact hw.audiences run' hold
    · exact hrun
  · rw [hush_settle, hmoment _ _ _ _ (tellAll_hush w call events run.audience)]
    rfl
  · intro patience hpatience
    show (w.patient patience).settle call run
      (moment (w.population.patient patience) run.audience w.observers) = _
    rw [hmoment _ _ _ _ (htold patience hpatience)]
    rfl

/-- A run begins. If there is progress for it, it tells one event or none before its first rest, and patience
for the listeners of that event is enough; without progress nothing happens in either world. -/
theorem agrees_beginWith (h : w.population.IsTiered members) (hw : w.Within members)
    (own : List Endpoint) {audience : Audience} (haudience : audience.Within members) (slot : Nat) :
    w.Agrees members (fun w => w.beginWith own audience slot)
      (w.hush.beginWith own audience.hush slot) := by
  cases hp : w.progresses[slot]? with
  | none =>
    have hnone (w' : World α) (audience : Audience) (hsame : w'.progresses = w.progresses) :
        w'.beginWith own audience slot = w' := by
      rw [beginWith, hsame, hp]
    exact agrees_of_eq w rfl hw (hnone w.hush _ rfl).symm fun patience => hnone (w.patient patience) _ rfl
  | some p =>
    let run : Run α := ⟨own, audience, slot, .stuck, []⟩
    have hadded : (w.addRun run).Within members := by
      refine ⟨hw.observers, fun run' hrun' => ?_⟩
      rcases List.mem_append.1 hrun' with hold | hnew
      · exact hw.audiences run' hold
      · rw [List.mem_singleton.1 hnew]
        exact haudience
    -- a run that is let pass goes on, and one that is refused tells nothing
    obtain ⟨events, s, hmoment⟩ : ∃ (events : List Event) (s : Standing α),
        ∀ population audience o o', audience.tellAll population w.runs.length events o = some o' →
          Moment.begin population audience w.runs.length own p o = ⟨s.progress, o', s.phase⟩ := by
      cases haccept : p.accept own with
      | ok u => exact ⟨[p.announces], .onward p, fun _ _ _ _ htold => Moment.begin_of_accept haccept htold⟩
      | error f =>
        refine ⟨[], ⟨p, .ended (.raised f)⟩, fun _ _ o o' htold => ?_⟩
        cases htold
        rw [Moment.begin, haccept]
    have haudience' : run.audience.Within members := haudience
    obtain ⟨enough, w', hpopulation, hwithin, hhush, hact⟩ :=
      agrees_settle (w := w.addRun run) h hadded haudience' hmoment
    refine ⟨enough, w', hpopulation, hwithin, ?_, fun patience hpatience => ?_⟩
    · have hp' : w.hush.progresses[slot]? = some p := hp
      have hruns : w.hush.runs.length = w.runs.length := List.length_map _
      rw [hhush, hush_addRun, beginWith_of_some hp', hruns]
      rfl
    · have hp' : (w.patient patience).progresses[slot]? = some p := hp
      show (w.patient patience).beginWith own audience slot = _
      rw [beginWith_of_some hp', ← hact patience hpatience]
      rfl

/-- An attempt ends. The events that the run tells up to its next rest are determined by where it stands and by
the outcome alone, so that the hushed world takes the same step. A run that does not wait for an attempt takes
nothing in either world. -/
theorem agrees_resume (h : w.population.IsTiered members) (hw : w.Within members) (call : Nat)
    (outcome : Outcome α) :
    w.Agrees members (fun w => w.resume call outcome) (w.hush.resume call outcome) := by
  have hhushed : w.hush.runs[call]? =
      (w.runs[call]?).map fun run => { run with audience := run.audience.hush } := List.getElem?_map
  -- a run that waits has progress, and its attempt may end; nothing can happen to any other
  by_cases hwaits : ∃ run attempt e p, w.runs[call]? = some run ∧ run.phase = .attempting attempt e ∧
      w.progresses[run.progress]? = some p
  · obtain ⟨run, attempt, e, p, hrun, hphase, hp⟩ := hwaits
    rw [hrun] at hhushed
    have hmoment (population : Population) (audience : Audience) (o o' : Observers)
        (htold : audience.tellAll population call (Standing.announces ⟨p, .attempting attempt e⟩ outcome) o =
          some o') :=
      Moment.resume_of_tellAll htold
    have haudience : run.audience.Within members := hw.audiences run (List.mem_of_getElem? hrun)
    obtain ⟨enough, w', hpopulation, hwithin, hhush, hact⟩ := agrees_settle h hw haudience hmoment
    refine ⟨enough, w', hpopulation, hwithin, ?_, fun patience hpatience => ?_⟩
    · rw [hhush, resume_of_waiting hhushed hphase hp]
    · have hrun' : (w.patient patience).runs[call]? = some run := hrun
      rw [← hact patience hpatience]
      exact resume_of_waiting hrun' hphase hp outcome
  · -- who does not wait, does not wait without listeners either
    refine agrees_of_eq w rfl hw ?_ fun patience => ?_
    · refine (resume_of_not_waiting outcome fun run attempt e p hrun hphase hp => ?_).symm
      rw [hhushed] at hrun
      obtain ⟨heard, hheard, rfl⟩ := Option.map_eq_some_iff.1 hrun
      exact hwaits ⟨heard, attempt, e, p, hheard, hphase, hp⟩
    · exact resume_of_not_waiting outcome fun run attempt e p hrun hphase hp =>
        hwaits ⟨run, attempt, e, p, hrun, hphase, hp⟩

/-- **One step.** Runs that begin or go on are the two cases in which something is told. A change of the
registry has no counterpart in the hushed world, and the rest is the same step there. -/
theorem agrees_step (h : w.population.IsTiered members) (hw : w.Within members) {a : Action α}
    (ha : a.Within members) :
    w.Agrees members (fun w => w.step a) (w.hush.steps a.hush.toList) := by
  cases a with
  | begin own audience =>
    have hadded : (w.addProgress own).Within members := ⟨hw.observers, hw.audiences⟩
    exact agrees_beginWith (w := w.addProgress own) h hadded own ha w.progresses.length
  | beginWith own audience slot => exact agrees_beginWith h hw own ha slot
  | resume call outcome => exact agrees_resume h hw call outcome
  -- the registry stays among the members, as whoever registers is one of them
  | change c =>
    have hchanged : (w.change c).Within members := by
      refine ⟨fun l hl => ?_, hw.audiences⟩
      cases c with
      | register other =>
        rcases List.mem_append.1 hl with hold | hnew
        · exact hw.observers l hold
        · rw [List.mem_singleton.1 hnew]
          exact ha
      | deregister other => exact hw.observers l (List.mem_of_mem_erase hl)
    exact agrees_of_eq (w.change c) rfl hchanged rfl fun patience => rfl
  | addProgress endpoints =>
    have hadded : (w.addProgress endpoints).Within members := ⟨hw.observers, hw.audiences⟩
    exact agrees_of_eq (w.addProgress endpoints) rfl hadded rfl fun patience => rfl
  | moveProgress slot m =>
    have hmoved : (w.moveProgress slot m).Within members := ⟨hw.observers, hw.audiences⟩
    exact agrees_of_eq (w.moveProgress slot m) rfl hmoved rfl fun patience => rfl

/-- **Any steps agree with the same steps unheard.** The induction is on the steps, and the patience is the most
that one of them takes. Steps that change the registry have no counterpart where nobody listens, and are left
out there. -/
theorem agrees_steps (h : w.population.IsTiered members) (hw : w.Within members)
    {later : List (Action α)} (hlater : ∀ a ∈ later, a.Within members) :
    w.Agrees members (fun w => w.steps later) (w.hush.steps (later.filterMap Action.hush)) := by
  -- induction on the steps; the patience is the most that one of them takes
  induction later generalizing w with
  | nil => exact agrees_of_eq w rfl hw rfl fun patience => rfl
  | cons a rest ih =>
    obtain ⟨first, w₁, hpopulation₁, hwithin₁, hhush₁, hact₁⟩ :=
      agrees_step h hw (hlater a List.mem_cons_self)
    rw [← hpopulation₁] at h
    obtain ⟨others, w₂, hpopulation₂, hwithin₂, hhush₂, hact₂⟩ :=
      ih h hwithin₁ fun a ha => hlater a (List.mem_cons_of_mem _ ha)
    refine ⟨max first others, w₂, hpopulation₂.trans hpopulation₁, hwithin₂, ?_,
      fun patience hpatience => ?_⟩
    · rw [hhush₂, hhush₁]
      cases hhush : a.hush with
      | none => rw [List.filterMap_cons_none hhush]; rfl
      | some b => rw [List.filterMap_cons_some hhush]; rfl
    · have hfirst : (w.patient patience).step a = w₁.patient patience := hact₁ patience (by omega)
      show ((w.patient patience).step a).steps rest = _
      rw [hfirst]
      exact hact₂ patience (by omega)

/-- **Nobody who listens makes a difference.** The listeners are finitely many, and each may fail, leave, or
register others; but no kind of event leads from a listener back to itself. Then every event ends after
finitely many calls. And whatever runs are under way side by side, and however their attempts end, with patience
enough they try the same members, end in the same way and leave the same progress as they do when nobody
listens. -/
theorem listeners_make_no_difference (h : w.population.IsTiered members) (hw : w.Within members)
    {later : List (Action α)} (hlater : ∀ a ∈ later, a.Within members) :
    (∀ (call : Nat) (event : Event) (audience : Audience) (o : Observers), audience.Within members →
      o.Within members → ∃ enough o', o'.deliveries.length ≤ o.deliveries.length + enough ∧
        ∀ patience, enough ≤ patience →
          audience.emit (w.population.patient patience) call event o = some o') ∧
    ∃ enough, ∀ patience, enough ≤ patience →
      let heard := (w.patient patience).steps later
      let unheard := w.hush.steps (later.filterMap Action.hush)
      heard.progresses = unheard.progresses ∧ ∀ call,
        heard.awaited? call = unheard.awaited? call ∧ heard.outcome? call = unheard.outcome? call ∧
          heard.invoked call = unheard.invoked call := by
  refine ⟨fun call event audience o haudience ho => ?_, ?_⟩
  · obtain ⟨enough, o', -, hcalls, hemit⟩ := h.exists_emit call event haudience ho
    exact ⟨enough, o', hcalls, hemit⟩
  · obtain ⟨enough, w', -, -, hhush, hact⟩ := agrees_steps h hw hlater
    refine ⟨enough, fun patience hpatience => ?_⟩
    intro heard unheard
    have hheard : heard = w'.patient patience := hact patience hpatience
    have hunheard : unheard = w'.hush := hhush.symm
    rw [hheard, hunheard]
    refine ⟨rfl, fun call => ?_⟩
    obtain ⟨hawaited, houtcome, hinvoked⟩ := shown_hush w' call
    exact ⟨hawaited.symm, houtcome.symm, hinvoked.symm⟩

/-- A listener that fails, leaves and puts another one in its place whenever an attempt starts. -/
def replaced : Population where
  react _ l event :=
    if l = "first" ∧ event.kind.name = "attempt:start" then ⟨[.register "second", .deregister "first"], true⟩
    else .quiet
  patience := 0

/-- The first listener registers the second and the second registers nobody, so that no way leads from a
listener back to itself. -/
theorem isTiered_replaced : replaced.IsTiered ["first", "second"] := by
  have hregisters {kind : Text} {l other : Listener} (h : replaced.Registers kind l other) :
      l = "first" ∧ other = "second" := by
    obtain ⟨told, event, -, hchange⟩ := h
    simp only [replaced] at hchange
    split at hchange
    · next hfirst =>
      rcases List.mem_cons.1 hchange with hsecond | hleave
      · cases hsecond
        exact ⟨hfirst.1, rfl⟩
      · cases List.mem_singleton.1 hleave
    · cases hchange
  -- the second listener is a member, and there is no way back
  refine ⟨fun kind l _ other h => ?_, fun kind l _ hcycle => ?_⟩
  · rw [(hregisters h).2]
    decide
  · -- a way back would begin with the first listener and end with the second
    obtain ⟨next, hhead, -⟩ := Relation.TransGen.head'_iff.1 hcycle
    obtain ⟨last, -, htail⟩ := Relation.TransGen.tail'_iff.1 hcycle
    have hfirst : l = "first" := (hregisters hhead).1
    have hsecond : l = "second" := (hregisters htail).2
    rw [hfirst] at hsecond
    exact absurd hsecond (by decide)

/-- The first listener is replaced while the only member is tried, and the run gives the value. -/
theorem listeners_make_no_difference_replaced :
    let members : List Listener := ["first", "second"]
    let w : World Nat := (World.quiet replaced).change (.register "first")
    let later : List (Action Nat) := [.begin [⟨"http://etcd1:2379"⟩] .live, .resume 0 (.returned 7)]
    w.population.IsTiered members ∧ w.Within members ∧ (∀ a ∈ later, a.Within members) ∧
      ∃ enough, ∀ patience, enough ≤ patience →
        ((w.patient patience).steps later).outcome? 0 = some (.returned 7) ∧
          ((w.patient patience).steps later).invoked 0 = [⟨"http://etcd1:2379"⟩] := by
  intro members w later
  have hwithin : w.Within members := by
    refine ⟨fun l hl => ?_, fun run hrun => absurd hrun List.not_mem_nil⟩
    rw [List.mem_singleton.1 hl]
    decide
  have hlater : ∀ a ∈ later, a.Within members := by
    intro a ha
    rcases List.mem_cons.1 ha with rfl | hlast
    · trivial
    · rw [List.mem_singleton.1 hlast]
      trivial
  obtain ⟨-, enough, halike⟩ := listeners_make_no_difference isTiered_replaced hwithin hlater
  refine ⟨isTiered_replaced, hwithin, hlater, enough, fun patience hpatience => ?_⟩
  obtain ⟨-, hshown⟩ := halike patience hpatience
  obtain ⟨-, houtcome, hinvoked⟩ := hshown 0
  exact ⟨houtcome, hinvoked⟩

end World

end ClusterClient
