import ClusterClient.Proofs.Failover.Announcing
import ClusterClient.Proofs.Failover.Emission

/-!
# Who is called, and by which call

All that a step does to the observers is to call listeners, one delivery after the other, in the name of one
call. So what a delivery keeps, a step keeps (**`World.keeps_step`**).

An audience that events reach (**`Audience.Reaches`**) is called with each of them once and in order. Fixed
listeners are reached whatever they do (**`reaches_fixed`**), and a live registry is reached if listeners change
no registrations (**`IsStill.exists_emit`**, **`IsStill.reaches`**).
-/

namespace ClusterClient

/-! ## What deliveries keep -/

section Keeping

variable {α : Type} {population : Population} {call : Nat} {keeps : Observers → Prop}

/-- **What each delivery keeps, an event keeps that is told to a live registry.** Induction on the patience, of
which each call takes one; an event that does not come to an end is not spoken of. -/
theorem Observers.keeps_emitFrom
    (hdeliver : ∀ event o l, keeps o → keeps (o.deliver population call event l)) {event : Event}
    {patience turn : Nat} {o o' : Observers} (ho : keeps o)
    (h : emitFrom population call event patience turn o = some o') : keeps o' := by
  induction patience generalizing turn o with
  | zero =>
    rw [emitFrom] at h
    split at h
    · cases h; exact ho
    · cases h
  | succ patience ih =>
    rw [emitFrom] at h
    split at h
    · cases h; exact ho
    · next l _ => exact ih (hdeliver event o l ho) h

/-- The same for any audience. A fixed one is called from the first listener to the last. -/
theorem Audience.keeps_emit (hdeliver : ∀ event o l, keeps o → keeps (o.deliver population call event l))
    {event : Event} {audience : Audience} {o o' : Observers} (ho : keeps o)
    (h : audience.emit population call event o = some o') : keeps o' := by
  cases audience with
  | live => exact Observers.keeps_emitFrom hdeliver ho h
  | fixed listeners =>
    cases h
    induction listeners generalizing o with
    | nil => exact ho
    | cons l rest ih => exact ih (hdeliver event o l ho)

namespace Moment

variable {audience : Audience} {o : Observers}

/-- To tell an event is to emit it. -/
theorem keeps_tell (hdeliver : ∀ event o l, keeps o → keeps (o.deliver population call event l))
    (ho : keeps o) (event : Event) (p : Progress) (phase : Phase α) :
    keeps (tell population audience call event p o phase).observers := by
  unfold tell
  split
  · next o' h => exact Audience.keeps_emit hdeliver ho h
  · exact ho

/-- To proceed is to tell one event, of the next attempt or that there is none. -/
theorem keeps_proceed (hdeliver : ∀ event o l, keeps o → keeps (o.deliver population call event l))
    (ho : keeps o) (p : Progress) :
    keeps (proceed population audience call p o : Moment α).observers := by
  unfold proceed
  split
  · exact keeps_tell hdeliver ho _ _ _
  · exact keeps_tell hdeliver ho _ _ _

/-- A call that is refused tells nothing. -/
theorem keeps_begin (hdeliver : ∀ event o l, keeps o → keeps (o.deliver population call event l))
    (ho : keeps o) (own : List Endpoint) (p : Progress) :
    keeps (begin population audience call own p o : Moment α).observers := by
  unfold begin
  split
  · exact keeps_proceed hdeliver ho p
  · exact ho

/-- What follows on the end of an attempt is told in one event or in two: the end, and what comes after a
failure. -/
theorem keeps_resume (hdeliver : ∀ event o l, keeps o → keeps (o.deliver population call event l))
    (ho : keeps o) (attempt : Nat) (e : Endpoint) (outcome : Outcome α) (p : Progress) :
    keeps (resume population audience call attempt e outcome p o).observers := by
  cases outcome with
  | returned value => exact keeps_tell hdeliver ho _ _ _
  | cancelled => exact ho
  | raised f =>
    unfold resume
    dsimp only
    -- nobody is told of a failure that cannot be shown, nor called again after one that never ends
    split
    · exact ho
    · split
      · next o' h => exact keeps_proceed hdeliver (Audience.keeps_emit hdeliver ho h) _
      · exact ho

end Moment

end Keeping

namespace World

variable {α : Type} {w : World α}

/-- The call in whose name a step calls listeners. -/
def Action.Speaks (w : World α) (call : Nat) : Action α → Prop
  | .begin _ _ => call = w.runs.length
  | .beginWith _ _ slot => call = w.runs.length ∧ slot < w.progresses.length
  | .resume other _ => call = other ∧ other < w.runs.length
  | _ => False

/-- A call that begins calls listeners in its own name, which is that of the run behind all others. -/
theorem keeps_beginWith {keeps : Observers → Prop} {slot : Nat}
    (hdeliver : slot < w.progresses.length → ∀ event o l, keeps o →
      keeps (o.deliver w.population w.runs.length event l))
    (h : keeps w.observers) (own : List Endpoint) (audience : Audience) :
    keeps (w.beginWith own audience slot).observers := by
  cases hp : w.progresses[slot]? with
  | none =>
    rw [beginWith, hp]
    exact h
  | some p =>
    obtain ⟨hslot, -⟩ := List.getElem?_eq_some_iff.1 hp
    rw [beginWith_of_some hp]
    exact Moment.keeps_begin (hdeliver hslot) h own p

/-- **What each delivery of a step keeps, the step keeps**, unless it changes the registry itself. What is kept
need not be the same for all calls: it is asked of deliveries in the name in which the step speaks. -/
theorem keeps_step {keeps : Observers → Prop} {a : Action α} (hchange : ∀ c, a ≠ .change c)
    (hdeliver : ∀ call, a.Speaks w call → ∀ event o l, keeps o →
      keeps (o.deliver w.population call event l))
    (h : keeps w.observers) : keeps (w.step a).observers := by
  cases a with
  | begin own audience =>
    exact keeps_beginWith (w := w.addProgress own) (fun _ => hdeliver _ rfl) h own audience
  | beginWith own audience slot =>
    exact keeps_beginWith (fun hslot => hdeliver _ ⟨rfl, hslot⟩) h own audience
  | resume call outcome =>
    show keeps (w.resume call outcome).observers
    unfold resume
    split
    · exact h
    · next run hrun =>
      obtain ⟨hlt, -⟩ := List.getElem?_eq_some_iff.1 hrun
      split
      -- only a run that waits for the attempt speaks
      · exact Moment.keeps_resume (hdeliver call ⟨rfl, hlt⟩) h _ _ _ _
      · exact h
  | change c => exact absurd rfl (hchange c)
  | addProgress endpoints => exact h
  | moveProgress slot m => exact h

/-- The listeners react in the same way throughout: who is registered and what has been delivered may change
with any step, but not how they behave. -/
theorem population_step (w : World α) (a : Action α) : (w.step a).population = w.population := by
  cases a with
  | begin own audience =>
    show ((w.addProgress own).beginWith own audience _).population = _
    unfold beginWith
    split <;> rfl
  | beginWith own audience slot =>
    show (w.beginWith own audience slot).population = _
    unfold beginWith
    split <;> rfl
  | resume call outcome =>
    show (w.resume call outcome).population = _
    unfold resume
    split
    · rfl
    · split <;> rfl
  | _ => rfl

/-! ### Nobody speaks for a call that has not begun -/

/-- Whatever has been delivered belongs to a call that is there. -/
def IsSpoken (w : World α) : Prop := ∀ d ∈ w.observers.deliveries, d.call < w.runs.length

theorem length_runs_settle (call : Nat) (run : Run α) (m : Moment α) (w : World α) :
    (w.settle call run m).runs.length = w.runs.length := List.length_set

/-- A step makes the runs no fewer, and the call in whose name it speaks is there afterwards: it begins with the
step, or an attempt of it ends. -/
theorem lt_of_speaks (w : World α) (a : Action α) :
    w.runs.length ≤ (w.step a).runs.length ∧ ∀ call, a.Speaks w call → call < (w.step a).runs.length := by
  -- a call that begins is put behind the others, if there is progress for it
  have hbegin (w : World α) (own : List Endpoint) (audience : Audience) (slot : Nat) :
      w.runs.length ≤ (w.beginWith own audience slot).runs.length ∧
        (slot < w.progresses.length → w.runs.length < (w.beginWith own audience slot).runs.length) := by
    cases hp : w.progresses[slot]? with
    | none =>
      rw [beginWith, hp]
      have hout := List.getElem?_eq_none_iff.1 hp
      exact ⟨Nat.le_refl _, fun hslot => absurd hslot (by omega)⟩
    | some p =>
      have hlength : (w.beginWith own audience slot).runs.length = w.runs.length + 1 := by
        rw [beginWith_of_some hp, length_runs_settle, addRun, List.length_append, List.length_singleton]
      omega
  cases a with
  | begin own audience =>
    obtain ⟨hle, hlt⟩ := hbegin (w.addProgress own) own audience w.progresses.length
    refine ⟨hle, ?_⟩
    rintro call rfl
    exact hlt (by simp [addProgress])
  | beginWith own audience slot =>
    obtain ⟨hle, hlt⟩ := hbegin w own audience slot
    refine ⟨hle, ?_⟩
    rintro call ⟨rfl, hslot⟩
    exact hlt hslot
  | resume call outcome =>
    have hlength : (w.resume call outcome).runs.length = w.runs.length := by
      unfold resume
      split
      · rfl
      · split
        · exact length_runs_settle _ _ _ _
        · rfl
    refine ⟨hlength.ge, ?_⟩
    rintro other ⟨rfl, hlt⟩
    show other < (w.resume other outcome).runs.length
    omega
  | _ => exact ⟨Nat.le_refl _, fun _ hspeaks => hspeaks.elim⟩

/-- What is delivered in a step belongs to a call that is there after it. A change of the registry delivers
nothing, and all other deliveries are made in the name of the call of the step. -/
theorem isSpoken_step (h : w.IsSpoken) (a : Action α) : (w.step a).IsSpoken := by
  obtain ⟨hle, hlt⟩ := lt_of_speaks w a
  have hbefore : ∀ d ∈ w.observers.deliveries, d.call < (w.step a).runs.length :=
    fun d hd => Nat.lt_of_lt_of_le (h d hd) hle
  by_cases hchange : ∃ c, a = .change c
  · obtain ⟨c, rfl⟩ := hchange
    -- registering and leaving deliver nothing
    cases c <;> exact hbefore
  · let keeps (o : Observers) : Prop := ∀ d ∈ o.deliveries, d.call < (w.step a).runs.length
    have hkept : keeps w.observers := hbefore
    refine keeps_step (fun c hc => hchange ⟨c, hc⟩) ?_ hkept
    intro call hspeaks event o l ho d hd
    rw [Observers.deliveries_deliver] at hd
    rcases List.mem_append.1 hd with hold | hnew
    · exact ho d hold
    · rw [List.mem_singleton.1 hnew]
      exact hlt call hspeaks

/-- **Whatever has been delivered belongs to a call that is there**, in every world that comes about by steps.
-/
theorem Reachable.isSpoken (h : w.Reachable) : w.IsSpoken := by
  obtain ⟨population, history, rfl⟩ := h
  have hsteps (actions : List (Action α)) (w : World α) (h : w.IsSpoken) : (w.steps actions).IsSpoken := by
    induction actions generalizing w with
    | nil => exact h
    | cons a rest ih => exact ih (w.step a) (isSpoken_step h a)
  exact hsteps history (quiet population) fun d hd => absurd hd List.not_mem_nil

end World

/-! ## Audiences that events reach -/

/-- An event is delivered to listeners, in order. -/
def Event.toEach (call : Nat) (listeners : List Listener) (event : Event) : List Delivery :=
  listeners.map fun l => ⟨call, l, event⟩

/-- Listeners are called in order, whatever they do to the registry. -/
theorem Observers.deliveries_foldl_deliver (population : Population) (call : Nat) (event : Event)
    (listeners : List Listener) (o : Observers) :
    (listeners.foldl (deliver population call event) o).deliveries =
      o.deliveries ++ event.toEach call listeners := by
  induction listeners generalizing o with
  | nil => simp [Event.toEach]
  | cons l rest ih =>
    rw [List.foldl_cons, ih, deliveries_deliver, List.append_assoc]
    rfl

namespace Audience

/-- Whatever a call tells the audience comes to an end, and is delivered to these listeners: each of them is
called with an event, in order, before the next event is told. -/
def Reaches (audience : Audience) (population : Population) (call : Nat) (listeners : List Listener)
    (o : Observers) : Prop :=
  ∀ events : List Event, ∃ o', audience.tellAll population call events o = some o' ∧
    o'.deliveries = o.deliveries ++ events.flatMap (Event.toEach call listeners)

/-- **A fixed audience is reached**, whatever its listeners do. -/
theorem reaches_fixed (population : Population) (call : Nat) (listeners : List Listener) (o : Observers) :
    (fixed listeners).Reaches population call listeners o := by
  intro events
  induction events generalizing o with
  | nil => exact ⟨o, rfl, by simp⟩
  | cons event rest ih =>
    obtain ⟨o', hrest, hdeliveries⟩ := ih (listeners.foldl (Observers.deliver population call event) o)
    refine ⟨o', tellAll_cons rfl hrest, ?_⟩
    rw [hdeliveries, Observers.deliveries_foldl_deliver, List.append_assoc, List.flatMap_cons]

end Audience

/-! ## Listeners that change no registrations -/

/-- Listeners may fail, but register and deregister nobody. -/
def Population.IsStill (population : Population) : Prop :=
  ∀ told l event, (population.react told l event).changes = []

/-- Those who are called with an event, in order. -/
def Audience.hearers (o : Observers) : Audience → List Listener
  | live => o.registered
  | fixed listeners => listeners

namespace Population.IsStill

variable {population : Population}

/-- A listener that changes no registrations leaves the registry as it is. -/
theorem registered_deliver (h : population.IsStill) (call : Nat) (event : Event) (o : Observers)
    (l : Listener) : (o.deliver population call event l).registered = o.registered := by
  have hnone := h o.deliveries l event
  simp only [Observers.deliver, hnone, List.foldl_nil]

/-- Each registration from a position on is called once. The patience is enough for those that are ahead, and no
call makes them more. -/
theorem exists_emitFrom (h : population.IsStill) (call : Nat) (event : Event) {patience turn : Nat}
    {o : Observers} (henough : o.registered.length ≤ turn + patience) :
    ∃ o', Observers.emitFrom population call event patience turn o = some o' ∧
      o'.registered = o.registered ∧
      o'.deliveries = o.deliveries ++ event.toEach call (o.registered.drop turn) := by
  have hnone {turn : Nat} {o : Observers} (hturn : o.registered[turn]? = none) :
      o.deliveries = o.deliveries ++ event.toEach call (o.registered.drop turn) := by
    rw [List.drop_of_length_le (List.getElem?_eq_none_iff.1 hturn)]
    simp [Event.toEach]
  -- induction on the patience, of which there is enough for them
  induction patience generalizing turn o with
  | zero =>
    have hturn : o.registered[turn]? = none := List.getElem?_eq_none (by omega)
    exact ⟨o, by rw [Observers.emitFrom, hturn], rfl, hnone hturn⟩
  | succ patience ih =>
    cases hturn : o.registered[turn]? with
    | none => exact ⟨o, by rw [Observers.emitFrom, hturn], rfl, hnone hturn⟩
    | some l =>
      obtain ⟨hlt, hget⟩ := List.getElem?_eq_some_iff.1 hturn
      have hsame := h.registered_deliver call event o l
      have henough' : (o.deliver population call event l).registered.length ≤ turn + 1 + patience := by
        rw [hsame]
        omega
      obtain ⟨o', hemit, hregistered, hdeliveries⟩ := ih henough'
      refine ⟨o', by rw [Observers.emitFrom, hturn]; exact hemit, hregistered.trans hsame, ?_⟩
      rw [hdeliveries, hsame, Observers.deliveries_deliver, List.append_assoc,
        List.drop_eq_getElem_cons hlt, hget]
      rfl

/-- **An event calls each registration once and in order.** A live audience walks the registry, which its
listeners leave as it is, and a fixed one its own list. -/
theorem exists_emit (h : population.IsStill) (call : Nat) (event : Event) {audience : Audience} {o : Observers}
    (hpatience : audience = .live → o.registered.length ≤ population.patience) :
    ∃ o', audience.emit population call event o = some o' ∧ o'.registered = o.registered ∧
      o'.deliveries = o.deliveries ++ event.toEach call (audience.hearers o) := by
  cases audience with
  | live =>
    -- the walk begins at the first registration
    have henough : o.registered.length ≤ 0 + population.patience := by
      have hle := hpatience rfl
      omega
    exact h.exists_emitFrom call event henough
  | fixed listeners =>
    let told := listeners.foldl (Observers.deliver population call event) o
    have htold : Audience.emit population call event o (.fixed listeners) = some told := rfl
    have hregistered : told.registered = o.registered := by
      let keeps (o' : Observers) : Prop := o'.registered = o.registered
      have hkept : keeps o := rfl
      exact Audience.keeps_emit (fun event o l ho => (h.registered_deliver call event o l).trans ho) hkept htold
    exact ⟨told, rfl, hregistered, Observers.deliveries_foldl_deliver population call event listeners o⟩

/-- **An audience of such listeners is reached**: each event calls each of them, and leaves them as it has found
them, so that the next event does the same. -/
theorem reaches (h : population.IsStill) (call : Nat) {audience : Audience} {o : Observers}
    (hpatience : audience = .live → o.registered.length ≤ population.patience) :
    audience.Reaches population call (audience.hearers o) o := by
  intro events
  -- induction on the events, each of which leaves the registry as it is
  induction events generalizing o with
  | nil => exact ⟨o, rfl, by simp⟩
  | cons event rest ih =>
    obtain ⟨o₁, hfirst, hregistered, hdeliveries₁⟩ := h.exists_emit call event hpatience
    obtain ⟨o₂, hrest, hdeliveries₂⟩ := ih (o := o₁) (by rwa [hregistered])
    have hhearers : audience.hearers o₁ = audience.hearers o := by
      cases audience with
      | live => exact hregistered
      | fixed listeners => rfl
    refine ⟨o₂, Audience.tellAll_cons hfirst hrest, ?_⟩
    rw [hdeliveries₂, hdeliveries₁, hhearers, List.append_assoc, List.flatMap_cons]

end Population.IsStill

end ClusterClient
