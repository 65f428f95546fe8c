import ClusterClient.Proofs.Failover.Reached

/-!
# Progress serves one call

A call may be given progress, and looks at it once, before anything else: it is refused unless nobody has
been tried yet and the members are its own. So little is enough. A call that is not refused tries its first
member in the same breath, which no other call can come between, and what has been tried is never taken
back.

## The architecture

* **`Progress.Grows`**: what becomes of progress, whoever moves it: nothing that it shows is lost.
  **`World.grows_steps`** says so of any steps.
* **`World.Sound`**: what holds of the runs and the progress in every world that has come about by steps;
  **`Reachable.sound`**.
* **`World.Admits`**, **`World.Refuses`**: the two ways of the guard. **`refuses_of_accept`**: whom it does
  not let pass leaves no trace.
* **`progress_serves_one_call`**: the law.
-/

namespace ClusterClient

namespace Progress

/-- Progress grows: its members stay the same, and whom has been tried and what has been recorded stays
there. -/
structure Grows (p p' : Progress) : Prop where
  endpoints : p'.endpoints = p.endpoints
  whole : p'.attempted ++ p'.remaining = p.attempted ++ p.remaining
  attempted : p.attempted <+: p'.attempted
  errors : p.errors <+: p'.errors

namespace Grows

variable {p p' p'' : Progress}

theorem refl (p : Progress) : p.Grows p := ⟨rfl, rfl, List.prefix_rfl, List.prefix_rfl⟩

theorem trans (h : p.Grows p') (h' : p'.Grows p'') : p.Grows p'' where
  endpoints := h'.endpoints.trans h.endpoints
  whole := h'.whole.trans h.whole
  attempted := h.attempted.trans h'.attempted
  errors := h.errors.trans h'.errors

theorem attempts_le (h : p.Grows p') : p.attempts ≤ p'.attempts := h.attempted.length_le

end Grows

/-- Asking for the next member takes it over to those that have been tried, or changes nothing. -/
theorem grows_next (p : Progress) : p.Grows p.next.2 := by
  unfold next
  split
  · next h => exact ⟨rfl, rfl, List.prefix_rfl, List.prefix_rfl⟩
  · next e rest h => exact ⟨rfl, by simp [h], List.prefix_append _ _, List.prefix_rfl⟩

theorem grows_recordFailure (f : Failure) (p : Progress) : p.Grows (p.recordFailure f) :=
  ⟨rfl, rfl, List.prefix_rfl, List.prefix_append _ _⟩

theorem grows_land (p : Progress) : p.Grows p.land := ⟨rfl, rfl, List.prefix_rfl, List.prefix_rfl⟩

/-- So progress grows by any move, whoever makes it. -/
theorem grows_move (p : Progress) (m : Move) : p.Grows (p.move m) := by
  cases m with
  | next => exact p.grows_next
  | fail f => exact p.grows_recordFailure f

/-- If there was a next member, somebody has been tried. -/
theorem attempts_next_of_some {p : Progress} {e : Endpoint} (h : p.next.1 = some e) :
    0 < p.next.2.attempts := by
  unfold next at h ⊢
  split
  · next hnone => rw [hnone] at h; cases h
  · simp [attempts]

/-- **The guard looks at whom has been tried and at the members**, and at nothing else: errors that were
recorded before are let pass. -/
theorem accept_eq_ok_iff {p : Progress} {own : List Endpoint} :
    p.accept own = .ok () ↔ p.attempts = 0 ∧ p.endpoints = own := by
  unfold accept
  split
  · next hused => exact ⟨fun h => (by cases h), fun h => absurd h.1 (by omega)⟩
  · next hunused =>
    split
    · next hother => exact ⟨fun h => (by cases h), fun h => absurd h.2 hother⟩
    · next hsame => exact ⟨fun _ => ⟨by omega, Classical.not_not.1 hsame⟩, fun _ => rfl⟩

/-- Whoever is refused is told so as of a wrong value. -/
theorem kindName_of_accept {p : Progress} {own : List Endpoint} {f : Failure}
    (h : p.accept own = .error f) : f.kindName = "ValueError" := by
  unfold accept at h
  split at h
  · cases h; rfl
  · split at h
    · cases h; rfl
    · cases h

end Progress

/-! ## From one rest to the next

What a run does between two rests moves its progress by itself, whether or not the events it tells come to
an end. Only among the listeners of a live registry can an event go on for ever. -/

namespace Moment

variable {α : Type} {population : Population} {audience : Audience} {call : Nat} {o : Observers}

theorem progress_tell (event : Event) (p : Progress) (phase : Phase α) :
    (tell population audience call event p o phase).progress = p := by
  unfold tell
  split <;> rfl

/-- A run that has told an event goes on, or is stuck for good. The latter is for live registries only, where an
event may go on for ever. -/
theorem phase_tell (population : Population) (audience : Audience) (call : Nat) (event : Event)
    (p : Progress) (o : Observers) (phase : Phase α) :
    (tell population audience call event p o phase).phase = phase ∨
      (audience = .live ∧ (tell population audience call event p o phase).phase = .stuck) := by
  cases audience with
  | fixed listeners => exact .inl rfl
  | live =>
    unfold tell
    split
    · exact .inl rfl
    · exact .inr ⟨rfl, rfl⟩

/-- Proceeding asks for the next member, whatever becomes of the event that is told. -/
theorem progress_proceed (p : Progress) :
    (proceed population audience call p o : Moment α).progress = p.next.2 := by
  unfold proceed
  split
  · next heq => rw [progress_tell, heq]
  · next heq => rw [progress_tell, heq]

/-- A run that waits for an attempt has tried somebody: the member that it is about has been counted as tried
before the attempt began. -/
theorem attempts_of_proceed {p : Progress} {attempt : Nat} {e : Endpoint}
    (h : (proceed population audience call p o : Moment α).phase = .attempting attempt e) :
    0 < p.next.2.attempts := by
  unfold proceed at h
  split at h
  · next first p' heq => exact Progress.attempts_next_of_some (e := first) (by rw [heq])
  · next p' heq =>
    -- all members have failed, so the run has ended or is stuck
    rcases phase_tell population audience call ⟨.exhausted p'.errors, p'.attempts, none⟩ p' o
      (.ended (.raised (.ofMembers p'.errors p'.attempted)) : Phase α) with hphase | ⟨-, hphase⟩
    · rw [hphase] at h
      cases h
    · rw [hphase] at h
      cases h

/-- What happens to progress between two rests: it grows, and a run that waits has tried somebody. -/
structure Advances (p : Progress) (m : Moment α) : Prop where
  grows : p.Grows m.progress
  used : ∀ attempt e, m.phase = .attempting attempt e → 0 < m.progress.attempts

/-- To proceed is to ask for the next member, and to wait only if there is one. -/
theorem advances_proceed (population : Population) (audience : Audience) (call : Nat) (p : Progress)
    (o : Observers) : (proceed population audience call p o : Moment α).Advances p where
  grows := by rw [progress_proceed]; exact p.grows_next
  used attempt e h := by rw [progress_proceed]; exact attempts_of_proceed h

/-- A call that begins proceeds, or is refused and leaves progress alone. -/
theorem advances_begin (population : Population) (audience : Audience) (call : Nat)
    (own : List Endpoint) (p : Progress) (o : Observers) :
    (begin population audience call own p o : Moment α).Advances p := by
  unfold begin
  split
  · exact advances_proceed population audience call p o
  · exact ⟨.refl p, fun _ _ h => by cases h⟩

/-- **What follows on the end of an attempt**: a call that succeeds notes it, one that goes on records the
failure and proceeds, and one that is cancelled or cannot show a failure ends. -/
theorem advances_resume (population : Population) (audience : Audience) (call attempt : Nat)
    (e : Endpoint) (outcome : Outcome α) (p : Progress) (o : Observers) :
    (resume population audience call attempt e outcome p o).Advances p := by
  cases outcome with
  | returned value =>
    refine ⟨?_, ?_⟩
    · rw [resume, progress_tell]
      exact p.grows_land
    · intro attempt' e' h
      rcases phase_tell population audience call ⟨.success p.errors.length, attempt, some e⟩ p.land o
        (.ended (.returned value)) with hphase | ⟨-, hphase⟩
      · rw [resume, hphase] at h
        cases h
      · rw [resume, hphase] at h
        cases h
  | raised f =>
    unfold resume
    dsimp only
    split
    · exact ⟨p.grows_recordFailure f, fun _ _ h => by cases h⟩
    · split
      -- the failure has been told, and the next member is asked for
      · next o' _ =>
        have hproceed := @advances_proceed α population audience call (p.recordFailure f) o'
        exact ⟨(p.grows_recordFailure f).trans hproceed.grows, hproceed.used⟩
      · exact ⟨p.grows_recordFailure f, fun _ _ h => by cases h⟩
  | cancelled => exact ⟨.refl p, fun _ _ h => by cases h⟩

end Moment

namespace World

variable {α : Type} {w w' w'' : World α} {own : List Endpoint} {audience : Audience} {slot : Nat}

/-! ## Any steps -/

/-- All progress that is there grows from one world to another. -/
def Grows (w w' : World α) : Prop :=
  ∀ (slot : Nat) (p : Progress), w.progresses[slot]? = some p →
    ∃ p', w'.progresses[slot]? = some p' ∧ p.Grows p'

theorem Grows.of_eq (h : w'.progresses = w.progresses) : w.Grows w' :=
  fun slot p hp => ⟨p, by rw [h]; exact hp, .refl p⟩

/-- What grows in two steps grows. -/
theorem Grows.trans (h : w.Grows w') (h' : w'.Grows w'') : w.Grows w'' := by
  intro slot p hp
  obtain ⟨p', hp', hgrows⟩ := h slot p hp
  obtain ⟨p'', hp'', hgrows'⟩ := h' slot p' hp'
  exact ⟨p'', hp'', hgrows.trans hgrows'⟩

/-- What holds in every world: no member of any progress is lost, and a run that waits for an attempt has
used its progress. -/
structure Sound (w : World α) : Prop where
  whole : ∀ (slot : Nat) (p : Progress), w.progresses[slot]? = some p →
    p.attempted ++ p.remaining = p.endpoints
  used : ∀ (call : Nat) (run : Run α) (attempt : Nat) (e : Endpoint), w.runs[call]? = some run →
    run.phase = .attempting attempt e → ∃ p, w.progresses[run.progress]? = some p ∧ 0 < p.attempts

/-- What becomes of a world: all its progress grows, and it stays sound. -/
structure Evolves (w w' : World α) : Prop where
  grows : w.Grows w'
  sound : w.Sound → w'.Sound

theorem Evolves.refl (w : World α) : w.Evolves w := ⟨.of_eq rfl, id⟩

theorem Evolves.trans (h : w.Evolves w') (h' : w'.Evolves w'') : w.Evolves w'' :=
  ⟨h.grows.trans h'.grows, fun hsound => h'.sound (h.sound hsound)⟩

/-- What has been used stays used. -/
theorem Grows.used (h : w.Grows w') {run : Run α}
    (hused : ∃ p, w.progresses[run.progress]? = some p ∧ 0 < p.attempts) :
    ∃ p, w'.progresses[run.progress]? = some p ∧ 0 < p.attempts := by
  obtain ⟨p, hp, hattempts⟩ := hused
  obtain ⟨p', hp', hgrows⟩ := h _ p hp
  exact ⟨p', hp', Nat.lt_of_lt_of_le hattempts hgrows.attempts_le⟩

/-- **A run that comes to rest lets its own progress grow, and no other.** The hypothesis on the moment is what
a run does between two rests. -/
theorem evolves_settle (call : Nat) (run : Run α) {p : Progress}
    (hp : w.progresses[run.progress]? = some p) {m : Moment α} (hm : m.Advances p) :
    w.Evolves (w.settle call run m) := by
  have hown : (w.settle call run m).progresses[run.progress]? = some m.progress :=
    progresses_settle run hp m
  -- the run's own progress has grown by the moment, and all other progress is as it was
  have hgrows : w.Grows (w.settle call run m) := by
    intro slot q hq
    by_cases hslot : run.progress = slot
    · subst hslot
      rw [hp] at hq
      cases hq
      exact ⟨m.progress, hown, hm.grows⟩
    · exact ⟨q, by simp [settle, List.getElem?_set_ne hslot, hq], .refl q⟩
  refine ⟨hgrows, fun hsound => ⟨?_, ?_⟩⟩
  · intro slot q hq
    by_cases hslot : run.progress = slot
    · subst hslot
      rw [hown] at hq
      cases hq
      rw [hm.grows.whole, hm.grows.endpoints]
      exact hsound.whole _ p hp
    · exact hsound.whole slot q (by simpa [settle, List.getElem?_set_ne hslot] using hq)
  -- the run itself waits on progress it has used, and the others wait as before
  · intro other run' attempt e hrun' hphase
    by_cases hother : call = other
    · subst hother
      obtain ⟨hlt, heq⟩ := List.getElem?_eq_some_iff.1 hrun'
      obtain rfl : _ = run' := by simpa [settle] using heq
      exact ⟨m.progress, hown, hm.used attempt e hphase⟩
    · refine hgrows.used (hsound.used other run' attempt e ?_ hphase)
      simpa [settle, List.getElem?_set_ne hother] using hrun'

/-- The world with a run behind the others. -/
def addRun (run : Run α) (w : World α) : World α := { w with runs := w.runs ++ [run] }

/-- A run that waits for nothing changes nothing for the others. -/
theorem evolves_addRun {run : Run α} (hrun : ∀ attempt e, run.phase ≠ .attempting attempt e) :
    w.Evolves (w.addRun run) := by
  refine ⟨.of_eq rfl, fun hsound => ⟨hsound.whole, ?_⟩⟩
  intro call run' attempt e hrun' hphase
  rw [addRun] at hrun'
  rcases Nat.lt_or_ge call w.runs.length with hlt | hge
  · exact hsound.used call run' attempt e (by rwa [List.getElem?_append_left hlt] at hrun') hphase
  · rw [List.getElem?_append_right hge] at hrun'
    obtain rfl := List.mem_singleton.1 (List.mem_of_getElem? hrun')
    exact absurd hphase (hrun attempt e)

/-- New progress has all its members before it. It stands behind what there is, so that every other progress is
where it was, and no run uses it yet. -/
theorem evolves_addProgress (endpoints : List Endpoint) (w : World α) :
    w.Evolves (w.addProgress endpoints) := by
  have hgrows : w.Grows (w.addProgress endpoints) := by
    intro slot p hp
    obtain ⟨hlt, -⟩ := List.getElem?_eq_some_iff.1 hp
    exact ⟨p, by rw [addProgress, List.getElem?_append_left hlt]; exact hp, .refl p⟩
  refine ⟨hgrows, fun hsound => ⟨?_, fun call run attempt e hrun hphase =>
    hgrows.used (hsound.used call run attempt e hrun hphase)⟩⟩
  intro slot p hp
  rcases List.mem_append.1 (List.mem_of_getElem? hp) with hmem | hnew
  · obtain ⟨slot', hslot'⟩ := List.getElem?_of_mem hmem
    exact hsound.whole slot' p hslot'
  · obtain rfl := List.mem_singleton.1 hnew
    rfl

/-- Progress that is moved from outside grows, as by its own call. Only the progress at this slot is another
one, and a move keeps its members and what it has tried. -/
theorem evolves_moveProgress (slot : Nat) (m : Progress.Move) (w : World α) :
    w.Evolves (w.moveProgress slot m) := by
  have hgrows : w.Grows (w.moveProgress slot m) := by
    intro slot' p hp
    by_cases hslot : slot = slot'
    · subst hslot
      exact ⟨p.move m, by simp [moveProgress, hp], p.grows_move m⟩
    · exact ⟨p, by simp [moveProgress, hslot, hp], .refl p⟩
  refine ⟨hgrows, fun hsound => ⟨?_, fun call run attempt e hrun hphase =>
    hgrows.used (hsound.used call run attempt e hrun hphase)⟩⟩
  intro slot' p hp
  rw [moveProgress, List.getElem?_modify] at hp
  split at hp
  · obtain ⟨q, hq, rfl⟩ := Option.map_eq_some_iff.1 hp
    rw [(q.grows_move m).whole, (q.grows_move m).endpoints]
    exact hsound.whole slot' q hq
  · obtain ⟨q, hq, rfl⟩ := Option.map_eq_some_iff.1 hp
    exact hsound.whole slot' q hq

/-- A run that begins is put behind the others, and comes to its first rest. -/
theorem beginWith_of_some {p : Progress} (hp : w.progresses[slot]? = some p) (own : List Endpoint)
    (audience : Audience) :
    w.beginWith own audience slot =
      (w.addRun ⟨own, audience, slot, .stuck, []⟩).settle w.runs.length ⟨own, audience, slot, .stuck, []⟩
        (Moment.begin w.population audience w.runs.length own p w.observers) := by
  unfold beginWith
  rw [hp]
  rfl

/-- A call that begins is put behind the others and comes to its first rest. Without progress it does not begin.
-/
theorem evolves_beginWith (own : List Endpoint) (audience : Audience) (slot : Nat) (w : World α) :
    w.Evolves (w.beginWith own audience slot) := by
  cases hp : w.progresses[slot]? with
  | none =>
    unfold beginWith
    rw [hp]
    exact .refl w
  | some p =>
    rw [beginWith_of_some hp]
    have hadd : w.Evolves (w.addRun ⟨own, audience, slot, .stuck, []⟩) :=
      evolves_addRun fun attempt e h => by cases h
    have hthere : (w.addRun ⟨own, audience, slot, .stuck, []⟩).progresses[slot]? = some p := hp
    exact hadd.trans (evolves_settle _ ⟨own, audience, slot, .stuck, []⟩ hthere
      (Moment.advances_begin _ _ _ _ _ _))

/-- A call whose attempt ends comes to its next rest; one that waits for nothing stays as it is. -/
theorem evolves_resume (call : Nat) (outcome : Outcome α) (w : World α) :
    w.Evolves (w.resume call outcome) := by
  unfold resume
  split
  · exact .refl w
  · next run _ =>
    split
    · next attempt e p _ hp =>
      exact evolves_settle call run hp (Moment.advances_resume _ _ _ _ _ _ _ _)
    · exact .refl w

/-- **One step**, by cases over the actions. -/
theorem evolves_step (w : World α) (a : Action α) : w.Evolves (w.step a) := by
  cases a with
  | begin own audience =>
    exact (evolves_addProgress own w).trans (evolves_beginWith own audience _ _)
  | beginWith own audience slot => exact evolves_beginWith own audience slot w
  | resume call outcome => exact evolves_resume call outcome w
  | change c => exact ⟨.of_eq rfl, fun hsound => ⟨hsound.whole, hsound.used⟩⟩
  | addProgress endpoints => exact evolves_addProgress endpoints w
  | moveProgress slot m => exact evolves_moveProgress slot m w

/-- **Any steps**, by induction from the first on. -/
theorem evolves_steps (w : World α) (actions : List (Action α)) : w.Evolves (w.steps actions) := by
  induction actions generalizing w with
  | nil => exact .refl w
  | cons a rest ih => exact (evolves_step w a).trans (ih (w.step a))

/-- A world that has come about by steps. -/
def Reachable (w : World α) : Prop := ∃ population history, w = (quiet population).steps history

/-- Worlds that come about by steps are sound: at first there is no run and no progress at all. -/
theorem Reachable.sound (h : w.Reachable) : w.Sound := by
  obtain ⟨population, history, rfl⟩ := h
  exact (evolves_steps _ history).sound ⟨by simp [quiet], by simp [quiet]⟩

/-! ## The guard -/

/-- A call over these members that is given this progress would get past the guard. -/
def Admits (w : World α) (own : List Endpoint) (slot : Nat) : Prop :=
  ∃ p, w.progresses[slot]? = some p ∧ p.accept own = .ok ()

/-- A call over these members that is given this progress fails, as wrong values do. It has invoked
nothing, and all that is new is that it has been made: no event has been told, and no progress has been
touched. -/
def Refuses (w : World α) (own : List Endpoint) (audience : Audience) (slot : Nat) : Prop :=
  ∃ f : Failure, f.kindName = "ValueError" ∧
    w.beginWith own audience slot = w.addRun ⟨own, audience, slot, .ended (.raised f), []⟩

/-- Whom the guard does not let pass leaves no trace but the run that tells of it. -/
theorem refuses_of_accept {p : Progress} {f : Failure} (hp : w.progresses[slot]? = some p)
    (hrefused : p.accept own = .error f) (audience : Audience) : w.Refuses own audience slot := by
  refine ⟨f, Progress.kindName_of_accept hrefused, ?_⟩
  obtain ⟨hin, rfl⟩ := List.getElem?_eq_some_iff.1 hp
  rw [beginWith_of_some hp, Moment.begin, hrefused]
  simp [settle, addRun, Phase.endpoint?]

/-- A call that does not get past the guard is refused. -/
theorem refuses_of_not_admits (hslot : slot < w.progresses.length) (hrefused : ¬ w.Admits own slot)
    (audience : Audience) : w.Refuses own audience slot := by
  have hp := List.getElem?_eq_getElem hslot
  cases haccept : w.progresses[slot].accept own with
  | ok u => exact absurd ⟨_, hp, haccept⟩ hrefused
  | error f => exact refuses_of_accept hp haccept audience

/-- Nobody gets past the guard with progress that has been used, over whatever members. -/
theorem not_admits_of_used {p : Progress} (hp : w.progresses[slot]? = some p) (hused : 0 < p.attempts)
    (own : List Endpoint) : ¬ w.Admits own slot := by
  rintro ⟨p', hp', haccept⟩
  rw [hp] at hp'
  cases hp'
  have hunused := (Progress.accept_eq_ok_iff.1 haccept).1
  omega

/-- **A call that gets past the guard tries its first member before anything else can happen.** So there is no
moment at which a second call could find the progress unused. -/
theorem used_of_admits (hsound : w.Sound) (hown : own ≠ []) (hadmits : w.Admits own slot)
    (audience : Audience) :
    ∃ p, (w.beginWith own audience slot).progresses[slot]? = some p ∧ 0 < p.attempts := by
  obtain ⟨p, hp, haccept⟩ := hadmits
  obtain ⟨hunused, hmembers⟩ := Progress.accept_eq_ok_iff.1 haccept
  refine ⟨p.next.2, ?_, ?_⟩
  · have hthere : (w.addRun ⟨own, audience, slot, .stuck, []⟩).progresses[slot]? = some p := hp
    rw [beginWith_of_some hp, progresses_settle ⟨own, audience, slot, .stuck, []⟩ hthere, Moment.begin,
      haccept, Moment.progress_proceed]
  · -- nobody has been tried, so that the members are all still to come
    have hattempted : p.attempted = [] := List.length_eq_zero_iff.1 hunused
    have hwhole := hsound.whole slot p hp
    rw [hattempted, List.nil_append, hmembers] at hwhole
    obtain ⟨e, rest, rfl⟩ := List.exists_cons_of_ne_nil hown
    exact Progress.attempts_next_of_some (e := e) (by simp [Progress.next, hwhole])

/-- **Progress serves one call.** A call that does not get past the guard is refused. Once a call has got
past it, whatever happens next, none that is given the same progress ever does: wherever the first one
stands, and whoever else is under way, every other one is refused. -/
theorem progress_serves_one_call (hreachable : w.Reachable) (hslot : slot < w.progresses.length)
    (hown : own ≠ []) (audience : Audience) :
    (¬ w.Admits own slot → w.Refuses own audience slot) ∧
    (w.Admits own slot → ∀ (later : List (Action α)) (other : List Endpoint) (audience' : Audience),
      let after := (w.beginWith own audience slot).steps later
      ¬ after.Admits other slot ∧ after.Refuses other audience' slot) := by
  refine ⟨fun hrefused => refuses_of_not_admits hslot hrefused audience, ?_⟩
  intro hadmits later other audience' after
  obtain ⟨p, hp, hused⟩ := used_of_admits hreachable.sound hown hadmits audience
  obtain ⟨p', hp', hgrows⟩ := (evolves_steps _ later).grows slot p hp
  have hnever : ¬ after.Admits other slot :=
    not_admits_of_used hp' (Nat.lt_of_lt_of_le hused hgrows.attempts_le) other
  obtain ⟨hin, -⟩ := List.getElem?_eq_some_iff.1 hp'
  exact ⟨hnever, refuses_of_not_admits hin hnever audience'⟩

/-- Two calls over the same members are given the same progress. The second one is refused, while the first
one waits for its first member and after it has been cancelled there. -/
theorem progress_serves_one_call_given_twice :
    let members : List Endpoint := [⟨"http://etcd1:2379"⟩, ⟨"http://etcd2:2379"⟩]
    let w : World Nat :=
      ((World.quiet ⟨fun _ _ _ => .quiet, 1⟩).change (.register "log")).addProgress members
    w.Reachable ∧ w.Admits members 0 ∧
      (w.beginWith members .live 0).awaited? 0 = some (0, ⟨"http://etcd1:2379"⟩) ∧
      (w.beginWith members .live 0).Refuses members (.fixed []) 0 ∧
      ((w.beginWith members .live 0).steps [.resume 0 .cancelled]).Refuses members (.fixed []) 0 := by
  intro members w
  have hreachable : w.Reachable := ⟨_, [.change (.register "log"), .addProgress members], rfl⟩
  have hadmits : w.Admits members 0 := ⟨.start members, rfl, Progress.accept_eq_ok_iff.2 ⟨rfl, rfl⟩⟩
  have hserved := (progress_serves_one_call hreachable (show 0 < w.progresses.length by decide)
    (List.cons_ne_nil _ _) .live).2 hadmits
  exact ⟨hreachable, hadmits, rfl, (hserved [] members (.fixed [])).2,
    (hserved [.resume 0 .cancelled] members (.fixed [])).2⟩

end World

end ClusterClient
