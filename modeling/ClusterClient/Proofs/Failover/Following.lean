import ClusterClient.Proofs.Failover.Standing

/-!
# Runs that follow their own attempts

Runs are under way side by side. They share the observers, and any of them may be given the progress of
another. But a call that has got past the guard has its progress for itself, so that it goes where its own
attempts bring it, whatever else happens in between.

## The architecture

* **`World.Holds`**, **`World.Owns`**: a run has its progress for itself. No step of another one changes
  that (**`owns_step`**).
* **`World.Follows`**: a run stands where its own attempts have brought it, or is stuck among listeners.
  **`follows_beginWith`** is how it begins, **`follows_step`** one step and **`follows_steps`** any steps.
* **`progress_tells`**: what can be read off the progress of a call, at every rest.
-/

namespace ClusterClient

namespace World

variable {α : Type} {w : World α} {call slot : Nat} {run : Run α} {p : Progress} {own : List Endpoint}
  {audience : Audience} {s : Standing α}

/-! ## A run has its progress for itself -/

/-- A run is given progress that no other run waits with. -/
structure Holds (w : World α) (call : Nat) (run : Run α) (p : Progress) : Prop where
  there : w.runs[call]? = some run
  given : w.progresses[run.progress]? = some p
  apart : ∀ (other : Nat) (run' : Run α) (attempt : Nat) (e : Endpoint), w.runs[other]? = some run' →
    run'.phase = .attempting attempt e → run'.progress = run.progress → other = call

/-- It has used the progress as well, so that no other call is given it from now on. -/
structure Owns (w : World α) (call : Nat) (run : Run α) (p : Progress) : Prop
    extends w.Holds call run p where
  used : 0 < p.attempts

/-- What a step gives to a run: the way in which its attempt ends. -/
def Action.outcomeFor? (call : Nat) : Action α → Option (Outcome α)
  | .resume other outcome => if other = call then some outcome else none
  | _ => none

/-- How the attempts of a run end, by some steps. -/
def outcomesFor (call : Nat) (actions : List (Action α)) : List (Outcome α) :=
  actions.filterMap (Action.outcomeFor? call)

/-- Only the end of an attempt of the run gives it anything. -/
theorem Action.eq_resume {a : Action α} {outcome : Outcome α} (h : a.outcomeFor? call = some outcome) :
    a = .resume call outcome := by
  cases a with
  | resume other outcome' =>
    simp only [outcomeFor?] at h
    split at h
    · next hsame => subst hsame; cases h; rfl
    · cases h
  | _ => cases h

theorem outcomesFor_cons (call : Nat) (a : Action α) (rest : List (Action α)) :
    outcomesFor call (a :: rest) = (a.outcomeFor? call).toList ++ outcomesFor call rest := by
  cases houtcome : a.outcomeFor? call with
  | none => simp [outcomesFor, houtcome]
  | some outcome => simp [outcomesFor, houtcome]

/-- Nobody moves this progress from outside. -/
def Action.Spares (slot : Nat) : Action α → Prop
  | .moveProgress other _ => other ≠ slot
  | _ => True

namespace Holds

/-- A run that is new and waits for no attempt stands behind the others, and takes nobody's progress. Those that
stood there before keep their places and what they hold. -/
theorem addRun (h : w.Holds call run p) {new : Run α}
    (hnew : ∀ attempt e, new.phase ≠ .attempting attempt e) : (w.addRun new).Holds call run p where
  there := by
    obtain ⟨hlt, -⟩ := List.getElem?_eq_some_iff.1 h.there
    rw [World.addRun, List.getElem?_append_left hlt]
    exact h.there
  given := h.given
  apart other run' attempt e hrun' hphase hsame := by
    rw [World.addRun] at hrun'
    rcases Nat.lt_or_ge other w.runs.length with hlt | hge
    · rw [List.getElem?_append_left hlt] at hrun'
      exact h.apart other run' attempt e hrun' hphase hsame
    · rw [List.getElem?_append_right hge] at hrun'
      obtain rfl := List.mem_singleton.1 (List.mem_of_getElem? hrun')
      exact absurd hphase (hnew attempt e)

/-- A run with other progress comes to a rest. -/
theorem settle_other (h : w.Holds call run p) {other : Nat} (hother : other ≠ call) {run' : Run α}
    (hslot : run'.progress ≠ run.progress) (m : Moment α) :
    (w.settle other run' m).Holds call run p where
  there := by simpa [World.settle, List.getElem?_set_ne hother] using h.there
  given := by simpa [World.settle, List.getElem?_set_ne hslot] using h.given
  apart third run'' attempt e hrun'' hphase hsame := by
    by_cases hthird : other = third
    · subst hthird
      obtain ⟨hlt, heq⟩ := List.getElem?_eq_some_iff.1 hrun''
      obtain rfl : _ = run'' := by simpa [World.settle] using heq
      exact absurd hsame hslot
    · refine h.apart third run'' attempt e ?_ hphase hsame
      simpa [World.settle, List.getElem?_set_ne hthird] using hrun''

/-- The run comes to a rest itself, and has used its progress by then. -/
theorem settle (h : w.Holds call run p) {m : Moment α} (hused : 0 < m.progress.attempts) :
    (w.settle call run m).Owns call
      { run with phase := m.phase, invoked := run.invoked ++ m.phase.endpoint?.toList } m.progress where
  there := runs_settle h.there m
  given := progresses_settle run h.given m
  used := hused
  apart other run' attempt e hrun' hphase hsame := by
    by_cases hother : call = other
    · exact hother.symm
    · refine h.apart other run' attempt e ?_ hphase hsame
      simpa [World.settle, List.getElem?_set_ne hother] using hrun'

theorem addProgress (h : w.Holds call run p) (endpoints : List Endpoint) :
    (w.addProgress endpoints).Holds call run p where
  there := h.there
  given := by
    obtain ⟨hlt, -⟩ := List.getElem?_eq_some_iff.1 h.given
    rw [World.addProgress, List.getElem?_append_left hlt]
    exact h.given
  apart := h.apart

/-- Other progress may be moved from outside. -/
theorem moveProgress (h : w.Holds call run p) (hslot : slot ≠ run.progress) (m : Progress.Move) :
    (w.moveProgress slot m).Holds call run p where
  there := h.there
  given := by simp [World.moveProgress, hslot, h.given]
  apart := h.apart

/-- Another run is resumed with progress of its own, since two runs that wait have not the same. -/
theorem resume_other (h : w.Holds call run p) {other : Nat} (hother : other ≠ call)
    (outcome : Outcome α) : (w.resume other outcome).Holds call run p := by
  unfold World.resume
  split
  · exact h
  · next run' hrun' =>
    split
    · next attempt e q hphase _ =>
      -- the other run waits, so that its progress is another one
      have hslot : run'.progress ≠ run.progress :=
        fun hsame => hother (h.apart other run' attempt e hrun' hphase hsame)
      exact h.settle_other hother hslot _
    · exact h

theorem invoked_eq (h : w.Holds call run p) : w.invoked call = run.invoked := by
  simp [invoked, h.there]

theorem outcome_of_ended (h : w.Holds call run p) {outcome : Outcome α}
    (hended : run.phase = .ended outcome) : w.outcome? call = some outcome := by
  simp [outcome?, h.there, hended]

/-- Two runs that stand alike and have tried the same members show the same. -/
theorem alike {w' : World α} {call' : Nat} {run' : Run α} {p' : Progress} (h : w.Holds call run p)
    (h' : w'.Holds call' run' p') (hphase : run.phase = run'.phase)
    (hinvoked : run.invoked = run'.invoked) :
    w.awaited? call = w'.awaited? call' ∧ w.outcome? call = w'.outcome? call' ∧
      w.invoked call = w'.invoked call' := by
  refine ⟨?_, ?_, ?_⟩
  · simp [awaited?, h.there, h'.there, hphase]
  · simp [outcome?, h.there, h'.there, hphase]
  · rw [h.invoked_eq, h'.invoked_eq, hinvoked]

end Holds

/-- **A call that begins with used progress is refused**, and one with other progress goes its own way: neither
touches the run or what it was given. -/
theorem Owns.beginWith (h : w.Owns call run p) (own : List Endpoint) (audience : Audience) (slot : Nat) :
    (w.beginWith own audience slot).Owns call run p := by
  refine ⟨?_, h.used⟩
  obtain ⟨hin, -⟩ := List.getElem?_eq_some_iff.1 h.there
  by_cases hslot : slot = run.progress
  · -- the progress has been used, so that the other call is refused
    subst hslot
    obtain ⟨f, -, hrefused⟩ := refuses_of_not_admits (List.getElem?_eq_some_iff.1 h.given).1
      (not_admits_of_used h.given h.used own) audience
    rw [hrefused]
    exact h.addRun fun attempt e hphase => by cases hphase
  · cases hp : w.progresses[slot]? with
    | none =>
      unfold World.beginWith
      rw [hp]
      exact h.toHolds
    | some q =>
      rw [beginWith_of_some hp]
      -- the other call has a run and a progress of its own
      exact (h.addRun fun attempt e hphase => by cases hphase).settle_other (Nat.ne_of_gt hin) hslot _

/-- **A step of another one changes nothing for a run.** -/
theorem owns_step (h : w.Owns call run p) (a : Action α) (hspares : a.Spares run.progress)
    (hforeign : a.outcomeFor? call = none) : (w.step a).Owns call run p := by
  cases a with
  | begin own audience =>
    have hadded : (w.addProgress own).Owns call run p := ⟨h.addProgress own, h.used⟩
    exact hadded.beginWith own audience _
  | beginWith own audience slot => exact h.beginWith own audience slot
  | resume other outcome =>
    refine ⟨h.resume_other ?_ outcome, h.used⟩
    rintro rfl
    simp [Action.outcomeFor?] at hforeign
  | change c => exact ⟨⟨h.there, h.given, h.apart⟩, h.used⟩
  | addProgress endpoints => exact ⟨h.addProgress endpoints, h.used⟩
  | moveProgress slot m => exact ⟨h.moveProgress hspares m, h.used⟩

/-! ## A run stands where its attempts have brought it -/

/-- A run stands so, whom it has tried included, or is stuck among live listeners. -/
inductive Follows (w : World α) (call : Nat) (own : List Endpoint) (audience : Audience) (slot : Nat)
    (s : Standing α) : Prop
  | rests (owns : w.Owns call ⟨own, audience, slot, s.phase, s.progress.attempted⟩ s.progress)
  | stuck (live : audience = .live) {invoked : List Endpoint} {p : Progress}
      (owns : w.Owns call ⟨own, audience, slot, .stuck, invoked⟩ p)

/-- A run waits for listeners for ever. -/
def IsStuck (w : World α) (call : Nat) : Prop := ∃ run, w.runs[call]? = some run ∧ run.phase = .stuck

/-- A run that is not stuck stands where its attempts have brought it. -/
theorem Follows.owns (h : w.Follows call own audience slot s)
    (hgoing : audience = .live → ¬ w.IsStuck call) :
    w.Owns call ⟨own, audience, slot, s.phase, s.progress.attempted⟩ s.progress := by
  cases h with
  | rests howns => exact howns
  | stuck hlive howns => exact absurd ⟨_, howns.there, rfl⟩ (hgoing hlive)

/-- A run that has come to a moment stands as the moment does. -/
theorem follows_settle {m : Moment α} (hholds : w.Holds call run p) (hm : m.ComesTo run.audience s)
    (hused : 0 < m.progress.attempts)
    (htried : s.progress.attempted = run.invoked ++ s.phase.endpoint?.toList) :
    (w.settle call run m).Follows call run.own run.audience run.progress s := by
  have hsettled := hholds.settle hused
  cases hm with
  | rest hprogress hphase =>
    rw [hprogress, hphase, ← htried] at hsettled
    exact .rests hsettled
  | stuck hlive hphase =>
    rw [hphase] at hsettled
    exact .stuck hlive hsettled

/-- An attempt of the run ends: the run comes to the moment that the outcome brings it to, if it waits. A run
that has ended or is stuck takes no notice. -/
theorem Follows.resume (h : w.Follows call own audience slot s) (outcome : Outcome α) :
    (w.resume call outcome).Follows call own audience slot (s.take outcome) := by
  cases h with
  | stuck hlive howns =>
    rw [resume_of_idle howns.there fun attempt e hphase => by cases hphase]
    exact .stuck hlive howns
  | rests howns =>
    obtain ⟨p, phase⟩ := s
    cases phase with
    | attempting attempt e =>
      -- only here the outcome reaches anybody
      have hresume : w.resume call outcome =
          w.settle call ⟨own, audience, slot, .attempting attempt e, p.attempted⟩
            (Moment.resume w.population audience call attempt e outcome p w.observers) := by
        simp [World.resume, howns.there, howns.given]
      have hgrows := (Moment.advances_resume w.population audience call attempt e outcome p
        w.observers).grows
      rw [hresume]
      exact follows_settle howns.toHolds (Moment.comesTo_resume attempt e outcome p)
        (Nat.lt_of_lt_of_le howns.used hgrows.attempts_le) (Standing.attempted_take rfl outcome)
    | ended _ | stuck =>
      rw [resume_of_idle howns.there fun attempt e hphase => by cases hphase]
      exact .rests howns

/-- **One step**, by whomever: only the end of an attempt of the run moves it. -/
theorem follows_step (h : w.Follows call own audience slot s) (a : Action α) (hspares : a.Spares slot) :
    (w.step a).Follows call own audience slot (s.afterAll (a.outcomeFor? call).toList) := by
  cases houtcome : a.outcomeFor? call with
  | none =>
    cases h with
    | rests howns => exact .rests (owns_step howns a hspares houtcome)
    | stuck hlive howns => exact .stuck hlive (owns_step howns a hspares houtcome)
  | some outcome =>
    obtain rfl := Action.eq_resume houtcome
    exact h.resume outcome

/-- **Any steps.** -/
theorem follows_steps (h : w.Follows call own audience slot s) (actions : List (Action α))
    (hspares : ∀ a ∈ actions, a.Spares slot) :
    (w.steps actions).Follows call own audience slot (s.afterAll (outcomesFor call actions)) := by
  -- induction on the steps: what the others do between two attempts leaves no mark
  induction actions generalizing w s with
  | nil => exact h
  | cons a rest ih =>
    have hrest := ih (follows_step h a (hspares a (by simp))) fun a ha => hspares a (by simp [ha])
    rwa [outcomesFor_cons, Standing.afterAll, List.foldl_append]

/-- Outcomes that are given one after the other bring a run where they bring it when others act in between. -/
theorem Follows.feed (h : w.Follows call own audience slot s) (outcomes : List (Outcome α)) :
    (w.feed call outcomes).Follows call own audience slot (s.afterAll outcomes) := by
  induction outcomes generalizing w s with
  | nil => exact h
  | cons outcome rest ih => exact ih (h.resume outcome)

/-! ## A run begins -/

/-- Progress that a call is let pass with is new, but for the failures that it recalls. -/
theorem onward_of_accept (hsound : w.Sound) (hown : own ≠ []) (hp : w.progresses[slot]? = some p)
    (haccept : p.accept own = .ok ()) :
    (Standing.onward p : Standing α) = .onward ((Progress.start own).recalling p.errors) := by
  obtain ⟨hunused, hmembers⟩ := Progress.accept_eq_ok_iff.1 haccept
  have hattempted : p.attempted = [] := List.length_eq_zero_iff.1 hunused
  have hwhole := hsound.whole slot p hp
  rw [hattempted, List.nil_append, hmembers] at hwhole
  obtain ⟨e, rest, rfl⟩ := List.exists_cons_of_ne_nil hown
  simp [Standing.onward, Progress.next, Progress.recalling, Progress.start, hwhole, hattempted, hmembers]

/-- A call that gets past the guard goes on as if its progress were new, but for the failures that the
progress recalls. -/
theorem follows_beginWith (hsound : w.Sound) (hown : own ≠ []) (hp : w.progresses[slot]? = some p)
    (haccept : p.accept own = .ok ()) (audience : Audience) :
    (w.beginWith own audience slot).Follows w.runs.length own audience slot
      (.onward ((Progress.start own).recalling p.errors)) := by
  have hholds : (w.addRun ⟨own, audience, slot, .stuck, []⟩).Holds w.runs.length
      ⟨own, audience, slot, .stuck, []⟩ p := by
    refine ⟨by simp [addRun], hp, fun other run' attempt e hrun' hphase hsame => ?_⟩
    -- by this progress nobody has been tried, and a run that waits has tried somebody
    rw [addRun] at hrun'
    rcases Nat.lt_trichotomy other w.runs.length with hlt | heq | hgt
    · rw [List.getElem?_append_left hlt] at hrun'
      obtain ⟨q, hq, hused⟩ := hsound.used other run' attempt e hrun' hphase
      have hunused := (Progress.accept_eq_ok_iff.1 haccept).1
      rw [hsame, hp] at hq
      cases hq
      omega
    · exact heq
    · rw [List.getElem?_eq_none (by simp; omega)] at hrun'
      cases hrun'
  obtain ⟨q, hq, hused⟩ := used_of_admits hsound hown ⟨p, hp, haccept⟩ audience
  rw [beginWith_of_some hp] at hq ⊢
  rw [progresses_settle _ hholds.given] at hq
  cases hq
  rw [Moment.begin, haccept] at hused ⊢
  rw [← onward_of_accept hsound hown hp haccept]
  refine follows_settle hholds (Moment.comesTo_proceed p) hused ?_
  rw [Standing.attempted_onward, List.length_eq_zero_iff.1 (Progress.accept_eq_ok_iff.1 haccept).1]

/-- A call without progress gets new progress, and so past the guard. -/
theorem follows_begin (hsound : w.Sound) (hown : own ≠ []) (audience : Audience) :
    (w.begin own audience).Follows w.runs.length own audience w.progresses.length
      (.onward (.start own)) := by
  have hfresh : (w.addProgress own).progresses[w.progresses.length]? = some (.start own) := by
    simp [addProgress]
  exact follows_beginWith ((evolves_addProgress own w).sound hsound) hown hfresh
    (Progress.accept_eq_ok_iff.2 ⟨rfl, rfl⟩) audience

/-! ## What progress tells -/

/-- **Progress tells where its call stands**, at every rest and whatever else is going on, as long as it is
moved by nobody but its call. It has tried the first members in order. While an attempt is under way, and after it has
been cancelled there, its member is the last one that has been tried and every member before it has failed. After a
success nothing is under way, and all but the last attempt have failed; when all members have failed, each of them has
its failure. A failure that cannot be shown is recorded before it ends the call. The failures are those of the attempts
in order, and none of them is ever changed or lost. -/
theorem progress_tells (hreachable : w.Reachable) (hown : own ≠ [])
    (hfresh : w.progresses[slot]? = some (.start own)) (audience : Audience)
    (later : List (Action α)) (hspares : ∀ a ∈ later, a.Spares slot) :
    let call := w.runs.length
    let after := (w.beginWith own audience slot).steps later
    ∃ run p, after.runs[call]? = some run ∧ after.progresses[slot]? = some p ∧
      p.attempted <+: own ∧ p.attempts = p.attempted.length ∧
      p.Tells own (outcomesFor call later) run.phase ∧
      (run.phase ≠ .stuck → run.invoked = p.attempted) ∧
      (run.phase = .stuck → audience = .live) ∧
      ∀ more : List (Action α), ∃ p', (after.steps more).progresses[slot]? = some p' ∧
        p.errors <+: p'.errors := by
  intro call after
  have haccept : (Progress.start own).accept own = .ok () := Progress.accept_eq_ok_iff.2 ⟨rfl, rfl⟩
  have hevolves := (evolves_beginWith own audience slot w).trans (evolves_steps _ later)
  have hfollows := follows_steps (follows_beginWith hreachable.sound hown hfresh haccept audience)
    later hspares
  have hcomes := Standing.comesOf_afterAll own [] (outcomesFor call later)
  -- no member is lost, so what has been tried is the beginning
  have htried (p : Progress) (hp : after.progresses[slot]? = some p) : p.attempted <+: own := by
    obtain ⟨p', hp', hgrows⟩ := hevolves.grows slot _ hfresh
    obtain rfl : p = p' := Option.some.inj (hp.symm.trans hp')
    exact ⟨p.remaining, hgrows.whole⟩
  have hkept (p : Progress) (hp : after.progresses[slot]? = some p) (more : List (Action α)) :
      ∃ p', (after.steps more).progresses[slot]? = some p' ∧ p.errors <+: p'.errors := by
    obtain ⟨p', hp', hgrows⟩ := (evolves_steps after more).grows slot p hp
    exact ⟨p', hp', hgrows.errors⟩
  cases hfollows with
  | rests howns =>
    exact ⟨_, _, howns.there, howns.given, htried _ howns.given, rfl, hcomes.tells, fun _ => rfl,
      fun hstuck => absurd hstuck hcomes.phase_ne_stuck, hkept _ howns.given⟩
  | stuck hlive howns =>
    exact ⟨_, _, howns.there, howns.given, htried _ howns.given, rfl, trivial,
      fun hgoing => absurd rfl hgoing, fun _ => hlive, hkept _ howns.given⟩

/-- A call over two members. The first attempt fails, another call is refused the same progress, and then the
call is given up: what it has tried and why that failed can still be read. -/
theorem progress_tells_given_up :
    let members : List Endpoint := [⟨"http://etcd1:2379"⟩, ⟨"http://etcd2:2379"⟩]
    let w : World Nat := (World.quiet ⟨fun _ _ _ => .quiet, 1⟩).addProgress members
    let later : List (Action Nat) :=
      [.resume 0 (.raised .clientClosed), .beginWith members (.fixed []) 0, .resume 0 .cancelled]
    let after := (w.beginWith members .live 0).steps later
    w.Reachable ∧ members ≠ [] ∧ w.progresses[0]? = some (.start members) ∧
      (∀ a ∈ later, a.Spares 0) ∧ after.outcome? 0 = some .cancelled ∧
      ∃ p, after.progresses[0]? = some p ∧ p.IsTrying ⟨"http://etcd2:2379"⟩ ∧ p.errors.length = 1 := by
  intro members w later after
  have hreachable : w.Reachable := ⟨_, [.addProgress members], rfl⟩
  have hspares : ∀ a ∈ later, a.Spares 0 := by
    simp [later, Action.Spares]
  obtain ⟨run, p, hrun, hp, -, -, htells, -, -, -⟩ :=
    progress_tells hreachable (List.cons_ne_nil _ _) rfl .live later hspares
  have hended : run.phase = .ended .cancelled := by
    obtain rfl : _ = run := Option.some.inj hrun
    rfl
  rw [hended] at htells
  obtain ⟨⟨e, htrying⟩, -⟩ := htells
  obtain rfl : _ = p := Option.some.inj hp
  obtain rfl : _ = e := Option.some.inj htrying.inFlight
  exact ⟨hreachable, List.cons_ne_nil _ _, rfl, hspares, rfl, _, rfl, htrying, rfl⟩

end World

end ClusterClient
