import ClusterClient.Failover.World
import ClusterClient.Proofs.Failover.Settling

/-!
# Where a run stands after failures

How far a run has come is known from the failures of its attempts alone: after `k` of them the next member
is `own[k]`, and the run either waits for its attempt or, if there is none, has failed with all of them. This holds as
long as the failures can be shown, since the run ends with the first one that cannot.

## The architecture

* **`World.Reached`**: a run stands where some failures have brought it. The same formula covers a run
  that waits and one that has tried all its members.
* **`reached_beginWith`**, **`reached_begin`**: a run begins without any failure, with progress of its own
  or with progress that was made for it.
* **`Reached.resume_raised`**: the step of the invariant. One more failure brings the run to the next member.
* **`Reached.resume_returned`**, **`Reached.resume_cancelled`**, **`Reached.resume_mute`**: the three ways in which an
  attempt ends the run; **`Reached.resume_final`** covers them all.
* **`Reached.feed_raised`**: a whole run of failures, by induction on them.
-/

namespace ClusterClient

namespace Progress

/-- The progress of a call of whose attempts some have failed, and whose next one is under way if a member
is left for it. -/
def reached (own : List Endpoint) (errors : List Failure) : Progress :=
  ⟨own, own.drop (errors.length + 1), own.take (errors.length + 1), own[errors.length]?, errors⟩

/-- The progress of the same call before its cursor moves on to that member. -/
def beforeNext (own : List Endpoint) (errors : List Failure) (inFlight : Option Endpoint) : Progress :=
  ⟨own, own.drop errors.length, own.take errors.length, inFlight, errors⟩

/-- Moving on reaches the next member, and stays where it is if there is none. -/
theorem next_beforeNext {own : List Endpoint} {errors : List Failure} (inFlight : Option Endpoint)
    (hle : errors.length ≤ own.length) :
    (beforeNext own errors inFlight).next = (own[errors.length]?, reached own errors) := by
  rcases Nat.lt_or_eq_of_le hle with hlt | heq
  · -- a member is left: the cursor takes it from the remaining ones
    have hdrop : own.drop errors.length = own[errors.length] :: own.drop (errors.length + 1) :=
      List.drop_eq_getElem_cons hlt
    have htake : own.take errors.length ++ [own[errors.length]] = own.take (errors.length + 1) :=
      List.take_append_getElem hlt
    simp only [next, beforeNext, hdrop, htake, List.getElem?_eq_getElem hlt, reached]
  · -- all members have been tried: nothing remains, and nothing is tried
    have htake : own.take (own.length + 1) = own := List.take_of_length_le (by omega)
    simp [next, beforeNext, reached, heq, htake]

theorem recordFailure_reached (own : List Endpoint) (errors : List Failure) (f : Failure) :
    (reached own errors).recordFailure f = beforeNext own (errors ++ [f]) none := by
  simp [recordFailure, reached, beforeNext]

end Progress

/-- Where a run over members stands after some failures: the attempt against the next member is under way,
or all have failed. -/
def Phase.reached {α : Type} (own : List Endpoint) (errors : List Failure) : Phase α :=
  match own[errors.length]? with
  | some e => .attempting errors.length e
  | none => .ended (.raised (.ofMembers errors own))

/-- The attempt that is under way then is the one against the next member. -/
theorem Phase.endpoint?_reached {α : Type} (own : List Endpoint) (errors : List Failure) :
    (Phase.reached own errors : Phase α).endpoint? = own[errors.length]? := by
  unfold Phase.reached
  split
  · next h => rw [h]; rfl
  · next h => rw [h]; rfl

/-! ## From one rest to the next

Between two rests a run only tells events. An audience that settles lets each of them end, so that the
run comes to its next rest. -/

namespace Moment

variable {α : Type} {population : Population} {audience : Audience} {call : Nat} {o : Observers}

/-- An event that ends leaves the run where it is to go, among observers whose further events end as well. -/
theorem tell_of_settles (h : audience.Settles population call o) (event : Event) (p : Progress)
    (phase : Phase α) :
    ∃ o', tell population audience call event p o phase = ⟨p, o', phase⟩ ∧
      audience.Settles population call o' := by
  obtain ⟨o', hsome, ho'⟩ := h.emit event
  exact ⟨o', by rw [tell, hsome], ho'⟩

/-- Going on after some failures reaches the rest that those failures determine: the attempt against the next
member if there is one, and the end of the run otherwise. In both cases one event is told, and it ends. -/
theorem proceed_beforeNext (α : Type) (h : audience.Settles population call o) (own : List Endpoint)
    (errors : List Failure) (inFlight : Option Endpoint) (hle : errors.length ≤ own.length) :
    ∃ o', (proceed population audience call (.beforeNext own errors inFlight) o : Moment α)
        = ⟨.reached own errors, o', .reached own errors⟩ ∧
      audience.Settles population call o' := by
  rw [proceed, Progress.next_beforeNext inFlight hle]
  unfold Phase.reached
  rcases Nat.lt_or_eq_of_le hle with hlt | heq
  · have hattempts : (Progress.reached own errors).attempts - 1 = errors.length := by
      simp only [Progress.attempts, Progress.reached, List.length_take]
      omega
    simp only [List.getElem?_eq_getElem hlt, hattempts]
    exact tell_of_settles h _ _ _
  · have hnone : own[errors.length]? = none := List.getElem?_eq_none (by omega)
    have hall : (Progress.reached own errors).attempted = own :=
      List.take_of_length_le (by omega)
    simp only [hnone, hall]
    exact tell_of_settles h _ _ _

end Moment

namespace World

variable {α : Type}

/-- A run stands where some failures of its attempts have brought it. All of them can be shown. -/
structure Reached (w : World α) (call : Nat) (own : List Endpoint) (audience : Audience)
    (progress : Nat) (errors : List Failure) : Prop where
  run : w.runs[call]? =
    some ⟨own, audience, progress, .reached own errors, own.take (errors.length + 1)⟩
  progress : w.progresses[progress]? = some (.reached own errors)
  settles : audience.Settles w.population call w.observers
  within : errors.length ≤ own.length
  speaks : ∀ f ∈ errors, f.Speaks

variable {w : World α} {call slot : Nat} {own : List Endpoint} {audience : Audience}
  {errors : List Failure}

/-- The run that stands at its position after it has come to a rest. -/
theorem runs_settle {run run' : Run α} (h : w.runs[call]? = some run) (m : Moment α) :
    (w.settle call run' m).runs[call]? =
      some { run' with phase := m.phase, invoked := run'.invoked ++ m.phase.endpoint?.toList } := by
  obtain ⟨hlt, -⟩ := List.getElem?_eq_some_iff.1 h
  simp [settle, hlt]

/-- The progress that stands at its position after its run has come to a rest. -/
theorem progresses_settle (run : Run α) {p : Progress} (h : w.progresses[run.progress]? = some p)
    (m : Moment α) : (w.settle call run m).progresses[run.progress]? = some m.progress := by
  obtain ⟨hlt, -⟩ := List.getElem?_eq_some_iff.1 h
  simp [settle, hlt]

/-- A run that comes to the rest that some failures determine has reached it, if its members before that
rest are known. -/
theorem reached_settle (run : Run α) (errors : List Failure) {p : Progress} {o : Observers}
    (hrun : w.runs[call]? = some run) (hprogress : w.progresses[run.progress]? = some p)
    (hinvoked : run.invoked = run.own.take errors.length) (hle : errors.length ≤ run.own.length)
    (hspeaks : ∀ f ∈ errors, f.Speaks) (hsettles : run.audience.Settles w.population call o) :
    (w.settle call run ⟨.reached run.own errors, o, .reached run.own errors⟩).Reached call run.own
      run.audience run.progress errors where
  run := by
    rw [runs_settle hrun, Phase.endpoint?_reached, hinvoked, ← List.take_add_one]
  progress := progresses_settle run hprogress _
  settles := hsettles
  within := hle
  speaks := hspeaks

/-! ## A run begins -/

/-- A run that is given progress made for its members begins with the first of them. The progress is accepted,
as nobody has been tried with it, and the first event is over at some time. -/
theorem reached_beginWith (w : World α) (hfresh : w.progresses[slot]? = some (.start own))
    (hsettles : audience.Settles w.population w.runs.length w.observers) :
    (w.beginWith own audience slot).Reached w.runs.length own audience slot [] := by
  obtain ⟨o', hmoment, ho'⟩ :=
    Moment.proceed_beforeNext α hsettles own [] none (Nat.zero_le _)
  have haccept : (Progress.start own).accept own = .ok () := by
    simp [Progress.accept, Progress.start, Progress.attempts]
  have hbegin : Moment.begin w.population audience w.runs.length own (.start own) w.observers =
      (⟨.reached own [], o', .reached own []⟩ : Moment α) := by
    rw [Moment.begin, haccept]
    exact hmoment
  rw [beginWith, hfresh]
  simp only [hbegin]
  exact reached_settle ⟨own, audience, slot, .stuck, []⟩ [] (by simp) hfresh rfl (Nat.zero_le _) nofun ho'

/-- A run that is given no progress begins with progress of its own. -/
theorem reached_begin (hsettles : audience.Settles w.population w.runs.length w.observers) :
    (w.begin own audience).Reached w.runs.length own audience w.progresses.length [] :=
  (w.addProgress own).reached_beginWith (by simp [addProgress]) hsettles

/-! ## An attempt ends -/

namespace Reached

theorem awaited (h : w.Reached call own audience slot errors) (hlt : errors.length < own.length) :
    w.awaited? call = some (errors.length, own[errors.length]) := by
  simp [awaited?, h.run, Phase.reached, List.getElem?_eq_getElem hlt]

theorem outcome_of_lt (h : w.Reached call own audience slot errors)
    (hlt : errors.length < own.length) : w.outcome? call = none := by
  simp [outcome?, h.run, Phase.reached, List.getElem?_eq_getElem hlt]

/-- When every member has failed, the run has ended with all their failures: each of them could be shown, so that
they could be put together. -/
theorem ended_of_all (h : w.Reached call own audience slot errors) (hall : errors.length = own.length) :
    w.runs[call]? =
      some ⟨own, audience, slot, .ended (.raised (.cluster errors own)), own.take (errors.length + 1)⟩ := by
  have hnone : own[errors.length]? = none := List.getElem?_eq_none (by omega)
  rw [← Failure.ofMembers_of_speaks own h.speaks, h.run, Phase.reached, hnone]

theorem outcome_of_all (h : w.Reached call own audience slot errors)
    (hall : errors.length = own.length) :
    w.outcome? call = some (.raised (.cluster errors own)) := by
  simp [outcome?, h.ended_of_all hall]

/-- The members that have been tried are the first ones, up to the one whose attempt is under way. -/
theorem invoked (h : w.Reached call own audience slot errors) :
    w.invoked call = own.take (errors.length + 1) := by
  simp [World.invoked, h.run]

/-- What an attempt that ends makes of the world. -/
theorem resume_eq (h : w.Reached call own audience slot errors) (hlt : errors.length < own.length)
    (outcome : Outcome α) :
    w.resume call outcome =
      w.settle call ⟨own, audience, slot, .reached own errors, own.take (errors.length + 1)⟩
        (Moment.resume w.population audience call errors.length own[errors.length] outcome
          (.reached own errors) w.observers) := by
  simp [resume, h.run, h.progress, Phase.reached, List.getElem?_eq_getElem hlt]

/-- **One more failure brings the run to the next member**, or to its end if there is none. The failure can be
shown, so that it is told; that comes to an end, and the run goes on with the member behind those that have
failed. -/
theorem resume_raised (h : w.Reached call own audience slot errors)
    (hlt : errors.length < own.length) {f : Failure} (hf : f.Speaks) :
    (w.resume call (.raised f)).Reached call own audience slot (errors ++ [f]) := by
  have hspeaks : ∀ g ∈ errors ++ [f], g.Speaks :=
    List.forall_mem_append.2 ⟨h.speaks, List.forall_mem_singleton.2 hf⟩
  have hnone : f.whyMute? = none := hf
  obtain ⟨o₁, hfail, ho₁⟩ := h.settles.emit ⟨.fail f, errors.length, some own[errors.length]⟩
  have hle : (errors ++ [f]).length ≤ own.length := by rw [List.length_append]; exact hlt
  obtain ⟨o₂, hproceed, ho₂⟩ :=
    Moment.proceed_beforeNext α ho₁ own (errors ++ [f]) none hle
  rw [h.resume_eq hlt]
  simp only [Moment.resume, Progress.recordFailure_reached, hnone, hfail, hproceed]
  exact reached_settle ⟨own, audience, slot, .reached own errors, own.take (errors.length + 1)⟩
    (errors ++ [f]) h.run h.progress (by simp) hle hspeaks ho₂

/-- An attempt that gives a value ends the run with it, and tries nobody else. The progress has nobody in flight
by then, and keeps the failures there were before. -/
theorem resume_returned (h : w.Reached call own audience slot errors)
    (hlt : errors.length < own.length) (value : α) :
    (w.resume call (.returned value)).runs[call]? =
        some ⟨own, audience, slot, .ended (.returned value), own.take (errors.length + 1)⟩ ∧
      (w.resume call (.returned value)).progresses[slot]? =
        some (Progress.reached own errors).land := by
  obtain ⟨o', htell, -⟩ := Moment.tell_of_settles h.settles
    ⟨.success errors.length, errors.length, some own[errors.length]⟩
    (Progress.reached own errors).land (.ended (.returned value) : Phase α)
  rw [h.resume_eq hlt]
  simp only [Moment.resume, show (Progress.reached own errors).errors = errors from rfl, htell]
  exact ⟨by rw [runs_settle h.run]; simp [Phase.endpoint?],
    progresses_settle ⟨own, audience, slot, .reached own errors, own.take (errors.length + 1)⟩
      h.progress _⟩

/-- A cancelled attempt ends the run, tries nobody else and leaves the progress as it is. -/
theorem resume_cancelled (h : w.Reached call own audience slot errors)
    (hlt : errors.length < own.length) :
    (w.resume call .cancelled).runs[call]? =
        some ⟨own, audience, slot, .ended .cancelled, own.take (errors.length + 1)⟩ ∧
      (w.resume call .cancelled).progresses[slot]? = some (.reached own errors) := by
  rw [h.resume_eq hlt]
  simp only [Moment.resume]
  exact ⟨by rw [runs_settle h.run]; simp [Phase.endpoint?],
    progresses_settle ⟨own, audience, slot, .reached own errors, own.take (errors.length + 1)⟩
      h.progress _⟩

/-- A failure that cannot be shown is recorded, and ends the run with what showing it has failed with. Nobody else is
tried, however many members are left. -/
theorem resume_mute (h : w.Reached call own audience slot errors) (hlt : errors.length < own.length)
    {f why : Failure} (hwhy : f.whyMute? = some why) :
    (w.resume call (.raised f)).runs[call]? =
        some ⟨own, audience, slot, .ended (.raised why), own.take (errors.length + 1)⟩ ∧
      (w.resume call (.raised f)).progresses[slot]? = some ((Progress.reached own errors).recordFailure f) := by
  rw [h.resume_eq hlt]
  simp only [Moment.resume, hwhy]
  exact ⟨by rw [runs_settle h.run]; simp [Phase.endpoint?],
    progresses_settle ⟨own, audience, slot, .reached own errors, own.take (errors.length + 1)⟩
      h.progress _⟩

/-- **An attempt that the run does not go on from ends it**, and tries nobody else. If the attempt has failed, this is
recorded as well. -/
theorem resume_final (h : w.Reached call own audience slot errors) (hlt : errors.length < own.length)
    {outcome last : Outcome α} (hfinal : outcome.final? = some last) :
    (w.resume call outcome).runs[call]? =
        some ⟨own, audience, slot, .ended last, own.take (errors.length + 1)⟩ ∧
      ((w.resume call outcome).progresses[slot]?).map Progress.errors = some (errors ++ outcome.failures) := by
  cases outcome with
  | returned value =>
    obtain rfl := Option.some.inj hfinal
    obtain ⟨hrun, hprogress⟩ := h.resume_returned hlt value
    exact ⟨hrun, by simp [hprogress, Outcome.failures, Progress.land, Progress.reached]⟩
  | cancelled =>
    obtain rfl := Option.some.inj hfinal
    obtain ⟨hrun, hprogress⟩ := h.resume_cancelled hlt
    exact ⟨hrun, by simp [hprogress, Outcome.failures, Progress.reached]⟩
  | raised f =>
    obtain ⟨why, hwhy, rfl⟩ := Option.map_eq_some_iff.1 hfinal
    obtain ⟨hrun, hprogress⟩ := h.resume_mute hlt hwhy
    exact ⟨hrun, by simp [hprogress, Outcome.failures, Progress.recordFailure, Progress.reached]⟩

/-- **A whole run of failures** that can all be shown. -/
theorem feed_raised (h : w.Reached call own audience slot errors) {more : List Failure}
    (hspeaks : ∀ f ∈ more, f.Speaks) (hle : errors.length + more.length ≤ own.length) :
    (w.feed call (more.map .raised)).Reached call own audience slot (errors ++ more) := by
  -- induction on the failures: each one brings the run one member further, as long as there are members
  induction more generalizing w errors with
  | nil => simpa [feed] using h
  | cons f rest ih =>
    rw [List.length_cons] at hle
    have hnext := h.resume_raised (by omega) (hspeaks f List.mem_cons_self)
    have hrest := ih hnext (fun g hg => hspeaks g (List.mem_cons_of_mem f hg))
      (by simp only [List.length_append, List.length_singleton]; omega)
    simpa [feed] using hrest

end Reached

/-! ## A run that does not wait -/

/-- Nothing happens to a run that does not wait. -/
theorem resume_of_idle {run : Run α} (hrun : w.runs[call]? = some run)
    (hidle : ∀ attempt e, run.phase ≠ .attempting attempt e) (outcome : Outcome α) :
    w.resume call outcome = w := by
  unfold resume
  rw [hrun]
  split
  · rfl
  · next heq =>
    cases heq
    split
    · next attempt e _ hphase _ => exact absurd hphase (hidle attempt e)
    · rfl

/-- Nothing happens any more to a run that has ended. -/
theorem feed_of_ended {run : Run α} {outcome : Outcome α} (hrun : w.runs[call]? = some run)
    (hended : run.phase = .ended outcome) (outcomes : List (Outcome α)) :
    w.feed call outcomes = w := by
  induction outcomes with
  | nil => rfl
  | cons first rest ih =>
    have hidle : ∀ attempt e, run.phase ≠ .attempting attempt e := by
      intro attempt e hphase
      rw [hended] at hphase
      cases hphase
    rw [feed, List.foldl_cons, resume_of_idle hrun hidle]
    exact ih

end World

end ClusterClient
