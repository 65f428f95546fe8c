import ClusterClient.Proofs.Client.Isolation

/-!
# Calls at rest

Between two steps of a client, each of its calls has ended or waits for the answer to a request. A request
that cannot be made leads to the next member, so that this takes a measure:

* **`Standing.Within`**: a call has ended, or has fewer members left than a number. This is what the patience
  of `advance` is compared with.
* **`Stands`**: at a rest, a call has ended or waits for an answer. **`Goes.advance`** is the induction on
  the patience, **`stands_step`** one step, and **`Reachable.stands`** every client that there is.
* **`unheard_steps`**: a call that hears nothing shows what it has shown before.
-/

namespace ClusterClient

/-! ## How many members are left to a call -/

namespace Standing

variable {α : Type} {n : Nat} {s : Standing α}

/-- A call has ended, or fewer members than a number are left to it besides the one it is trying. -/
inductive Within (n : Nat) (s : Standing α) : Prop where
  | ended {outcome : Outcome α} (phase : s.phase = .ended outcome)
  | attempting {attempt : Nat} {e : Endpoint} (phase : s.phase = .attempting attempt e)
      (left : s.progress.remaining.length < n)

/-- The next attempt takes one of the members that are left. -/
theorem within_onward {p : Progress} (hleft : p.remaining.length ≤ n) :
    (onward p : Standing α).Within n := by
  unfold onward Progress.next
  cases hremaining : p.remaining with
  | nil => exact .ended rfl
  | cons e rest =>
    rw [hremaining, List.length_cons] at hleft
    exact .attempting rfl hleft

/-- The end of an attempt leaves one member less, or ends the call. A failure is recorded and leads to the next
member if it can be shown; all other ends leave no member to be tried. -/
theorem Within.take (h : s.Within (n + 1)) (outcome : Outcome α) : (s.take outcome).Within n := by
  obtain ⟨p, phase⟩ := s
  cases h with
  | ended hphase =>
    obtain rfl : phase = _ := hphase
    exact .ended rfl
  | attempting hphase hleft =>
    obtain rfl : phase = _ := hphase
    cases outcome with
    | returned value => exact .ended rfl
    | cancelled => exact .ended rfl
    | raised f =>
      unfold Standing.take
      dsimp only
      -- a failure that cannot be shown ends the call, and any other one leads to the next member
      cases f.whyMute? with
      | some why => exact .ended rfl
      | none =>
        have hrecorded : (p.recordFailure f).remaining.length ≤ n := Nat.le_of_lt_succ hleft
        exact within_onward hrecorded

end Standing

namespace Client

variable {c c' : Client} {call : Nat}

/-! ## Where a call stands at a rest -/

/-- At a rest a call has ended, or its request waits for the answer while fewer members are left to it than
the client has. -/
inductive Stands (c : Client) (call : Nat) : Prop where
  | ended {run : Run Response} {outcome : Outcome Response} {spec : RequestSpec}
      (there : c.failover.runs[call]? = some run) (phase : run.phase = .ended outcome)
      (asks : c.calls[call]? = some ⟨spec, none⟩)
  | waiting {spec : RequestSpec} {listeners : List Listener} {slot attempt : Nat} {p : Progress}
      {e : Endpoint} {pending : Pending}
      (follows : c.failover.Follows call c.endpoints (.fixed listeners) slot ⟨p, .attempting attempt e⟩)
      (asks : c.calls[call]? = some ⟨spec, some pending⟩)
      (left : p.remaining.length < c.endpoints.length)

/-- The run of a call stands so, and the call is to make its next request if it needs one. -/
structure Goes (c : Client) (call : Nat) (s : Standing Response) (spec : RequestSpec)
    (listeners : List Listener) (slot : Nat) : Prop where
  follows : c.failover.Follows call c.endpoints (.fixed listeners) slot s
  asks : c.calls[call]? = some ⟨spec, none⟩

namespace Goes

variable {s : Standing Response} {spec : RequestSpec} {listeners : List Listener} {slot : Nat}

theorem owns (h : c.Goes call s spec listeners slot) :
    c.failover.Owns call ⟨c.endpoints, .fixed listeners, slot, s.phase, s.progress.attempted⟩ s.progress :=
  h.follows.owns fun hlive => by cases hlive

/-- A call that has ended makes no request. -/
theorem stands_of_ended (h : c.Goes call s spec listeners slot) {outcome : Outcome Response}
    (hphase : s.phase = .ended outcome) (patience : Nat) : (c.advance call patience).Stands call := by
  have hthere := h.owns.there
  have hnobody : c.failover.awaited? call = none := by simp [World.awaited?, hthere, hphase]
  rw [advance_of_awaited_none hnobody]
  exact .ended hthere hphase h.asks

/-- **The next request is made**, so that the call stands at a rest: its request waits, or the call has ended.
Every request that cannot be made costs one member and one unit of patience. -/
theorem advance {patience : Nat} (h : c.Goes call s spec listeners slot) (hwithin : s.Within patience)
    (hle : patience ≤ c.endpoints.length) : (c.advance call patience).Stands call := by
  -- induction on the patience, which suffices for the members that are left: each of them that cannot be
  -- asked is one less
  induction patience generalizing c s with
  | zero =>
    cases hwithin with
    | ended hphase => exact h.stands_of_ended hphase 0
    | attempting hphase hleft => exact absurd hleft (Nat.not_lt_zero _)
  | succ patience ih =>
    cases hwithin with
    | ended hphase => exact h.stands_of_ended hphase _
    | @attempting attempt e hphase hleft =>
      have hwithin : s.Within (patience + 1) := .attempting hphase hleft
      have hthere := h.owns.there
      have hawaited : c.failover.awaited? call = some (attempt, e) := by
        simp [World.awaited?, hthere, hphase]
      have hsettings := Transport.settings_dispatch c.transport spec e
      have hfollows := h.follows
      obtain ⟨p, phase⟩ := s
      obtain rfl : phase = .attempting attempt e := hphase
      obtain ⟨hin, -⟩ := List.getElem?_eq_some_iff.1 h.asks
      rw [Client.advance, hawaited, h.asks]
      dsimp only
      generalize c.transport.dispatch spec e = made at hsettings ⊢
      obtain ⟨t, result⟩ := made
      -- the members are those of the settings, which no request changes
      have hmembers (failover : World Response) (calls : List Call) :
          (⟨t, failover, calls, c.fans⟩ : Client).endpoints = c.endpoints :=
        congrArg ResolvedSettings.endpoints hsettings
      cases result with
      | ok pending =>
        have hleft : p.remaining.length < c.endpoints.length := Nat.lt_of_lt_of_le hleft hle
        rw [← hmembers c.failover (c.calls.set call ⟨spec, some pending⟩)] at hfollows hleft
        have hasks : (c.calls.set call ⟨spec, some pending⟩)[call]? = some ⟨spec, some pending⟩ := by
          simp [hin]
        exact .waiting hfollows hasks hleft
      | error f =>
        have hfailed := hfollows.resume (.raised f)
        rw [← hmembers (c.failover.resume call (.raised f)) c.calls] at hfailed hle
        exact ih ⟨hfailed, h.asks⟩ (hwithin.take (.raised f)) (Nat.le_of_succ_le hle)

end Goes

namespace Stands

/-- A call that waits for nothing has ended. -/
theorem outcome_of_no_pending (h : c.Stands call) (hpending : c.pending? call = none) :
    ∃ outcome, c.outcome? call = some outcome := by
  cases h with
  | @ended run outcome spec hthere hphase hasks =>
    exact ⟨outcome, by simp [outcome?, World.outcome?, hthere, hphase]⟩
  | waiting hfollows hasks hleft =>
    simp [pending?, hasks] at hpending

/-- A call that stands somewhere is one of those that have begun. -/
theorem lt (h : c.Stands call) : call < c.failover.runs.length := by
  cases h with
  | ended hthere hphase hasks => exact (List.getElem?_eq_some_iff.1 hthere).1
  | waiting hfollows hasks hleft =>
    exact (List.getElem?_eq_some_iff.1 (hfollows.owns fun hlive => by cases hlive).there).1

/-- Others leave a call where it stands. A call that has ended stays so; one that waits has its request and its
progress to itself, and what others do tells it no outcome. -/
theorem left (h : c.Stands call) (hleaves : Leaves call c c') (hcontinues : c.Continues c') :
    c'.Stands call := by
  cases h with
  | ended hthere hphase hasks =>
    exact .ended (hcontinues.ended hthere hphase) hphase (hleaves.calls _ hasks)
  | @waiting spec listeners slot attempt p e pending hfollows hasks hleft =>
    obtain ⟨actions, hactions, hforeign⟩ := hleaves.failover
    have hsteps := World.follows_steps hfollows actions fun a ha => (hforeign a ha).2 slot
    have hnothing : World.outcomesFor call actions = [] :=
      List.filterMap_eq_nil_iff.2 fun a ha => (hforeign a ha).1
    have hmembers : c'.endpoints = c.endpoints := congrArg ResolvedSettings.endpoints hleaves.settings
    rw [hnothing, ← hactions, ← hmembers] at hsteps
    rw [← hmembers] at hleft
    exact .waiting hsteps (hleaves.calls _ hasks) hleft

/-- The answer ends the attempt, and the next request is made if a member is left. An answer to a call that
waits for nobody is lost. -/
theorem answer (h : c.Stands call) (a : Answer) : (c.answer call a).Stands call := by
  cases h with
  | ended hthere hphase hasks =>
    have hnobody : c.failover.awaited? call = none := by simp [World.awaited?, hthere, hphase]
    rw [Client.answer, hnobody]
    exact .ended hthere hphase hasks
  | @waiting spec listeners slot attempt p e pending hfollows hasks hleft =>
    have hthere := (hfollows.owns fun hlive => by cases hlive).there
    have hawaited : c.failover.awaited? call = some (attempt, e) := by simp [World.awaited?, hthere]
    have hsettings := (Transport.sameConnection_conclude c.transport spec e pending.request a).settings
    obtain ⟨hin, -⟩ := List.getElem?_eq_some_iff.1 hasks
    have hanswered : (c.calls.set call ⟨spec, none⟩)[call]? = some ⟨spec, none⟩ := by simp [hin]
    rw [answer_eq hawaited hasks]
    generalize c.transport.conclude spec e pending.request a = concluded at hsettings ⊢
    obtain ⟨t, outcome⟩ := concluded
    let heard : Client := ⟨t, c.failover.resume call outcome, c.calls.set call ⟨spec, none⟩, c.fans⟩
    have hmembers : heard.endpoints = c.endpoints := congrArg ResolvedSettings.endpoints hsettings
    -- one member less is left, so that the patience of one for each member suffices
    have hwithin : (Standing.take ⟨p, .attempting attempt e⟩ outcome).Within c.endpoints.length :=
      Standing.Within.take (.attempting rfl (Nat.lt_succ_of_lt hleft)) outcome
    have hresumed := hfollows.resume outcome
    rw [← hmembers] at hresumed hwithin
    have hgoes : heard.Goes call (Standing.take ⟨p, .attempting attempt e⟩ outcome) spec listeners slot :=
      ⟨hresumed, hanswered⟩
    have hstands := hgoes.advance hwithin (Nat.le_refl _)
    rwa [hmembers] at hstands

/-- A call that is cancelled has ended. -/
theorem cancel (h : c.Stands call) : (c.cancel call).Stands call := by
  cases h with
  | ended hthere hphase hasks =>
    rw [Client.cancel, hasks]
    exact .ended hthere hphase hasks
  | @waiting spec listeners slot attempt p e pending hfollows hasks hleft =>
    obtain ⟨hin, -⟩ := List.getElem?_eq_some_iff.1 hasks
    have hcancelled : (c.calls.set call ⟨spec, none⟩)[call]? = some ⟨spec, none⟩ := by simp [hin]
    have howns := (hfollows.resume .cancelled).owns fun hlive => by cases hlive
    rw [cancel_eq hasks]
    exact .ended howns.there rfl hcancelled

end Stands

/-- A step that tells a call something is the answer to its request or its cancellation. The other steps are
about other calls, about calls to all members, or about the client as a whole. -/
theorem Action.eq_of_signal {a : Action} {signal : Signal} (h : a.signal? call = some signal) :
    a = .ofSignal call signal := by
  cases a with
  | answer other a =>
    simp only [signal?] at h
    split at h
    · next hsame => subst hsame; cases h; rfl
    · cases h
  | cancel other =>
    simp only [signal?] at h
    split at h
    · next hsame => subst hsame; cases h; rfl
    · cases h
  | _ => cases h

/-- **One step** leaves every call that is there at a rest. A signal to the call makes its next request; any
other step leaves the call alone, and closing the client only changes what later requests find. -/
theorem stands_step (h : c.Stands call) (a : Action) : (c.step a).Stands call := by
  cases hsignal : a.signal? call with
  | some signal =>
    rw [Action.eq_of_signal hsignal]
    cases signal with
    | answer a => exact h.answer a
    | cancel => exact h.cancel
  | none =>
    by_cases hclose : a = .close
    · -- closing touches neither the runs nor what the calls ask
      subst hclose
      have hmembers : (c.step .close).endpoints = c.endpoints :=
        congrArg ResolvedSettings.endpoints (continues_step c .close).settings
      cases h with
      | ended hthere hphase hasks => exact .ended hthere hphase hasks
      | waiting hfollows hasks hleft =>
        rw [← hmembers] at hfollows hleft
        exact .waiting hfollows hasks hleft
    · exact h.left (leaves_step c hclose (Nat.ne_of_lt h.lt) hsignal) (continues_step c a)

/-! ### A call begins -/

/-- To make the requests of a call begins no other one. -/
theorem Advances.length_runs {other : Nat} (h : Advances other c c') :
    c'.failover.runs.length = c.failover.runs.length := by
  induction h with
  | still => rfl
  | asked => rfl
  | abandoned => rfl
  | passed _ _ ih => exact ih.trans (World.length_runs_resume _ _ _)

/-- Only a step that begins a call makes it one more. All others resume runs that are there, or have nothing to
do with runs. -/
theorem length_runs_step (c : Client) (a : Action) (hexecute : ∀ spec, a ≠ .execute spec)
    (hexecuteWith : ∀ spec progress, a ≠ .executeWith spec progress) :
    (c.step a).failover.runs.length = c.failover.runs.length := by
  cases a with
  | execute spec => exact absurd rfl (hexecute spec)
  | executeWith spec progress => exact absurd rfl (hexecuteWith spec progress)
  | answer call a =>
    simp only [step, answer]
    split
    · exact (advances _ _ _).length_runs.trans (World.length_runs_resume _ _ _)
    · rfl
  | cancel call =>
    simp only [step, cancel]
    split
    · exact World.length_runs_resume _ _ _
    · rfl
  -- calls to all members, and what is done with them, leave the runs alone
  | fanOut spec =>
    simp only [step]
    cases h : c.fanOut spec with
    | error f => rfl
    | ok c' => exact congrArg (fun w => w.runs.length) (sameCalls_fanOut h).failover
  | startTask fan i => exact congrArg (fun w => w.runs.length) (sameCalls_startTask fan i c).failover
  | answerTask fan i a => exact congrArg (fun w => w.runs.length) (sameCalls_answerTask fan i a c).failover
  | nextItem fan => exact congrArg (fun w => w.runs.length) (sameCalls_nextItem fan c).failover
  | stopFan fan => exact congrArg (fun w => w.runs.length) (sameCalls_stopFan fan c).failover
  | change change => rfl
  | addProgress endpoints => rfl
  | close => rfl

end Client

/-- Without any member, a run that is let pass has failed by its first rest: there is nobody to be tried next,
so that it ends before any attempt begins. -/
theorem World.ended_beginWith_of_nobody {α : Type} {w : World α} {slot : Nat} {p : Progress}
    (hsound : w.Sound) (hp : w.progresses[slot]? = some p) (haccept : p.accept [] = .ok ())
    (listeners : List Listener) :
    ∃ run outcome, (w.beginWith [] (.fixed listeners) slot).runs[w.runs.length]? = some run ∧
      run.phase = .ended outcome := by
  have hthere : (w.addRun ⟨[], .fixed listeners, slot, .stuck, []⟩).runs[w.runs.length]? =
      some ⟨[], .fixed listeners, slot, .stuck, []⟩ := by simp [World.addRun]
  -- progress that is let pass has the members of the run, which are none
  have hremaining : p.remaining = [] := by
    have hwhole := hsound.whole slot p hp
    rw [(Progress.accept_eq_ok_iff.1 haccept).2] at hwhole
    exact (List.append_eq_nil_iff.1 hwhole).2
  have hcomes : (Moment.proceed w.population (.fixed listeners) w.runs.length p w.observers : Moment α).ComesTo
      (.fixed listeners) (.onward p) := Moment.comesTo_proceed p
  have hended : (Standing.onward p : Standing α).phase = .ended (.raised (.ofMembers p.errors p.attempted)) := by
    simp [Standing.onward, Progress.next, hremaining]
  rw [World.beginWith_of_some hp, World.runs_settle hthere, Moment.begin, haccept]
  cases hcomes with
  | rest _ hphase => exact ⟨_, _, rfl, hphase.trans hended⟩
  | stuck hlive _ => cases hlive

namespace Client

variable {c c' : Client} {call : Nat}

/-- **A call that begins stands at its first rest**: it has been refused, or has found no member to try, or has made the
first request that it could. -/
theorem stands_withCall (hreachable : c.Reachable) (spec : RequestSpec) {slot : Nat}
    (hslot : slot < c.failover.progresses.length) :
    ((c.withCall spec slot).advance c.failover.runs.length c.endpoints.length).Stands
      c.failover.runs.length := by
  let listeners := c.failover.observers.registered
  let begun : Client := c.withCall spec slot
  have hasks : begun.calls[c.failover.runs.length]? = some ⟨spec, none⟩ := by
    simp [begun, withCall, ← hreachable.aligned]
  -- a call that has ended as soon as it has begun makes no request
  have hended {run : Run Response} {outcome : Outcome Response}
      (hthere : begun.failover.runs[c.failover.runs.length]? = some run)
      (hphase : run.phase = .ended outcome) :
      (begun.advance c.failover.runs.length c.endpoints.length).Stands c.failover.runs.length := by
    have hnobody : begun.failover.awaited? c.failover.runs.length = none := by
      simp [World.awaited?, hthere, hphase]
    rw [advance_of_awaited_none hnobody]
    exact .ended hthere hphase hasks
  have hp := List.getElem?_eq_getElem hslot
  cases haccept : c.failover.progresses[slot].accept c.endpoints with
  | error f =>
    obtain ⟨f', -, hrefused⟩ := World.refuses_of_accept hp haccept (.fixed listeners)
    have hthere : begun.failover.runs[c.failover.runs.length]? =
        some ⟨c.endpoints, .fixed listeners, slot, .ended (.raised f'), []⟩ := by
      show (c.failover.beginWith c.endpoints (.fixed listeners) slot).runs[_]? = _
      rw [hrefused]
      simp [World.addRun]
    exact hended hthere rfl
  | ok u =>
    by_cases hown : c.endpoints = []
    · rw [hown] at haccept
      obtain ⟨run, outcome, hthere, hphase⟩ :=
        World.ended_beginWith_of_nobody hreachable.sound hp haccept listeners
      rw [← hown] at hthere
      exact hended hthere hphase
    · have hfollows := World.follows_beginWith hreachable.sound hown hp haccept (.fixed listeners)
      have hgoes : begun.Goes c.failover.runs.length _ spec listeners slot := ⟨hfollows, hasks⟩
      exact hgoes.advance (Standing.within_onward (Nat.le_refl c.endpoints.length)) (Nat.le_refl _)

/-- A call that a step begins stands at its first rest. -/
theorem stands_of_executeWith (hreachable : c.Reachable) {spec : RequestSpec} {slot : Nat}
    (h : c.executeWith spec slot = .ok c') (hin : call < c'.failover.runs.length)
    (hnew : c.failover.runs.length ≤ call) : c'.Stands call := by
  obtain ⟨-, rfl⟩ | ⟨hslot, rfl⟩ := executeWith_cases h
  · -- there is no such progress, and no call begins
    omega
  · have hlength : ((c.withCall spec slot).advance c.failover.runs.length
        c.endpoints.length).failover.runs.length = c.failover.runs.length + 1 :=
      (advances _ _ _).length_runs.trans (World.length_runs_beginWith hslot _ _)
    obtain rfl : call = c.failover.runs.length := by omega
    exact stands_withCall hreachable spec hslot

/-- Whichever step begins a call, the call stands at its first rest. No other step begins one, so that the
position of the call tells which step it was. -/
theorem stands_of_begun (hreachable : c.Reachable) {a : Action}
    (hin : call < (c.step a).failover.runs.length) (hnew : c.failover.runs.length ≤ call) :
    (c.step a).Stands call := by
  have hother (hexecute : ∀ spec, a ≠ .execute spec)
      (hexecuteWith : ∀ spec progress, a ≠ .executeWith spec progress) : (c.step a).Stands call := by
    -- no other step begins a run, so that there is none at this position
    have hlength := length_runs_step c a hexecute hexecuteWith
    omega
  cases a with
  | execute spec =>
    simp only [Client.step] at hin ⊢
    cases h : c.execute spec with
    | error f =>
      simp only [h, Except.toOption, Option.getD] at hin
      omega
    | ok c' =>
      simp only [h, Except.toOption, Option.getD] at hin ⊢
      exact stands_of_executeWith (hreachable.step (.addProgress c.endpoints))
        (executeWith_of_execute h) hin hnew
  | executeWith spec slot =>
    simp only [Client.step] at hin ⊢
    cases h : c.executeWith spec slot with
    | error f =>
      simp only [h, Except.toOption, Option.getD] at hin
      omega
    | ok c' =>
      simp only [h, Except.toOption, Option.getD] at hin ⊢
      exact stands_of_executeWith hreachable h hin hnew
  | _ => exact hother (fun spec h => by cases h) (fun spec progress h => by cases h)

/-- **At every rest of a client each of its calls stands at a rest.** The induction is on the history of the
client: a step keeps the calls that there are at a rest, and the call that it begins comes to one before the
step is over. -/
theorem Reachable.stands (h : c.Reachable) (hin : call < c.failover.runs.length) : c.Stands call := by
  obtain ⟨room, settings, population, history, rfl⟩ := h
  have hsteps (actions : List Action) (c : Client) (hreachable : c.Reachable)
      (hall : ∀ call < c.failover.runs.length, c.Stands call) :
      ∀ call < (c.steps actions).failover.runs.length, (c.steps actions).Stands call := by
    induction actions generalizing c with
    | nil => exact hall
    | cons a rest ih =>
      refine ih (c.step a) (hreachable.step a) fun call hin => ?_
      rcases Nat.lt_or_ge call c.failover.runs.length with hold | hnew
      · exact stands_step (hall call hold) a
      · exact stands_of_begun hreachable hin hnew
  exact hsteps history (fresh room settings population) ⟨_, _, _, [], rfl⟩
    (fun call hin => absurd hin (Nat.not_lt_zero call)) call hin

/-! ### What a call shows -/

/-- A call that has ended shows the same outcome for good. -/
theorem outcome_steps_of_ended {outcome : Outcome Response} (h : c.outcome? call = some outcome)
    (actions : List Action) : (c.steps actions).outcome? call = some outcome := by
  unfold outcome? World.outcome? at h ⊢
  cases hrun : c.failover.runs[call]? with
  | none => simp [hrun] at h
  | some run =>
    simp only [hrun, Option.map_some] at h
    split at h
    · next hphase =>
      have hended := (continues_steps c actions).ended hrun (Option.some.inj hphase)
      simp only [hended, Option.map_some, hphase, h]
    · cases h

/-- A call that hears nothing shows what it has shown before: it has ended in the same way, or waits for the
answer to the same request. -/
theorem Stands.unheard (h : c.Stands call) {a : Action} (hsignal : a.signal? call = none) :
    (c.step a).outcome? call = c.outcome? call ∧ (c.step a).pending? call = c.pending? call := by
  by_cases hclose : a = .close
  · subst hclose
    exact ⟨rfl, rfl⟩
  · have hleaves := leaves_step c hclose (Nat.ne_of_lt h.lt) hsignal
    cases h with
    | ended hthere hphase hasks =>
      have hthere' := (continues_step c a).ended hthere hphase
      -- an ended run stays, and so does what its call asks for
      have hasks' := hleaves.calls _ hasks
      exact ⟨by simp [outcome?, World.outcome?, hthere, hthere'], by simp [pending?, hasks, hasks']⟩
    | @waiting spec listeners slot attempt p e pending hfollows hasks hleft =>
      obtain ⟨actions, hactions, hforeign⟩ := hleaves.failover
      have hsteps := World.follows_steps hfollows actions fun a ha => (hforeign a ha).2 slot
      have hnothing : World.outcomesFor call actions = [] :=
        List.filterMap_eq_nil_iff.2 fun a ha => (hforeign a ha).1
      rw [hnothing, ← hactions] at hsteps
      have hthere := (hfollows.owns fun hlive => by cases hlive).there
      have hthere' := (hsteps.owns fun hlive => by cases hlive).there
      have hasks' := hleaves.calls _ hasks
      refine ⟨?_, by simp [pending?, hasks, hasks']⟩
      simp [outcome?, World.outcome?, hthere, hthere', Standing.afterAll]

/-- **So does a call that hears nothing over any steps.** -/
theorem unheard_steps (h : c.Stands call) {later : List Action} (hsignals : signalsFor call later = []) :
    (c.steps later).outcome? call = c.outcome? call ∧ (c.steps later).pending? call = c.pending? call := by
  -- induction on the steps: none of them tells the call anything
  induction later generalizing c with
  | nil => exact ⟨rfl, rfl⟩
  | cons a rest ih =>
    have hnone := List.filterMap_eq_nil_iff.1 hsignals
    obtain ⟨houtcome, hpending⟩ := h.unheard (hnone a List.mem_cons_self)
    have hrest := ih (stands_step h a) (List.filterMap_eq_nil_iff.2 fun a ha => hnone a (by simp [ha]))
    exact ⟨hrest.1.trans houtcome, hrest.2.trans hpending⟩

end Client

end ClusterClient
