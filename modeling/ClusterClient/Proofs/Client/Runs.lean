import ClusterClient.Proofs.Client.Steps
import ClusterClient.Proofs.Failover.Following

/-!
# The runs of a client

Whatever a client does, its runs take steps of their own: a call that begins, is answered or is cancelled
lets runs go on, and nothing else touches them but a change of the registry.

## The architecture

* **`World.GoesOn`**: runs go on by themselves, without a change of the registry and without progress moved
  from outside. It is reflexive and transitive, so that an operation made of several needs a lemma for each
  of them only.
* **`goesOn_step`**: any step of a client that changes no registrations. So its runs take steps
  (**`exists_steps`**), and come about by steps as the client does (**`Reachable.failover`**).
-/

namespace ClusterClient

namespace World

variable {α : Type} {w w' w'' : World α}

/-- A step of runs: it neither changes the registry nor moves progress from outside. -/
def Action.IsOfRuns : Action α → Prop
  | .change _ | .moveProgress _ _ => False
  | _ => True

/-- Runs move no progress but by their calls. -/
theorem Action.IsOfRuns.spares {a : Action α} (h : a.IsOfRuns) (slot : Nat) : a.Spares slot := by
  cases a with
  | moveProgress other m => exact h.elim
  | _ => trivial

/-- Runs have gone on by themselves. -/
def GoesOn (w w' : World α) : Prop := ∃ actions, w' = w.steps actions ∧ ∀ a ∈ actions, a.IsOfRuns

namespace GoesOn

theorem refl (w : World α) : w.GoesOn w := ⟨[], rfl, by simp⟩

/-- And going on twice, by the steps of both. -/
theorem trans (h : w.GoesOn w') (h' : w'.GoesOn w'') : w.GoesOn w'' := by
  obtain ⟨actions, rfl, hruns⟩ := h
  obtain ⟨more, rfl, hmore⟩ := h'
  refine ⟨actions ++ more, (List.foldl_append ..).symm, fun a ha => ?_⟩
  exact (List.mem_append.1 ha).elim (hruns a) (hmore a)

theorem of_step (w : World α) {a : Action α} (hruns : a.IsOfRuns) : w.GoesOn (w.step a) :=
  ⟨[a], rfl, by simpa using hruns⟩

end GoesOn

end World

namespace Client

variable {c c' : Client} {call slot : Nat} {spec : RequestSpec}

/-- A call that advances passes over attempts that end at once; each of them is a step of its run. The two ways
to come to rest are no steps. -/
theorem Advances.goesOn (h : Advances call c c') : c.failover.GoesOn c'.failover := by
  induction h with
  | still => exact .refl _
  | asked => exact .refl _
  | abandoned => exact .refl _
  | @passed c c' spec e f _ _ ih =>
    exact .trans (.of_step c.failover (a := .resume call (.raised f)) trivial) ih

/-- A call that begins is one step of runs, and then it advances. -/
theorem goesOn_executeWith (h : c.executeWith spec slot = .ok c') : c.failover.GoesOn c'.failover := by
  obtain ⟨-, rfl⟩ | ⟨-, rfl⟩ := executeWith_cases h
  · exact .refl _
  · refine .trans ?_ (advances _ _ _).goesOn
    exact .of_step c.failover (a := .beginWith c.endpoints (.fixed c.failover.observers.registered) slot)
      trivial

/-- A call without progress of its own is given some first. -/
theorem goesOn_execute (h : c.execute spec = .ok c') : c.failover.GoesOn c'.failover :=
  .trans (.of_step c.failover (a := .addProgress c.endpoints) trivial)
    (goesOn_executeWith (executeWith_of_execute h))

/-- A call that is answered goes on with what the answer comes to. -/
theorem goesOn_answer (call : Nat) (a : Answer) (c : Client) :
    c.failover.GoesOn (c.answer call a).failover := by
  unfold answer
  split
  · next attempt e spec pending _ _ =>
    refine .trans ?_ (advances _ _ _).goesOn
    exact .of_step c.failover
      (a := .resume call (c.transport.conclude spec e pending.request a).2) trivial
  · exact .refl _

/-- A call that is cancelled ends. -/
theorem goesOn_cancel (call : Nat) (c : Client) : c.failover.GoesOn (c.cancel call).failover := by
  unfold cancel
  split
  · exact .of_step c.failover (a := .resume call .cancelled) trivial
  · exact .refl _

/-- **A step of a client lets its runs go on**, unless it changes the registry. Steps of calls that try members
in order begin or resume runs; those of calls to all members, and closing, leave the runs alone. -/
theorem goesOn_step (c : Client) {a : Action} (hchange : ∀ change, a ≠ .change change) :
    c.failover.GoesOn (c.step a).failover := by
  -- calls to all members leave the runs alone
  have hsame {c' : Client} (h : c.SameCalls c') : c.failover.GoesOn c'.failover := by
    rw [h.failover]
    exact .refl _
  cases a with
  | execute spec =>
    simp only [step]
    cases h : c.execute spec with
    | error f => exact .refl _
    | ok c' => exact goesOn_execute h
  | executeWith spec slot =>
    simp only [step]
    cases h : c.executeWith spec slot with
    | error f => exact .refl _
    | ok c' => exact goesOn_executeWith h
  | answer call a => exact goesOn_answer call a c
  | cancel call => exact goesOn_cancel call c
  | fanOut spec =>
    simp only [step]
    cases h : c.fanOut spec with
    | error f => exact .refl _
    | ok c' => exact hsame (sameCalls_fanOut h)
  | startTask fan i => exact hsame (sameCalls_startTask fan i c)
  | answerTask fan i a => exact hsame (sameCalls_answerTask fan i a c)
  | nextItem fan => exact hsame (sameCalls_nextItem fan c)
  | stopFan fan => exact hsame (sameCalls_stopFan fan c)
  | change change => exact absurd rfl (hchange change)
  | addProgress endpoints => exact .of_step c.failover (a := .addProgress endpoints) trivial
  | close => exact .refl _

/-- **Whatever a client does, its runs take steps**, of which none moves progress from outside. A change of the
registry is a step too, and so nothing is left out. -/
theorem exists_steps (c : Client) (actions : List Action) :
    ∃ more, (c.steps actions).failover = c.failover.steps more ∧ ∀ a ∈ more, ∀ slot, a.Spares slot := by
  induction actions generalizing c with
  | nil => exact ⟨[], rfl, by simp⟩
  | cons a rest ih =>
    obtain ⟨first, hfirst, hspares⟩ : ∃ first, (c.step a).failover = c.failover.steps first ∧
        ∀ a ∈ first, ∀ slot, a.Spares slot := by
      -- only a change of the registry is no step of the runs, and it is the same step there
      by_cases hchange : ∃ change, a = .change change
      · obtain ⟨change, rfl⟩ := hchange
        exact ⟨[.change change], rfl, by simp [World.Action.Spares]⟩
      · obtain ⟨first, hfirst, hruns⟩ := goesOn_step c fun change h => hchange ⟨change, h⟩
        exact ⟨first, hfirst, fun a ha => (hruns a ha).spares⟩
    obtain ⟨more, hmore, hspares'⟩ := ih (c.step a)
    refine ⟨first ++ more, ?_, fun a ha => (List.mem_append.1 ha).elim (hspares a) (hspares' a)⟩
    calc (c.steps (a :: rest)).failover = (c.step a).failover.steps more := hmore
      _ = (c.failover.steps first).steps more := by rw [hfirst]
      _ = c.failover.steps (first ++ more) := (List.foldl_append ..).symm

/-- The runs of every client that has come about by steps have come about by steps of their own. -/
theorem Reachable.failover (h : c.Reachable) : c.failover.Reachable := by
  obtain ⟨room, settings, population, history, rfl⟩ := h
  obtain ⟨more, hmore, -⟩ := exists_steps (fresh room settings population) history
  exact ⟨population, more, hmore⟩

end Client

end ClusterClient
