import ClusterClient.Client.Basic
import ClusterClient.Proofs.Exchange.Dispatch

/-!
# What no step of a client changes

Whatever a client does next, some things about it stay: its settings and its room, the calls standing at the
positions of their runs, and every run that has ended.

## The architecture

* **`World.runs_resume_of_ended`**, **`World.runs_beginWith_of_ended`**: among runs side by side, a step of
  one leaves those that have ended as they are.
* **`Client.SameCalls`**: what a call to all members at once leaves as it is, whichever step it takes.
* **`Client.Continues`**: these facts as one relation between a client and what becomes of it. It is
  reflexive and transitive, so that an operation made of several needs a lemma for each of them only.
* **`Client.Advances`**, **`advances`**: what making the next request of a call comes to, whatever the
  patience. What no such request changes is an induction on it.
* **`executeWith_cases`**: what beginning a call comes to.
* **`continues_steps`**: any steps continue a client, by induction on them.
* **`Client.Reachable`**, **`Reachable.aligned`**: the clients there are, and how their calls stand.
-/

namespace ClusterClient

namespace World

variable {α : Type} {w : World α} {call : Nat} {run : Run α} {outcome : Outcome α}

/-- Resuming any run leaves one that has ended as it is: only a run that waits for an attempt can be resumed,
and so it is another one. -/
theorem runs_resume_of_ended (hrun : w.runs[call]? = some run) (hended : run.phase = .ended outcome)
    (other : Nat) (result : Outcome α) : (w.resume other result).runs[call]? = some run := by
  unfold resume
  split
  · exact hrun
  · next run' hother =>
    split
    · next attempt e p hphase _ =>
      -- the resumed run waits for an attempt, so it is another one
      have hne : other ≠ call := by
        rintro rfl
        rw [hrun] at hother
        cases hother
        rw [hended] at hphase
        cases hphase
      simpa [settle, List.getElem?_set_ne hne] using hrun
    · exact hrun

/-- To resume a run makes no other one. -/
theorem length_runs_resume (w : World α) (other : Nat) (result : Outcome α) :
    (w.resume other result).runs.length = w.runs.length := by
  unfold resume
  split
  · rfl
  · split
    · simp [settle]
    · rfl

/-- A run that begins stands behind those that are there. -/
theorem runs_beginWith_of_ended (hrun : w.runs[call]? = some run) (own : List Endpoint)
    (audience : Audience) (progress : Nat) :
    (w.beginWith own audience progress).runs[call]? = some run := by
  obtain ⟨hlt, -⟩ := List.getElem?_eq_some_iff.1 hrun
  unfold beginWith
  split
  · exact hrun
  -- what the new run comes to is written behind the others
  · simpa [settle, List.getElem?_set_ne (Nat.ne_of_gt hlt), List.getElem?_append_left hlt] using hrun

/-- A run begins with progress that is there, so that there is one more of them. -/
theorem length_runs_beginWith {progress : Nat} (hprogress : progress < w.progresses.length)
    (own : List Endpoint) (audience : Audience) :
    (w.beginWith own audience progress).runs.length = w.runs.length + 1 := by
  simp [beginWith, List.getElem?_eq_getElem hprogress, settle]

end World

namespace Client

/-- Two clients of the same settings and the same room, both open or both closed, with the same runs and calls. -/
structure SameCalls (c c' : Client) : Prop where
  settings : c'.settings = c.settings
  room : c'.room = c.room
  closed : c'.transport.closed = c.transport.closed
  failover : c'.failover = c.failover
  calls : c'.calls = c.calls

namespace SameCalls

theorem refl (c : Client) : c.SameCalls c := ⟨rfl, rfl, rfl, rfl, rfl⟩

theorem trans {c c' c'' : Client} (h : c.SameCalls c') (h' : c'.SameCalls c'') : c.SameCalls c'' :=
  ⟨h'.settings.trans h.settings, h'.room.trans h.room, h'.closed.trans h.closed, h'.failover.trans h.failover,
    h'.calls.trans h.calls⟩

end SameCalls

/-- What becomes of a client keeps its settings and its room, the positions of its calls, and the runs that have
ended. -/
structure Continues (c c' : Client) : Prop where
  settings : c'.settings = c.settings
  room : c'.room = c.room
  aligned : c.calls.length = c.failover.runs.length → c'.calls.length = c'.failover.runs.length
  ended : ∀ {call : Nat} {run : Run Response} {outcome : Outcome Response},
    c.failover.runs[call]? = some run → run.phase = .ended outcome →
      c'.failover.runs[call]? = some run

namespace Continues

theorem refl (c : Client) : c.Continues c := ⟨rfl, rfl, id, fun h _ => h⟩

/-- What becomes of what has become of a client continues it too. A run that has ended is carried through both,
and so is the alignment of calls and runs. -/
theorem trans {c c' c'' : Client} (h : c.Continues c') (h' : c'.Continues c'') : c.Continues c'' where
  settings := h'.settings.trans h.settings
  room := h'.room.trans h.room
  aligned ha := h'.aligned (h.aligned ha)
  ended hrun hended := h'.ended (h.ended hrun hended) hended

/-- A client whose runs and calls stay as they are. -/
theorem of_sameCalls {c c' : Client} (h : c.SameCalls c') : c.Continues c' where
  settings := h.settings
  room := h.room
  aligned ha := by rw [h.failover, h.calls]; exact ha
  ended hrun _ := by rw [h.failover]; exact hrun

/-- A client whose transport changes while a run is resumed. -/
theorem of_resume {c c' : Client} (hsettings : c'.settings = c.settings) (hroom : c'.room = c.room)
    {call : Nat} {result : Outcome Response} (hfailover : c'.failover = c.failover.resume call result)
    (hcalls : c'.calls.length = c.calls.length) : c.Continues c' where
  settings := hsettings
  room := hroom
  aligned ha := by rw [hfailover, hcalls, World.length_runs_resume]; exact ha
  ended hrun hended := by
    rw [hfailover]
    exact World.runs_resume_of_ended hrun hended call result

end Continues

/-! ## Calls -/

/-- What comes of making the next request of a call. It needs none; or the request waits for its answer; or
the request fails at once, and with it the patience ends or the call goes on to the next member. -/
inductive Advances (call : Nat) : Client → Client → Prop where
  | still (c : Client) : Advances call c c
  | asked {c : Client} {spec : RequestSpec} {e : Endpoint} {pending : Pending}
      (made : (c.transport.dispatch spec e).2 = .ok pending) :
      Advances call c
        { c with
          transport := (c.transport.dispatch spec e).1
          calls := c.calls.set call ⟨spec, some pending⟩ }
  | abandoned {c : Client} {spec : RequestSpec} {e : Endpoint} {f : Failure}
      (fails : (c.transport.dispatch spec e).2 = .error f) :
      Advances call c { c with transport := (c.transport.dispatch spec e).1 }
  | passed {c c' : Client} {spec : RequestSpec} {e : Endpoint} {f : Failure}
      (fails : (c.transport.dispatch spec e).2 = .error f)
      (rest : Advances call
        { c with
          transport := (c.transport.dispatch spec e).1
          failover := c.failover.resume call (.raised f) } c') :
      Advances call c c'

/-- Making requests until one waits is this: nothing is to be done, a request waits, or it cannot be made and
the call goes on from its failure as long as the patience lasts. -/
theorem advances (call patience : Nat) (c : Client) : Advances call c (c.advance call patience) := by
  -- induction as the requests are made; each that fails at once uses up some patience
  induction patience, c using advance.induct call with
  | case1 patience c attempt e spec hcall hawaited t pending hmade =>
    obtain rfl : (c.transport.dispatch spec e).1 = t := congrArg Prod.fst hmade
    rw [advance, hawaited, hcall]
    dsimp only
    rw [hmade]
    exact .asked (congrArg Prod.snd hmade)
  | case2 c attempt e spec hcall hawaited t f hfails =>
    obtain rfl : (c.transport.dispatch spec e).1 = t := congrArg Prod.fst hfails
    rw [advance, hawaited, hcall]
    dsimp only
    rw [hfails]
    exact .abandoned (congrArg Prod.snd hfails)
  | case3 c attempt e spec hcall hawaited t f hfails patience ih =>
    obtain rfl : (c.transport.dispatch spec e).1 = t := congrArg Prod.fst hfails
    rw [advance, hawaited, hcall]
    dsimp only
    rw [hfails]
    exact .passed (congrArg Prod.snd hfails) ih
  | case4 patience c hnone =>
    unfold advance
    split
    · next hawaited hcall => exact absurd hcall (hnone _ _ _ hawaited)
    · exact .still c

/-- Making requests touches no run that has ended: only the run of the call is resumed, and it waits for an attempt. -/
theorem Advances.continues {call : Nat} {c c' : Client} (h : Advances call c c') : c.Continues c' := by
  induction h with
  | still c => exact .refl c
  | asked =>
    exact ⟨Transport.settings_dispatch _ _ _, Transport.room_dispatch _ _ _, fun ha => by simpa using ha,
      fun h _ => h⟩
  | abandoned => exact ⟨Transport.settings_dispatch _ _ _, Transport.room_dispatch _ _ _, id, fun h _ => h⟩
  | @passed c c' spec e f _ _ ih =>
    -- the request has failed at once, so that the run of the call is resumed before the next one is made
    have hsettings := Transport.settings_dispatch c.transport spec e
    have hroom := Transport.room_dispatch c.transport spec e
    refine .trans ?_ ih
    exact .of_resume hsettings hroom rfl rfl

theorem continues_addProgress (endpoints : List Endpoint) (c : Client) :
    c.Continues (c.addProgress endpoints) := ⟨rfl, rfl, id, fun h _ => h⟩

/-- A call has begun, and its first request is still to be made. -/
def withCall (spec : RequestSpec) (slot : Nat) (c : Client) : Client :=
  { c with
    failover := c.failover.beginWith c.endpoints (.fixed c.failover.observers.registered) slot
    calls := c.calls ++ [⟨spec, none⟩] }

/-- What beginning a call comes to when it is let: no such progress is there, or the call begins and makes its
first request. -/
theorem executeWith_cases {spec : RequestSpec} {slot : Nat} {c c' : Client}
    (h : c.executeWith spec slot = .ok c') :
    (c.failover.progresses.length ≤ slot ∧ c' = c) ∨
    (slot < c.failover.progresses.length ∧
      c' = (c.withCall spec slot).advance c.failover.runs.length c.endpoints.length) := by
  unfold executeWith at h
  split at h
  · cases h
  · split at h
    · next hnone => exact .inl ⟨hnone, (Except.ok.inj h).symm⟩
    · next hslot => exact .inr ⟨Nat.lt_of_not_le hslot, (Except.ok.inj h).symm⟩

/-- On an open client a call begins with progress that is there. -/
theorem executeWith_of_lt {spec : RequestSpec} {slot : Nat} {c : Client}
    (hopen : c.transport.closed = false) (hslot : slot < c.failover.progresses.length) :
    c.executeWith spec slot =
      .ok ((c.withCall spec slot).advance c.failover.runs.length c.endpoints.length) := by
  unfold executeWith
  rw [hopen, if_neg Bool.false_ne_true, if_neg (Nat.not_le_of_lt hslot)]
  rfl

/-- A call with progress of its own is one with progress that is there, after this has been made. -/
theorem executeWith_of_execute {spec : RequestSpec} {c c' : Client} (h : c.execute spec = .ok c') :
    (c.addProgress c.endpoints).executeWith spec c.failover.progresses.length = .ok c' := by
  unfold execute at h
  split at h
  · cases h
  · exact h

/-- A call that begins is put behind the calls that are there, as its run is behind the runs. -/
theorem continues_withCall {slot : Nat} {c : Client} (hslot : slot < c.failover.progresses.length)
    (spec : RequestSpec) : c.Continues (c.withCall spec slot) where
  settings := rfl
  room := rfl
  aligned ha := by simp [withCall, World.length_runs_beginWith hslot, ha]
  ended hrun _ := World.runs_beginWith_of_ended hrun _ _ _

/-- A call that is let begins behind the others and makes its first request; one with progress that is not there
leaves the client as it is. -/
theorem continues_executeWith {spec : RequestSpec} {slot : Nat} {c c' : Client}
    (h : c.executeWith spec slot = .ok c') : c.Continues c' := by
  obtain ⟨-, rfl⟩ | ⟨hslot, rfl⟩ := executeWith_cases h
  · exact .refl c'
  · exact (continues_withCall hslot spec).trans (advances _ _ _).continues

/-- A call with progress of its own makes this first, and is a call with progress that is there then. -/
theorem continues_execute {spec : RequestSpec} {c c' : Client} (h : c.execute spec = .ok c') :
    c.Continues c' :=
  (continues_addProgress c.endpoints c).trans (continues_executeWith (executeWith_of_execute h))

/-- An answer ends an attempt: the transport takes it, the run of the call is resumed, and the call makes its
next request. What is not waited for changes nothing. -/
theorem continues_answer (call : Nat) (a : Answer) (c : Client) : c.Continues (c.answer call a) := by
  unfold answer
  split
  · next attempt endpoint spec pending _ _ =>
    have hsame := Transport.sameConnection_conclude c.transport spec endpoint pending.request a
    refine .trans ?_ (advances _ _ _).continues
    exact .of_resume hsame.settings hsame.room rfl (by simp)
  · exact .refl c

/-- A call that is given up takes its request back, and its run is resumed with that. -/
theorem continues_cancel (call : Nat) (c : Client) : c.Continues (c.cancel call) := by
  unfold cancel
  split
  · exact .of_resume rfl rfl rfl (by simp)
  · exact .refl c

/-! ## Calls to all members at once

Their tasks use the transport and nothing else that the other calls use. -/

theorem sameCalls_fanOut {spec : RequestSpec} {c c' : Client} (h : c.fanOut spec = .ok c') :
    c.SameCalls c' := by
  unfold fanOut at h
  split at h
  · cases h
  · cases h
    exact ⟨rfl, rfl, rfl, rfl, rfl⟩

/-- A task that starts hands its request to the transport, whose settings, room and openness do not depend on
requests. -/
theorem sameCalls_startTask (fan i : Nat) (c : Client) : c.SameCalls (c.startTask fan i) := by
  unfold startTask
  split
  · next f endpoint _ =>
    exact ⟨Transport.settings_dispatch c.transport f.spec endpoint, Transport.room_dispatch c.transport f.spec endpoint,
      Transport.closed_dispatch c.transport f.spec endpoint, rfl, rfl⟩
  · exact .refl c

theorem sameCalls_answerTask (fan i : Nat) (a : Answer) (c : Client) :
    c.SameCalls (c.answerTask fan i a) := by
  unfold answerTask
  split
  · next f endpoint pending _ =>
    have hsame := Transport.sameConnection_conclude c.transport f.spec endpoint pending.request a
    exact ⟨hsame.settings, hsame.room, hsame.closed, rfl, rfl⟩
  · exact .refl c

theorem sameCalls_cancelTask (fan : Nat) (c : Client) (i : Nat) : c.SameCalls (c.cancelTask fan i) := by
  unfold cancelTask
  split
  · exact ⟨rfl, rfl, rfl, rfl, rfl⟩
  · exact ⟨rfl, rfl, rfl, rfl, rfl⟩
  · exact .refl c

/-- To stop is to cancel every task, one after the other: by induction on them. -/
theorem sameCalls_stopFan (fan : Nat) (c : Client) : c.SameCalls (c.stopFan fan) := by
  unfold stopFan
  split
  · exact .refl c
  · next f _ =>
    have hfold (tasks : List Nat) (c : Client) : c.SameCalls (tasks.foldl (cancelTask fan) c) := by
      induction tasks generalizing c with
      | nil => exact .refl c
      | cons i rest ih => exact (sameCalls_cancelTask fan c i).trans (ih _)
    exact (hfold _ c).trans ⟨rfl, rfl, rfl, rfl, rfl⟩

/-- The consumer takes an item, and a last one stops the call. Neither touches the calls to one member after
another. -/
theorem sameCalls_nextItem (fan : Nat) (c : Client) : c.SameCalls (c.nextItem fan).1 := by
  unfold nextItem
  split
  · exact .refl c
  · split
    · exact .refl c
    · split
      · dsimp only
        split
        · exact ⟨rfl, rfl, rfl, rfl, rfl⟩
        -- the item is counted as taken before the call stops
        · refine .trans ?_ (sameCalls_stopFan fan _)
          exact ⟨rfl, rfl, rfl, rfl, rfl⟩
      · exact .refl c

/-! ## Steps -/

/-- **Any step continues a client**: settings and room stay, what is closed stays closed, and a run that has
ended stays as it is. -/
theorem continues_step (c : Client) (a : Action) : c.Continues (c.step a) := by
  cases a with
  | execute spec =>
    simp only [step]
    cases h : c.execute spec with
    | error f => exact .refl c
    | ok c' => exact continues_execute h
  | executeWith spec progress =>
    simp only [step]
    cases h : c.executeWith spec progress with
    | error f => exact .refl c
    | ok c' => exact continues_executeWith h
  | answer call a => exact continues_answer call a c
  | cancel call => exact continues_cancel call c
  | fanOut spec =>
    simp only [step]
    cases h : c.fanOut spec with
    | error f => exact .refl c
    | ok c' => exact .of_sameCalls (sameCalls_fanOut h)
  | startTask fan i => exact .of_sameCalls (sameCalls_startTask fan i c)
  | answerTask fan i a => exact .of_sameCalls (sameCalls_answerTask fan i a c)
  | nextItem fan => exact .of_sameCalls (sameCalls_nextItem fan c)
  | stopFan fan => exact .of_sameCalls (sameCalls_stopFan fan c)
  | change change => exact ⟨rfl, rfl, id, fun h _ => h⟩
  | addProgress endpoints => exact continues_addProgress endpoints c
  | close =>
    -- a transport that is closed for the first time stays what it is otherwise
    refine ⟨?_, ?_, id, fun h _ => h⟩
    all_goals
      simp only [step, close, settings, room, Transport.close]
      split <;> rfl

/-- **Any steps continue a client.** -/
theorem continues_steps (c : Client) (actions : List Action) : c.Continues (c.steps actions) := by
  induction actions generalizing c with
  | nil => exact .refl c
  | cons a rest ih => exact (continues_step c a).trans (ih (c.step a))

/-- A client that has come about by steps. -/
def Reachable (c : Client) : Prop :=
  ∃ room settings population history, c = (fresh room settings population).steps history

/-- In a client that has come about by steps, every call stands at the position of its run. -/
theorem Reachable.aligned {c : Client} (h : c.Reachable) :
    c.calls.length = c.failover.runs.length := by
  obtain ⟨room, settings, population, history, rfl⟩ := h
  exact (continues_steps _ history).aligned rfl

theorem Reachable.step {c : Client} (h : c.Reachable) (a : Action) : (c.step a).Reachable := by
  obtain ⟨room, settings, population, history, rfl⟩ := h
  exact ⟨room, settings, population, history ++ [a], by simp [steps]⟩

theorem Reachable.steps {c : Client} (h : c.Reachable) (actions : List Action) :
    (c.steps actions).Reachable := by
  obtain ⟨room, settings, population, history, rfl⟩ := h
  exact ⟨room, settings, population, history ++ actions, by simp [Client.steps]⟩

/-! ## A small cluster -/

/-- A client of two members that has done nothing yet. Its password is not ASCII. -/
def ofTwo : Client :=
  fresh .usual
    ⟨[⟨"http://etcd1:2379"⟩, ⟨"http://etcd2:2379"⟩], some ⟨"root", "pässword"⟩, .standard, [], true, false⟩
    ⟨fun _ _ _ => ⟨[], false⟩, 0⟩

theorem reachable_ofTwo : ofTwo.Reachable := ⟨_, _, _, [], rfl⟩

end Client

end ClusterClient
