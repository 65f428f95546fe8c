import ClusterClient.Client.Watch
import ClusterClient.Proofs.Client.Steps
import ClusterClient.Proofs.Failover.Reached

/-!
# Asking members one after the other

A call is made of steps that wait for each other: a run rests while an attempt is under way, a request
waits for its answer, and attempts that fail at once are made again within one step. What all of it comes
to is a plain loop over the members, and this module says so.

## The architecture

* **`Transport.ask`**: the loop. It goes from member to member with the transport and the time, and stops at
  the first response, cancellation or silence, or when a deadline passes.
* **`Waiting.playFor`**: playing a process with its clock in view; **`fst_playFor`** forgets the clock.
* **`Client.Trying`**: the invariant between the two. A call whose attempts so far have failed is about to
  make its next request.
* **`agrees_playFor`**: playing a call and asking its members agree, by induction on the members left.
* **`agrees_play`**, **`perform_eq`**: what follows for a whole call from its beginning on.
-/

namespace ClusterClient

/-- How asking members one after the other has ended: with an attempt that decided it, because no member was left, at
the deadline, or never. -/
inductive Verdict where
  | decided (outcome : Outcome Response)
  | exhausted
  | interrupted
  | hanging

namespace Verdict

/-- How waiting has ended in the meantime. -/
def ending : Verdict → Ending
  | decided _ | exhausted => .finished
  | interrupted => .interrupted
  | hanging => .hanging

/-- How a call over members has ended whose attempts have failed in these ways before. -/
def outcome? (members : List Endpoint) (errors : List Failure) : Verdict → Option (Outcome Response)
  | decided outcome => outcome.final?
  | exhausted => some (.raised (.cluster errors members))
  | interrupted => some .cancelled
  | hanging => none

/-- The failures that have been recorded on top of those that led on. -/
def failures : Verdict → List Failure
  | decided outcome => outcome.failures
  | _ => []

end Verdict

/-- What asking members one after the other has come to: the failures with their times, and the time at
which it has ended. -/
structure Asked where
  transport : Transport
  failures : List (Nat × Failure)
  time : Nat
  verdict : Verdict

/-- Asking goes on after a failure. -/
def Asked.after (time : Nat) (f : Failure) (asked : Asked) : Asked :=
  { asked with failures := (time, f) :: asked.failures }

/-- Asks members one after the other, from some time on: a failure that can be shown leads to the next member, and
anything else is the end. -/
def Transport.ask (spec : RequestSpec) (timetable : Timetable) (deadline : Option Nat) :
    Nat → List Endpoint → Transport → Asked
  | now, [], t => ⟨t, [], now, .exhausted⟩
  | now, e :: rest, t =>
    match t.dispatch spec e with
    | (t, .error f) => (ask spec timetable deadline now rest t).after now f
    | (t, .ok pending) =>
      match timetable pending.number with
      | .never =>
        if deadline.isSome then ⟨t.withdraw pending.number, [], now, .interrupted⟩
        else ⟨t, [], now, .hanging⟩
      | .ends delay a =>
        if Waiting.isLate deadline now delay then ⟨t.withdraw pending.number, [], now, .interrupted⟩
        else
          match t.conclude spec e pending.request a with
          | (t, outcome) =>
            match outcome.passed? with
            | some f => (ask spec timetable deadline (now + delay) rest t).after (now + delay) f
            | none => ⟨t, [], now + delay, .decided outcome⟩

namespace Transport

variable {spec : RequestSpec} {timetable : Timetable} {deadline : Option Nat} {now delay : Nat}
  {e : Endpoint} {rest : List Endpoint} {t t' : Transport} {pending : Pending} {f : Failure} {a : Answer}

/-- A request that cannot be made is passed over, and the next member is asked at the same time. -/
theorem ask_of_error (hdispatch : t.dispatch spec e = (t', .error f)) :
    t.ask spec timetable deadline now (e :: rest) =
      (t'.ask spec timetable deadline now rest).after now f := by
  simp only [ask, hdispatch]

/-- An answer that never comes is waited for until the deadline, if there is one. -/
theorem ask_of_never (hdispatch : t.dispatch spec e = (t', .ok pending))
    (hnever : timetable pending.number = .never) :
    t.ask spec timetable deadline now (e :: rest) =
      if deadline.isSome then ⟨t'.withdraw pending.number, [], now, .interrupted⟩
      else ⟨t', [], now, .hanging⟩ := by
  simp only [ask, hdispatch, hnever]

/-- An answer that comes too late is not waited for. -/
theorem ask_of_late (hdispatch : t.dispatch spec e = (t', .ok pending))
    (hends : timetable pending.number = .ends delay a)
    (hlate : Waiting.isLate deadline now delay = true) :
    t.ask spec timetable deadline now (e :: rest) =
      ⟨t'.withdraw pending.number, [], now, .interrupted⟩ := by
  simp only [ask, hdispatch, hends, hlate, if_true]

/-- An answer that comes in time is concluded from, and the failure that it may lead to is passed over. -/
theorem ask_of_ends (hdispatch : t.dispatch spec e = (t', .ok pending))
    (hends : timetable pending.number = .ends delay a)
    (hlate : Waiting.isLate deadline now delay = false) :
    t.ask spec timetable deadline now (e :: rest) =
      match t'.conclude spec e pending.request a with
      | (t, outcome) =>
        match outcome.passed? with
        | some f => (t.ask spec timetable deadline (now + delay) rest).after (now + delay) f
        | none => ⟨t, [], now + delay, .decided outcome⟩ := by
  simp only [ask, hdispatch, hends, hlate, Bool.false_eq_true, if_false]

end Transport

namespace Waiting

variable {σ β : Type}

/-- Lets time pass as `play` does, and tells the time of the last rest as well. -/
def playFor (process : Waiting σ β) (timetable : Nat → Course β) (deadline : Option Nat) :
    Nat → Nat → σ → (σ × Ending) × Nat
  | patience, now, s =>
    match process.awaits s with
    | none => ((s, .finished), now)
    | some number =>
      match timetable number with
      | .never =>
        if deadline.isSome then ((process.interrupt s, .interrupted), now) else ((s, .hanging), now)
      | .ends delay result =>
        if isLate deadline now delay then ((process.interrupt s, .interrupted), now)
        else
          match patience with
          | 0 => ((s, .hanging), now)
          | patience + 1 =>
            playFor process timetable deadline patience (now + delay) (process.take result s)

variable {process : Waiting σ β} {timetable : Nat → Course β} {deadline : Option Nat} {s : σ}
  {number : Nat}

theorem playFor_of_idle (hidle : process.awaits s = none) (patience now : Nat) :
    process.playFor timetable deadline patience now s = ((s, .finished), now) := by
  unfold playFor
  rw [hidle]

/-- Who waits for what never comes is interrupted at the deadline, if there is one. -/
theorem playFor_of_never (hawaits : process.awaits s = some number)
    (hnever : timetable number = .never) (patience now : Nat) :
    process.playFor timetable deadline patience now s =
      if deadline.isSome then ((process.interrupt s, .interrupted), now)
      else ((s, .hanging), now) := by
  unfold playFor
  simp only [hawaits, hnever]

/-- Who waits for what comes too late is interrupted. -/
theorem playFor_of_late {delay : Nat} {result : β} {now : Nat}
    (hawaits : process.awaits s = some number) (hends : timetable number = .ends delay result)
    (hlate : isLate deadline now delay = true) (patience : Nat) :
    process.playFor timetable deadline patience now s = ((process.interrupt s, .interrupted), now) := by
  unfold playFor
  simp only [hawaits, hends, hlate, if_true]

/-- Who waits for what comes in time takes it, and goes on from then. -/
theorem playFor_of_ends {delay : Nat} {result : β} {now : Nat}
    (hawaits : process.awaits s = some number) (hends : timetable number = .ends delay result)
    (hlate : isLate deadline now delay = false) (patience : Nat) :
    process.playFor timetable deadline (patience + 1) now s =
      process.playFor timetable deadline patience (now + delay) (process.take result s) := by
  rw [playFor]
  simp only [hawaits, hends, hlate, Bool.false_eq_true, if_false]

/-- Telling the time changes nothing else: the two walks look at the same request at each rest and decide in the
same way whether it is late, so that they agree rest by rest. -/
theorem fst_playFor (process : Waiting σ β) (timetable : Nat → Course β) (deadline : Option Nat)
    (patience now : Nat) (s : σ) :
    (process.playFor timetable deadline patience now s).1 =
      process.play timetable deadline patience now s := by
  induction patience generalizing now s with
  | zero =>
    cases hawaits : process.awaits s with
    | none => simp only [playFor, play, hawaits]
    | some number =>
      cases hcourse : timetable number with
      | never => simp only [playFor, play, hawaits, hcourse]; split <;> rfl
      | ends delay result => simp only [playFor, play, hawaits, hcourse]; split <;> rfl
  | succ patience ih =>
    cases hawaits : process.awaits s with
    | none => simp only [playFor, play, hawaits]
    | some number =>
      cases hcourse : timetable number with
      | never => simp only [playFor, play, hawaits, hcourse]; split <;> rfl
      | ends delay result =>
        rw [playFor, play]
        simp only [hawaits, hcourse]
        split
        · rfl
        · exact ih _ _

end Waiting

namespace Client

/-- A call some of whose attempts have failed is about to make its next request, if a member is left, or
waits for the answer to it. -/
structure Trying (c : Client) (call : Nat) (spec : RequestSpec) (members : List Endpoint)
    (audience : Audience) (slot : Nat) (errors : List Failure) (pending : Option Pending) : Prop where
  whole : c.endpoints = members
  reached : c.failover.Reached call members audience slot errors
  asks : c.calls[call]? = some ⟨spec, pending⟩

/-- What a call has come to: how it has ended, whom it has tried, and the failures it has collected. The failure of the
attempt that has decided it, if it is one, stands behind those that led on. -/
structure CameTo (c : Client) (call slot : Nat) (members : List Endpoint) (errors last : List Failure)
    (outcome : Option (Outcome Response)) : Prop where
  outcome : c.outcome? call = outcome
  invoked : c.failover.invoked call = members.take (errors.length + 1)
  collected : (c.failover.progresses[slot]?).map Progress.errors = some (errors ++ last)

/-- A call whose run has ended has come to the outcome of the run. -/
theorem CameTo.of_ended {c : Client} {call slot : Nat} {own : List Endpoint} {audience : Audience}
    {errors last : List Failure} {outcome : Outcome Response}
    (hrun : c.failover.runs[call]? =
      some ⟨own, audience, slot, .ended outcome, own.take (errors.length + 1)⟩)
    (hcollected : (c.failover.progresses[slot]?).map Progress.errors = some (errors ++ last)) :
    c.CameTo call slot own errors last (some outcome) where
  outcome := by simp [outcome?, World.outcome?, hrun]
  invoked := by simp [World.invoked, hrun]
  collected := hcollected

/-- A call that was played and members that were asked have come to the same. -/
structure Agrees (played : (Client × Ending) × Nat) (asked : Asked) (call slot : Nat)
    (members : List Endpoint) (errors : List Failure) : Prop where
  transport : played.1.1.transport = asked.transport
  ending : played.1.2 = asked.verdict.ending
  time : played.2 = asked.time
  cameTo : played.1.1.CameTo call slot members (errors ++ asked.failures.map Prod.snd) asked.verdict.failures
    (asked.verdict.outcome? members (errors ++ asked.failures.map Prod.snd))

/-- A failure counts as one of those before, or as the first of those to come. -/
theorem Agrees.after {played : (Client × Ending) × Nat} {asked : Asked} {call slot : Nat}
    {members : List Endpoint} {errors : List Failure} {f : Failure}
    (h : Agrees played asked call slot members (errors ++ [f])) (time : Nat) :
    Agrees played (asked.after time f) call slot members errors where
  transport := h.transport
  ending := h.ending
  time := h.time
  cameTo := by simpa [Asked.after] using h.cameTo

/-- A call that waits for nobody is not advanced. -/
theorem advance_of_awaited_none {c : Client} {call : Nat} (h : c.failover.awaited? call = none)
    (patience : Nat) : c.advance call patience = c := by
  unfold advance
  rw [h]

/-- What the answer to the request of a call makes of the client. -/
theorem answer_eq {c : Client} {call attempt : Nat} {e : Endpoint} {spec : RequestSpec}
    {pending : Pending} (hawaited : c.failover.awaited? call = some (attempt, e))
    (hcall : c.calls[call]? = some ⟨spec, some pending⟩) (a : Answer) :
    c.answer call a =
      ({ c with
        transport := (c.transport.conclude spec e pending.request a).1
        failover := c.failover.resume call (c.transport.conclude spec e pending.request a).2
        calls := c.calls.set call ⟨spec, none⟩ } : Client).advance call c.endpoints.length := by
  have hsettings := (Transport.sameConnection_conclude c.transport spec e pending.request a).settings
  unfold answer
  simp only [hawaited, hcall, proceed, endpoints, settings, hsettings]

/-- What becomes of a call that is cancelled while its request waits. -/
theorem cancel_eq {c : Client} {call : Nat} {spec : RequestSpec} {pending : Pending}
    (hcall : c.calls[call]? = some ⟨spec, some pending⟩) :
    c.cancel call =
      { c with
        transport := c.transport.withdraw pending.number
        failover := c.failover.resume call .cancelled
        calls := c.calls.set call ⟨spec, none⟩ } := by
  unfold cancel
  rw [hcall]

namespace Trying

variable {c : Client} {call slot : Nat} {spec : RequestSpec} {members : List Endpoint}
  {audience : Audience} {errors : List Failure} {t : Transport} {pending : Pending}

theorem set_asks {before : Option Pending}
    (h : c.Trying call spec members audience slot errors before) (after : Option Pending) :
    (c.calls.set call ⟨spec, after⟩)[call]? = some ⟨spec, after⟩ := by
  obtain ⟨hin, -⟩ := List.getElem?_eq_some_iff.1 h.asks
  simp [hin]

/-! ### Making the next request -/

/-- A request that can be made waits for its answer. -/
theorem advance_eq (h : c.Trying call spec members audience slot errors none)
    (hlt : errors.length < members.length)
    (hdispatch : c.transport.dispatch spec members[errors.length] = (t, .ok pending))
    (patience : Nat) :
    c.advance call patience =
      { c with transport := t, calls := c.calls.set call ⟨spec, some pending⟩ } := by
  unfold advance
  simp only [h.reached.awaited hlt, h.asks, hdispatch]

/-- A call that has made a request waits for its answer, and stands otherwise where it stood. -/
theorem waiting (h : c.Trying call spec members audience slot errors none)
    (hsettings : t.settings = c.settings) (pending : Pending) :
    Trying { c with transport := t, calls := c.calls.set call ⟨spec, some pending⟩ } call spec members
      audience slot errors (some pending) where
  whole := by simpa [endpoints, settings, hsettings] using h.whole
  reached := h.reached
  asks := h.set_asks (some pending)

/-- A request that cannot be made fails the attempt, and the next one is tried. -/
theorem advance_succ_eq (h : c.Trying call spec members audience slot errors none)
    (hlt : errors.length < members.length) {f : Failure}
    (hdispatch : c.transport.dispatch spec members[errors.length] = (t, .error f)) (patience : Nat) :
    c.advance call (patience + 1) =
      ({ c with transport := t, failover := c.failover.resume call (.raised f) } : Client).advance call
        patience := by
  rw [advance]
  simp only [h.reached.awaited hlt, h.asks, hdispatch]

/-- The attempt whose request cannot be made has failed, and the call is about to try the next member. -/
theorem failing (h : c.Trying call spec members audience slot errors none)
    (hlt : errors.length < members.length) (hsettings : t.settings = c.settings) {f : Failure} (hf : f.Speaks) :
    Trying { c with transport := t, failover := c.failover.resume call (.raised f) } call spec members
      audience slot (errors ++ [f]) none where
  whole := by simpa [endpoints, settings, hsettings] using h.whole
  reached := h.reached.resume_raised hlt hf
  asks := h.asks

/-- When no member is left, nothing is waited for, and the call has failed with everything. -/
theorem agrees_exhausted (h : c.Trying call spec members audience slot errors none)
    (hall : errors.length = members.length) (timetable : Timetable) (deadline : Option Nat)
    (patience rests now : Nat) :
    Agrees ((Client.waiting call).playFor timetable deadline rests now (c.advance call patience))
      ⟨c.transport, [], now, .exhausted⟩ call slot members errors := by
  have hrun := h.reached.ended_of_all hall
  have hnobody : c.failover.awaited? call = none := by simp [World.awaited?, hrun]
  have hidle : (Client.waiting call).awaits c = none := by simp [Client.waiting, pending?, h.asks]
  rw [advance_of_awaited_none hnobody, Waiting.playFor_of_idle hidle]
  refine ⟨rfl, rfl, rfl, ?_⟩
  have hcollected : (c.failover.progresses[slot]?).map Progress.errors = some (errors ++ []) := by
    simp [h.reached.progress, Progress.reached]
  simpa [Verdict.outcome?, Verdict.failures] using CameTo.of_ended hrun hcollected

/-! ### While the request waits -/

theorem awaits (h : c.Trying call spec members audience slot errors (some pending)) :
    (Client.waiting call).awaits c = some pending.number := by
  simp [Client.waiting, pending?, h.asks]

/-- The answer may never come. -/
theorem agrees_hanging (h : c.Trying call spec members audience slot errors (some pending))
    (hlt : errors.length < members.length) (now : Nat) :
    Agrees ((c, .hanging), now) ⟨c.transport, [], now, .hanging⟩ call slot members errors := by
  refine ⟨rfl, rfl, rfl, ?_⟩
  have hnone : c.outcome? call = none := h.reached.outcome_of_lt hlt
  exact ⟨by simpa [Verdict.outcome?] using hnone, by simpa using h.reached.invoked,
    by simp [h.reached.progress, Progress.reached, Verdict.failures]⟩

/-- The call may be given up. -/
theorem agrees_interrupted (h : c.Trying call spec members audience slot errors (some pending))
    (hlt : errors.length < members.length) (now : Nat) :
    Agrees (((Client.waiting call).interrupt c, .interrupted), now)
      ⟨c.transport.withdraw pending.number, [], now, .interrupted⟩ call slot members errors := by
  obtain ⟨hrun, hprogress⟩ := h.reached.resume_cancelled hlt
  have hinterrupt : (Client.waiting call).interrupt c = c.cancel call := rfl
  rw [hinterrupt, cancel_eq h.asks]
  refine ⟨rfl, rfl, rfl, ?_⟩
  simp only [List.map_nil, List.append_nil, Verdict.outcome?, Verdict.failures]
  exact .of_ended hrun (by simp [hprogress, Progress.reached])

/-- An answer that does not let the call pass on ends it, and nothing is waited for any more. The run has ended
by then, so that the patience that is left is not used: nobody is awaited, and the call asks nothing. -/
theorem agrees_decided (h : c.Trying call spec members audience slot errors (some pending))
    (hlt : errors.length < members.length) {c' : Client} {outcome : Outcome Response}
    (hpassed : outcome.passed? = none) (hfailover : c'.failover = c.failover.resume call outcome)
    (hasks : c'.calls[call]? = some ⟨spec, none⟩) (timetable : Timetable) (deadline : Option Nat)
    (patience rests now : Nat) :
    Agrees ((Client.waiting call).playFor timetable deadline rests now (c'.advance call patience))
      ⟨c'.transport, [], now, .decided outcome⟩ call slot members errors := by
  obtain ⟨last, hfinal⟩ := Outcome.exists_final hpassed
  obtain ⟨hrun, hcollected⟩ := h.reached.resume_final hlt hfinal
  rw [← hfailover] at hrun hcollected
  have hnobody : c'.failover.awaited? call = none := by simp [World.awaited?, hrun]
  have hidle : (Client.waiting call).awaits c' = none := by simp [Client.waiting, pending?, hasks]
  rw [advance_of_awaited_none hnobody, Waiting.playFor_of_idle hidle]
  refine ⟨rfl, rfl, rfl, ?_⟩
  simp only [List.map_nil, List.append_nil, Verdict.outcome?, Verdict.failures, hfinal]
  exact .of_ended hrun hcollected

/-- The answer may fail the attempt, so that the next member is tried. -/
theorem raised (h : c.Trying call spec members audience slot errors (some pending))
    (hlt : errors.length < members.length) (hsettings : t.settings = c.settings) {f : Failure} (hf : f.Speaks) :
    Trying { c with
      transport := t
      failover := c.failover.resume call (.raised f)
      calls := c.calls.set call ⟨spec, none⟩ } call spec members audience slot (errors ++ [f]) none where
  whole := by simpa [endpoints, settings, hsettings] using h.whole
  reached := h.reached.resume_raised hlt hf
  asks := h.set_asks none

/-- An answer is concluded from at once: it ends the call, or its failure is passed over and the members that are left
are asked next, at the same time. -/
theorem agrees_taken (h : c.Trying call spec members audience slot errors (some pending))
    (hlt : errors.length < members.length) (a : Answer) (timetable : Timetable) (deadline : Option Nat)
    (rests now : Nat) {rest : List Endpoint}
    (hgoes : ∀ {c' : Client} {f : Failure}, c'.Trying call spec members audience slot (errors ++ [f]) none →
      Agrees ((Client.waiting call).playFor timetable deadline rests now (c'.advance call members.length))
        (c'.transport.ask spec timetable deadline now rest) call slot members (errors ++ [f])) :
    Agrees ((Client.waiting call).playFor timetable deadline rests now ((Client.waiting call).take a c))
      (match c.transport.conclude spec members[errors.length] pending.request a with
        | (t, outcome) =>
          match outcome.passed? with
          | some f => (t.ask spec timetable deadline now rest).after now f
          | none => ⟨t, [], now, .decided outcome⟩) call slot members errors := by
  have htake : (Client.waiting call).take a c = c.answer call a := rfl
  rw [htake, answer_eq (h.reached.awaited hlt) h.asks, h.whole]
  have hsettings :=
    (Transport.sameConnection_conclude c.transport spec members[errors.length] pending.request a).settings
  rcases hconclude : c.transport.conclude spec members[errors.length] pending.request a with ⟨t, outcome⟩
  dsimp only
  cases hpassed : outcome.passed? with
  | none => exact h.agrees_decided hlt hpassed rfl (h.set_asks none) timetable deadline _ _ _
  | some f =>
    obtain ⟨hf, rfl⟩ := Outcome.passed?_eq_some_iff.1 hpassed
    rw [hconclude] at hsettings
    exact (hgoes (h.raised hlt hsettings hf)).after now

end Trying

/-- **Playing a call and asking its members agree.** The induction is on the members that are left. Each of them
is asked in the client as it is asked here: its request cannot be made, never ends, ends too late, or ends in
time, and only a failure that can be shown leads on to the members behind it. -/
theorem agrees_playFor {c : Client} {call slot : Nat} {spec : RequestSpec} {members : List Endpoint}
    {audience : Audience} {errors : List Failure} {rest : List Endpoint} (timetable : Timetable)
    (deadline : Option Nat) (now : Nat) (patience rests : Nat)
    (h : c.Trying call spec members audience slot errors none)
    (hrest : members.drop errors.length = rest) (hpatience : rest.length ≤ patience)
    (hrests : rest.length ≤ rests) :
    Agrees ((waiting call).playFor timetable deadline rests now (c.advance call patience))
      (c.transport.ask spec timetable deadline now rest) call slot members errors := by
  -- induction on the members left; the number of rests and the patience within one only have to suffice for
  -- them
  induction rest generalizing c errors now patience rests with
  | nil =>
    have hle := List.drop_eq_nil_iff.1 hrest
    have hwithin := h.reached.within
    exact h.agrees_exhausted (by omega) timetable deadline patience rests now
  | cons e rest ih =>
    have hlt : errors.length < members.length := by
      have hlength := congrArg List.length hrest
      simp only [List.length_drop, List.length_cons] at hlength
      omega
    rw [List.drop_eq_getElem_cons hlt] at hrest
    obtain ⟨he, hdrop⟩ := List.cons.inj hrest
    have hdrop (f : Failure) : members.drop (errors ++ [f]).length = rest := by simpa using hdrop
    rw [List.length_cons] at hpatience hrests
    obtain ⟨patience, rfl⟩ : ∃ p, patience = p + 1 := ⟨patience - 1, by omega⟩
    obtain ⟨rests, rfl⟩ : ∃ r, rests = r + 1 := ⟨rests - 1, by omega⟩
    have hsettings := Transport.settings_dispatch c.transport spec e
    rcases hdispatch : c.transport.dispatch spec e with ⟨t, f | pending⟩
    · rw [hdispatch] at hsettings
      rw [h.advance_succ_eq hlt (he ▸ hdispatch)]
      -- no request is made, for a reason that can be shown: the next member is asked at the same time
      obtain ⟨-, hf⟩ := Transport.isAgainst_of_dispatch (congrArg Prod.snd hdispatch)
      rw [Transport.ask_of_error hdispatch]
      exact (ih now _ _ (h.failing hlt hsettings hf) (hdrop f) (by omega) (by omega)).after now
    · rw [hdispatch] at hsettings
      rw [h.advance_eq hlt (he ▸ hdispatch)]
      have hwaiting := h.waiting hsettings pending
      cases hcourse : timetable pending.number with
      | never =>
        rw [Waiting.playFor_of_never hwaiting.awaits hcourse, Transport.ask_of_never hdispatch hcourse]
        split
        · exact hwaiting.agrees_interrupted hlt now
        · exact hwaiting.agrees_hanging hlt now
      | ends delay a =>
        cases hlate : Waiting.isLate deadline now delay with
        | true =>
          rw [Waiting.playFor_of_late hwaiting.awaits hcourse hlate,
            Transport.ask_of_late hdispatch hcourse hlate]
          exact hwaiting.agrees_interrupted hlt now
        | false =>
          rw [Waiting.playFor_of_ends hwaiting.awaits hcourse hlate,
            Transport.ask_of_ends hdispatch hcourse hlate]
          refine he ▸ hwaiting.agrees_taken hlt a timetable deadline rests (now + delay) fun {c' f} hnext => ?_
          refine ih (now + delay) _ _ hnext (hdrop f) ?_ (by omega)
          rw [← hdrop f, List.length_drop]
          exact Nat.sub_le _ _

/-! ## Whole calls

A call of a client begins as a run of its own over the members of the client, and is then played. -/

/-- A call that is given progress made for the members begins with its first request. -/
theorem executeWith_eq (c : Client) {slot : Nat} (spec : RequestSpec)
    (hopen : c.transport.closed = false) (haligned : c.calls.length = c.failover.runs.length)
    (hfresh : c.failover.progresses[slot]? = some (.start c.endpoints)) :
    ∃ begun : Client,
      c.executeWith spec slot =
        .ok (begun.advance c.failover.runs.length c.endpoints.length) ∧
      begun.transport = c.transport ∧
      begun.Trying c.failover.runs.length spec c.endpoints (.fixed c.failover.observers.registered)
        slot [] none := by
  obtain ⟨hslot, -⟩ := List.getElem?_eq_some_iff.1 hfresh
  refine ⟨c.withCall spec slot, executeWith_of_lt hopen hslot, rfl, rfl, ?_, ?_⟩
  · exact World.reached_beginWith _ hfresh (Audience.settles_fixed _ _ _ _)
  · simp [withCall, ← haligned]

/-- **Playing a whole call and asking the members agree**, whatever the deadline. The call begins with progress
that was made for it, so that it stands before its first member and no failure has been collected. -/
theorem agrees_play {c : Client} (spec : RequestSpec) (hopen : c.transport.closed = false)
    (haligned : c.calls.length = c.failover.runs.length) :
    ∃ begun : Client,
      (c.addProgress c.endpoints).executeWith spec c.failover.progresses.length = .ok begun ∧
      ∀ timetable deadline,
        Agrees ((waiting c.failover.runs.length).playFor timetable deadline
            (begun.endpoints.length + 1) 0 begun)
          (c.transport.ask spec timetable deadline 0 c.endpoints) c.failover.runs.length
          c.failover.progresses.length c.endpoints [] := by
  -- progress that was made last stands at the end, and is new
  have hfresh : (c.addProgress c.endpoints).failover.progresses[c.failover.progresses.length]? =
      some (.start (c.addProgress c.endpoints).endpoints) := by
    simp [addProgress, World.addProgress, endpoints, settings]
  obtain ⟨begun, hexecute, htransport, htrying⟩ :=
    executeWith_eq (c.addProgress c.endpoints) spec hopen haligned hfresh
  refine ⟨_, hexecute, ?_⟩
  intro timetable deadline
  have hendpoints : (begun.advance c.failover.runs.length c.endpoints.length).endpoints =
      c.endpoints := by
    have hsettings := (advances c.failover.runs.length c.endpoints.length begun).continues.settings
    rw [endpoints, hsettings, settings, htransport]
    rfl
  -- patience for every member, and once more to notice that nobody is left
  have hagrees := agrees_playFor timetable deadline 0 c.endpoints.length
    (c.endpoints.length + 1) htrying rfl (Nat.le_refl _) (Nat.le_succ _)
  rw [htransport] at hagrees
  rw [show ((c.addProgress c.endpoints).endpoints.length) = c.endpoints.length from rfl,
    show (c.addProgress c.endpoints).failover.runs.length = c.failover.runs.length from rfl,
    hendpoints]
  exact hagrees

/-- On an open client a call begins as one with progress of its own does. -/
theorem execute_of_begun {c begun : Client} {spec : RequestSpec} (hopen : c.transport.closed = false)
    (hbegun :
      (c.addProgress c.endpoints).executeWith spec c.failover.progresses.length = .ok begun) :
    c.execute spec = .ok begun := by
  unfold execute
  rw [hopen, if_neg Bool.false_ne_true]
  exact hbegun

/-- A whole call is its play from the client that has begun it. -/
theorem perform_of_begun {c begun : Client} {spec : RequestSpec}
    (hopen : c.transport.closed = false)
    (hbegun :
      (c.addProgress c.endpoints).executeWith spec c.failover.progresses.length = .ok begun)
    (timetable : Timetable) :
    c.perform spec timetable =
      let played := ((waiting c.failover.runs.length).playFor timetable none
        (begun.endpoints.length + 1) 0 begun).1.1
      (played, played.outcome? c.failover.runs.length) := by
  rw [perform, execute_of_begun hopen hbegun, playFrom, play, ← Waiting.fst_playFor]

/-- **A whole call comes to what asking the members comes to.** -/
theorem perform_eq {c : Client} (spec : RequestSpec) (timetable : Timetable)
    (hopen : c.transport.closed = false) (haligned : c.calls.length = c.failover.runs.length) :
    let asked := c.transport.ask spec timetable none 0 c.endpoints
    let errors := asked.failures.map Prod.snd
    (c.perform spec timetable).1.transport = asked.transport ∧
      (c.perform spec timetable).1.failover.invoked c.failover.runs.length =
        c.endpoints.take (errors.length + 1) ∧
      (c.perform spec timetable).2 = asked.verdict.outcome? c.endpoints errors := by
  obtain ⟨begun, hbegun, hagrees⟩ := agrees_play spec hopen haligned
  have h := hagrees timetable none
  rw [perform_of_begun hopen hbegun]
  exact ⟨h.transport, h.cameTo.invoked, h.cameTo.outcome⟩

/-- The first request is refused after a while, and no other one is ever answered. -/
def refusedThenSilent : Timetable := fun number =>
  if number = 0 then .ends 5 (.fails (.external ⟨.connectError, "refused"⟩)) else .never

end Client

end ClusterClient
