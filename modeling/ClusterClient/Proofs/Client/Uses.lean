import Mathlib.Logic.Relation
import ClusterClient.Proofs.Client.Sending

/-!
# What a client does with its transport

Whatever happens to a client, its transport is used in four ways: a request is made, an answer is read, a
wait is given up, and the transport is closed. A law about transports is proved of the four uses, and
**`used_steps`** carries it over to a client after any steps.

Here the law is about closing: a transport that is closed stays so and hands nothing over, and its connections
are closed once.
-/

namespace ClusterClient

namespace Transport

variable {t t' : Transport}

/-! ## What closing does to a transport -/

/-- One use of a transport. -/
inductive Use (t : Transport) : Transport → Prop where
  | dispatch (spec : RequestSpec) (e : Endpoint) : Use t (t.dispatch spec e).1
  | conclude (spec : RequestSpec) (e : Endpoint) (r : Request) (a : Answer) :
      Use t (t.conclude spec e r a).1
  | withdraw (number : Nat) : Use t (t.withdraw number)
  | shut : Use t t.close

/-! None of the first three closes the connections. What they have in common is that they print, and that they hand
requests over or take them back. -/

/-- Printing closes no connections, whether or not everything can be printed. -/
theorem closings_print (t : Transport) (trace : Console.Printed) : (t.print trace).1.closings = t.closings := by
  unfold print
  split
  · dsimp only
    split <;> rfl
  · rfl

/-- Taking what comes back for a request closes no connections: at most, it is printed. -/
theorem closings_receive (t : Transport) (r : Request) (a : Answer) :
    (t.receive r a).1.closings = t.closings := by
  cases a with
  | reply reply =>
    have h := closings_print t
      (Console.Trace.response t.room consoleWidth r.url reply.status reply.headers reply.body)
    rw [receive]
    split <;> next heq => rw [heq] at h; exact h
  | fails f =>
    cases f with
    | external e =>
      have h := closings_print t (Console.Trace.error consoleWidth r.method r.url e.kind.name e.message)
      simp only [receive]
      split
      · split <;> next heq => rw [heq] at h; exact h
      · rfl
    | mute kind why =>
      simp only [receive]
      split <;> rfl
    | _ => rfl
  | cancelled => rfl

/-- Nor does drawing a conclusion from it, which touches the transport no further. -/
theorem closings_conclude (t : Transport) (spec : RequestSpec) (e : Endpoint) (r : Request)
    (a : Answer) : (t.conclude spec e r a).1.closings = t.closings := by
  have h := closings_receive t r a
  unfold conclude
  split
  · next heq =>
    rw [heq] at h
    split <;> exact h
  · next heq => rw [heq] at h; exact h
  · next heq => rw [heq] at h; exact h

/-- Building a request and handing it over closes no connections, wherever it fails on the way: at its headers,
its body, or when it is printed or handed over. -/
theorem closings_issue (t : Transport) (method url : Text) (headers : Headers) (content : Content)
    (longPoll : Bool) : (t.issue method url headers content longPoll).1.closings = t.closings := by
  unfold issue
  split
  · rfl
  · split
    · rfl
    · next headers _ =>
      split
      · rfl
      · next body _ =>
        have h := closings_print t
          (Console.Trace.request t.room consoleWidth method url headers (body.getD []))
        split
        · next heq => rw [heq] at h; exact h
        · next heq =>
          rw [heq] at h
          rw [hand]
          split <;> exact h

/-- So an attempt against a member closes none either. -/
theorem closings_dispatch (t : Transport) (spec : RequestSpec) (e : Endpoint) :
    (t.dispatch spec e).1.closings = t.closings := by
  cases haddress : spec.address t.room e with
  | error f => rw [dispatch_of_address_error haddress]
  | ok url =>
    cases hbody : spec.body t.room with
    | error f => rw [dispatch_of_body_error haddress hbody]
    | ok body =>
      rw [dispatch_eq_issue haddress hbody]
      exact closings_issue t _ _ _ _ _

/-- The connections are closed when the transport is, and never again. -/
def ClosedOnce (t : Transport) : Prop := t.closings = if t.closed then 1 else 0

/-- Each use keeps it so: the first closing closes the connections, and any further one finds them closed. No
other use closes anything. -/
theorem Use.closedOnce (h : t.Use t') (hbefore : t.ClosedOnce) : t'.ClosedOnce := by
  unfold ClosedOnce at hbefore ⊢
  cases h with
  | dispatch spec e => rw [closings_dispatch, closed_dispatch, hbefore]
  | conclude spec e r a =>
    rw [closings_conclude, (sameConnection_conclude t spec e r a).closed, hbefore]
  | withdraw number => exact hbefore
  | shut =>
    -- only this use counts, and only while the transport is open
    unfold close
    cases hclosed : t.closed with
    | true => rwa [if_pos rfl]
    | false =>
      rw [hclosed] at hbefore
      show t.closings + 1 = 1
      rw [hbefore]
      rfl

/-- On a closed transport an attempt fails, for want of an address or of a body or because the transport is
closed, and leaves no trace. -/
theorem dispatch_of_closed (hclosed : t.closed = true) (spec : RequestSpec) (e : Endpoint) :
    ∃ f, t.dispatch spec e = (t, .error f) := by
  cases haddress : spec.address t.room e with
  | error f => exact ⟨_, dispatch_of_address_error haddress⟩
  | ok url =>
    cases hbody : spec.body t.room with
    | error f => exact ⟨_, dispatch_of_body_error haddress hbody⟩
    | ok body =>
      refine ⟨Failure.against e .transportClosed, ?_⟩
      rw [dispatch_eq_issue haddress hbody, issue, if_pos hclosed]
      rfl

/-- **A closed transport is never opened again, and hands nothing over**, however it is used. -/
theorem Use.of_closed (h : t.Use t') (hclosed : t.closed = true) :
    t'.closed = true ∧ t'.requests = t.requests := by
  cases h with
  | dispatch spec e =>
    obtain ⟨f, hfails⟩ := dispatch_of_closed hclosed spec e
    rw [hfails]
    exact ⟨hclosed, rfl⟩
  | conclude spec e r a =>
    have hsame := sameConnection_conclude t spec e r a
    rw [requests, hsame.issued]
    exact ⟨hsame.closed.trans hclosed, rfl⟩
  | withdraw number => exact ⟨hclosed, requests_withdraw t number⟩
  | shut =>
    rw [close, if_pos hclosed]
    exact ⟨hclosed, rfl⟩

/-- Any uses of a transport, one after the other. -/
abbrev Used (t t' : Transport) : Prop := Relation.ReflTransGen Use t t'

/-- So the connections are closed once over any uses, by induction on them. -/
theorem Used.closedOnce (h : t.Used t') (hbefore : t.ClosedOnce) : t'.ClosedOnce := by
  induction h with
  | refl => exact hbefore
  | tail _ huse ih => exact huse.closedOnce ih

/-- And a closed transport stays closed and silent over any uses. -/
theorem Used.of_closed (h : t.Used t') (hclosed : t.closed = true) :
    t'.closed = true ∧ t'.requests = t.requests := by
  induction h with
  | refl => exact ⟨hclosed, rfl⟩
  | tail _ huse ih =>
    obtain ⟨hstill, hrequests⟩ := huse.of_closed ih.1
    exact ⟨hstill, hrequests.trans ih.2⟩

end Transport

namespace Client

variable {c c' : Client}

/-! ## What a client does with its transport

Operation by operation, and then step by step. -/

/-- The requests of a call that fail at once are uses, and so is the one that then waits. -/
theorem Advances.used {call : Nat} (h : Advances call c c') : c.transport.Used c'.transport := by
  induction h with
  | still => exact .refl
  | asked => exact .single (.dispatch _ _)
  | abandoned => exact .single (.dispatch _ _)
  | passed _ _ ih => exact .head (.dispatch _ _) ih

/-- A call that begins uses the transport for its first request only. -/
theorem used_executeWith {spec : RequestSpec} {progress : Nat} (h : c.executeWith spec progress = .ok c') :
    c.transport.Used c'.transport := by
  obtain ⟨-, rfl⟩ | ⟨-, rfl⟩ := executeWith_cases h
  · exact .refl
  · have hrest := (advances c.failover.runs.length c.endpoints.length (c.withCall spec progress)).used
    exact hrest

theorem used_execute {spec : RequestSpec} (h : c.execute spec = .ok c') :
    c.transport.Used c'.transport := by
  have hbegun : (c.addProgress c.endpoints).transport.Used c'.transport :=
    used_executeWith (executeWith_of_execute h)
  exact hbegun

/-- An answer is read, and the call makes its next request if it needs one. -/
theorem used_answer (call : Nat) (a : Answer) (c : Client) :
    c.transport.Used (c.answer call a).transport := by
  unfold answer
  split
  · next attempt e spec pending _ _ =>
    have huse := Transport.Use.conclude (t := c.transport) spec e pending.request a
    generalize c.transport.conclude spec e pending.request a = concluded at huse
    obtain ⟨t, outcome⟩ := concluded
    let heard : Client :=
      ⟨t, c.failover.resume call outcome, c.calls.set call ⟨spec, none⟩, c.fans⟩
    have hrest := (advances call heard.endpoints.length heard).used
    exact .head huse hrest
  · exact .refl

theorem used_cancel (call : Nat) (c : Client) : c.transport.Used (c.cancel call).transport := by
  unfold cancel
  split
  · exact .single (.withdraw _)
  · exact .refl

theorem used_startTask (fan i : Nat) (c : Client) : c.transport.Used (c.startTask fan i).transport := by
  unfold startTask
  split
  · exact .single (.dispatch _ _)
  · exact .refl

theorem used_answerTask (fan i : Nat) (a : Answer) (c : Client) :
    c.transport.Used (c.answerTask fan i a).transport := by
  unfold answerTask
  split
  · exact .single (.conclude _ _ _ _)
  · exact .refl

theorem used_cancelTask (fan : Nat) (c : Client) (i : Nat) :
    c.transport.Used (c.cancelTask fan i).transport := by
  unfold cancelTask
  split
  · exact .refl
  · exact .single (.withdraw _)
  · exact .refl

/-- Stopping a call to all members gives up the waits of its tasks, one after the other. -/
theorem used_stopFan (fan : Nat) (c : Client) : c.transport.Used (c.stopFan fan).transport := by
  have hfold (tasks : List Nat) (c : Client) :
      c.transport.Used (tasks.foldl (cancelTask fan) c).transport := by
    induction tasks generalizing c with
    | nil => exact .refl
    | cons i rest ih => exact (used_cancelTask fan c i).trans (ih _)
  unfold stopFan
  split
  · exact .refl
  · exact hfold _ c

/-- The next item of a call to all members is there already; if it is the last one, the rest is given up. The
transport is used only for that, since no item waits for an exchange of its own. -/
theorem used_nextItem (fan : Nat) (c : Client) : c.transport.Used (c.nextItem fan).1.transport := by
  unfold nextItem
  split
  · exact .refl
  · split
    · exact .refl
    · split
      · dsimp only
        split
        · exact .refl
        · have hstop := used_stopFan fan
            { c with fans := c.fans.modify fan fun f => { f with taken := f.taken + 1 } }
          exact hstop
      · exact .refl

/-- **Any step uses the transport** in one of its four ways, any number of times. A call to all members sends
nothing until its tasks start, and the registry and new progress have nothing to do with it. -/
theorem used_step (c : Client) (a : Action) : c.transport.Used (c.step a).transport := by
  cases a with
  | execute spec =>
    simp only [step]
    cases h : c.execute spec with
    | error f => exact .refl
    | ok c' => exact used_execute h
  | executeWith spec progress =>
    simp only [step]
    cases h : c.executeWith spec progress with
    | error f => exact .refl
    | ok c' => exact used_executeWith h
  | answer call a => exact used_answer call a c
  | cancel call => exact used_cancel call c
  | fanOut spec =>
    -- a call to all members sends nothing until its tasks start
    have htransport : (c.step (.fanOut spec)).transport = c.transport := by
      simp only [step, fanOut]
      split <;> rfl
    rw [htransport]
  | startTask fan i => exact used_startTask fan i c
  | answerTask fan i a => exact used_answerTask fan i a c
  | nextItem fan => exact used_nextItem fan c
  | stopFan fan => exact used_stopFan fan c
  | change change => exact .refl
  | addProgress endpoints => exact .refl
  | close => exact .single .shut

/-- **So do any steps.** -/
theorem used_steps (c : Client) (actions : List Action) :
    c.transport.Used (c.steps actions).transport := by
  induction actions generalizing c with
  | nil => exact .refl
  | cons a rest ih => exact (used_step c a).trans (ih (c.step a))

/-- A client that is closed has a closed transport, be it for the first time or not. -/
theorem closed_close (c : Client) : (c.step .close).transport.closed = true := by
  show c.transport.close.closed = true
  unfold Transport.close
  split
  · next hbefore => exact hbefore
  · rfl

end Client

end ClusterClient
