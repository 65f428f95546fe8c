import ClusterClient.Client.Watch
import ClusterClient.Proofs.Client.Asking
import ClusterClient.Proofs.Client.Deadline

/-!
# What a whole call hands over

However its attempts end, in time or not, a whole call hands over requests of its own alone: each carries
the call to one of the members of the client.

## The architecture

* **`HandsOver`**: what is handed over between two moments is of one kind. It is reflexive and transitive, so
  that a lemma for each operation of the transport is enough.
* **`handsOver_ask`**: asking members hands over their requests, by induction on the members.
* **`handsOver_watch`**, **`handsOver_perform`**: so do whole calls, with a deadline or without one.
* **`FailsWith`**: all that a whole call can fail with; **`failsWith_watch`** says so of a watch.
-/

namespace ClusterClient

namespace Transport

/-- What has been handed over, whether or not it was taken back. -/
def requests (t : Transport) : List Request := t.issued.map Issued.request

/-- All that is handed over from one moment to another is of a kind. -/
def HandsOver (kind : Request → Prop) (t t' : Transport) : Prop :=
  ∃ new, t'.requests = t.requests ++ new ∧ ∀ r ∈ new, kind r

namespace HandsOver

variable {kind : Request → Prop} {t t' t'' : Transport}

theorem of_issued_eq (h : t'.issued = t.issued) : HandsOver kind t t' :=
  ⟨[], by rw [requests, requests, h, List.append_nil], fun _ hr => absurd hr List.not_mem_nil⟩

theorem refl (kind : Request → Prop) (t : Transport) : HandsOver kind t t := of_issued_eq rfl

theorem trans (h : HandsOver kind t t') (h' : HandsOver kind t' t'') : HandsOver kind t t'' := by
  obtain ⟨new, hnew, hkind⟩ := h
  obtain ⟨new', hnew', hkind'⟩ := h'
  exact ⟨new ++ new', by rw [hnew', hnew, List.append_assoc], List.forall_mem_append.2 ⟨hkind, hkind'⟩⟩

theorem mono (h : HandsOver kind t t') {kind' : Request → Prop} (hmono : ∀ r, kind r → kind' r) :
    HandsOver kind' t t' := by
  obtain ⟨new, hnew, hkind⟩ := h
  exact ⟨new, hnew, fun r hr => hmono r (hkind r hr)⟩

/-- What has been handed over in the meantime is of the kind. -/
theorem mem_handedOver (h : HandsOver kind t t') : ∀ r ∈ t.handedOver t', kind r := by
  obtain ⟨new, hnew, hkind⟩ := h
  have hover : t.handedOver t' = new := by
    rw [handedOver, List.map_drop, ← requests, hnew]
    exact List.drop_left' (by rw [requests, List.length_map])
  rwa [hover]

end HandsOver

/-- Taking a request back does not undo that it was handed over. -/
theorem requests_withdraw (t : Transport) (number : Nat) : (t.withdraw number).requests = t.requests := by
  unfold requests withdraw
  refine List.ext_getElem? fun i => ?_
  rw [List.getElem?_map, List.getElem?_map, List.getElem?_modify]
  split <;> cases t.issued[i]? <;> rfl

/-- A request that is taken back stays among those that were handed over, and no other one is. -/
theorem handsOver_withdraw (kind : Request → Prop) (t : Transport) (number : Nat) :
    HandsOver kind t (t.withdraw number) :=
  ⟨[], by rw [requests_withdraw, List.append_nil], fun _ hr => absurd hr List.not_mem_nil⟩

/-- The request of an attempt carries the call to the member. There is at most one: none if it cannot be made,
and one that counts as handed over even if it is refused there. -/
theorem handsOver_dispatch (t : Transport) (spec : RequestSpec) (e : Endpoint) :
    HandsOver (spec.Asks t.room e) t (t.dispatch spec e).1 := by
  have hone {t' : Transport} (same : SameConnection t t') {r : Request} (hr : spec.Asks t.room e r) :
      HandsOver (spec.Asks t.room e) t (t'.handing [r]) := by
    refine ⟨[r], ?_, List.forall_mem_singleton.2 hr⟩
    rw [requests, requests, handing, same.issued, List.map_append, List.map_map]
    rfl
  have h := handover_dispatch t spec e
  generalize t.dispatch spec e = made at h
  obtain ⟨t', result⟩ := made
  cases h with
  | none same f => exact .of_issued_eq same.issued
  | refused same hr f => exact hone same hr
  | waiting same hr => exact hone same hr

theorem handsOver_conclude (kind : Request → Prop) (t : Transport) (spec : RequestSpec) (e : Endpoint)
    (r : Request) (a : Answer) : HandsOver kind t (t.conclude spec e r a).1 :=
  .of_issued_eq (sameConnection_conclude t spec e r a).issued

/-- **Asking members hands over their requests, and no others.** The induction is on the members: a request to
the first of them is handed over at most once, and withdrawing it or taking its answer hands over nothing. What
is handed over later goes to the members that are left. -/
theorem handsOver_ask (spec : RequestSpec) (timetable : Timetable) (deadline : Option Nat) (now : Nat)
    (members : List Endpoint) (t : Transport) :
    HandsOver (fun r => ∃ e ∈ members, spec.Asks t.room e r) t
      (t.ask spec timetable deadline now members).transport := by
  induction members generalizing now t with
  | nil => exact .refl _ t
  | cons e rest ih =>
    -- what the first member is asked, and what the others are asked later, is of one kind
    have hfirst : HandsOver (fun r => ∃ e' ∈ e :: rest, spec.Asks t.room e' r) t (t.dispatch spec e).1 :=
      (handsOver_dispatch t spec e).mono fun r hr => ⟨e, List.mem_cons_self, hr⟩
    have hrest (now : Nat) (t' : Transport) (hroom : t'.room = t.room) :
        HandsOver (fun r => ∃ e' ∈ e :: rest, spec.Asks t.room e' r) t'
          (t'.ask spec timetable deadline now rest).transport :=
      (ih now t').mono fun r ⟨e', he', hr⟩ => ⟨e', List.mem_cons_of_mem _ he', hroom ▸ hr⟩
    have hroom := room_dispatch t spec e
    rcases hdispatch : t.dispatch spec e with ⟨t', f | pending⟩
    · rw [hdispatch] at hfirst hroom
      rw [ask_of_error hdispatch]
      exact hfirst.trans (hrest now t' hroom)
    · rw [hdispatch] at hfirst hroom
      cases hcourse : timetable pending.number with
      | never =>
        rw [ask_of_never hdispatch hcourse]
        split
        · exact hfirst.trans (handsOver_withdraw _ t' _)
        · exact hfirst
      | ends delay a =>
        cases hlate : Waiting.isLate deadline now delay with
        | true =>
          rw [ask_of_late hdispatch hcourse hlate]
          exact hfirst.trans (handsOver_withdraw _ t' _)
        | false =>
          have hconclude := handsOver_conclude (fun r => ∃ e' ∈ e :: rest, spec.Asks t.room e' r) t' spec e
            pending.request a
          have hroom' := (sameConnection_conclude t' spec e pending.request a).room
          rw [ask_of_ends hdispatch hcourse hlate]
          rcases hended : t'.conclude spec e pending.request a with ⟨t'', outcome⟩
          rw [hended] at hconclude hroom'
          dsimp only
          cases outcome.passed? with
          | none => exact hfirst.trans hconclude
          | some f => exact (hfirst.trans hconclude).trans (hrest (now + delay) t'' (hroom'.trans hroom))

/-- What decides an asking and cannot be shown comes from an exchange. The failures that are made here all have
a message, so that the attempt that has decided it was answered with one that has none. -/
theorem hides_of_ask {spec : RequestSpec} {timetable : Timetable} {deadline : Option Nat} {now : Nat}
    {members : List Endpoint} {t : Transport} {f why : Failure}
    (h : (t.ask spec timetable deadline now members).verdict = .decided (.raised f))
    (hwhy : f.whyMute? = some why) : ∃ number delay g, timetable number = .ends delay (.fails g) ∧ g.Hides why := by
  induction members generalizing now t with
  | nil => cases h
  | cons e rest ih =>
    rcases hdispatch : t.dispatch spec e with ⟨t', f' | pending⟩
    · rw [ask_of_error hdispatch] at h
      exact ih h
    · cases hcourse : timetable pending.number with
      | never =>
        rw [ask_of_never hdispatch hcourse] at h
        split at h <;> cases h
      | ends delay a =>
        cases hlate : Waiting.isLate deadline now delay with
        | true =>
          rw [ask_of_late hdispatch hcourse hlate] at h
          cases h
        | false =>
          rw [ask_of_ends hdispatch hcourse hlate] at h
          rcases hended : t'.conclude spec e pending.request a with ⟨t'', outcome⟩
          rw [hended] at h
          dsimp only at h
          cases hpassed : outcome.passed? with
          | some f' =>
            rw [hpassed] at h
            exact ih h
          | none =>
            -- this is the attempt that has decided it
            rw [hpassed] at h
            obtain rfl := Verdict.decided.inj h
            obtain ⟨g, rfl, hg⟩ := hides_of_conclude (congrArg Prod.snd hended) hwhy
            exact ⟨_, _, g, hcourse, hg⟩

end Transport

namespace Client

open Transport (HandsOver)

variable {c : Client}

/-- A closed client makes no call. -/
theorem perform_of_closed (hclosed : c.transport.closed = true) (spec : RequestSpec)
    (timetable : Timetable) : c.perform spec timetable = (c, some (.raised .clientClosed)) := by
  rw [perform, execute, if_pos hclosed]
  rfl

/-- **A whole call hands over requests of its own alone.** -/
theorem handsOver_perform (haligned : c.calls.length = c.failover.runs.length) (spec : RequestSpec)
    (timetable : Timetable) :
    HandsOver (fun r => ∃ e ∈ c.endpoints, spec.Asks c.room e r) c.transport (c.perform spec timetable).1.transport := by
  cases hopen : c.transport.closed with
  | true =>
    rw [perform_of_closed hopen]
    exact .refl _ _
  | false =>
    rw [(perform_eq spec timetable hopen haligned).1]
    exact Transport.handsOver_ask spec timetable none 0 c.endpoints c.transport

/-- Nor does it make one that must not take longer than a time. -/
theorem performWithin_of_closed (hclosed : c.transport.closed = true) (spec : RequestSpec) (limit : Scalar)
    (nanoseconds : Nat) (timetable : Timetable) :
    c.performWithin spec limit nanoseconds timetable =
      (c.addProgress c.endpoints, some (.raised .clientClosed)) := by
  have hprepared : (c.addProgress c.endpoints).transport.closed = true := hclosed
  unfold performWithin
  dsimp only
  rw [executeWith, if_pos hprepared]

/-- So does one that must not take longer than a time: it is the same asking, cut short by the deadline. -/
theorem handsOver_performWithin (haligned : c.calls.length = c.failover.runs.length) (spec : RequestSpec)
    (limit : Scalar) (nanoseconds : Nat) (timetable : Timetable) :
    HandsOver (fun r => ∃ e ∈ c.endpoints, spec.Asks c.room e r) c.transport
      (c.performWithin spec limit nanoseconds timetable).1.transport := by
  cases hopen : c.transport.closed with
  | true =>
    rw [performWithin_of_closed hopen]
    exact .of_issued_eq rfl
  | false =>
    obtain ⟨begun, hbegun, hagrees⟩ := agrees_play spec hopen haligned
    have htransport := (hagrees timetable (some nanoseconds)).transport
    have hasked := Transport.handsOver_ask spec timetable (some nanoseconds) 0 c.endpoints c.transport
    rw [← htransport] at hasked
    rw [performWithin_of_begun hbegun]
    dsimp only
    split <;> exact hasked

/-- And so does a watch, whether or not its time passes. -/
theorem handsOver_watch (haligned : c.calls.length = c.failover.runs.length) (w : Watch)
    (timetable : Timetable) :
    HandsOver (fun r => ∃ e ∈ c.endpoints, w.request.Asks c.room e r) c.transport (c.watch w timetable).1.transport := by
  unfold watch
  split
  · exact handsOver_perform haligned w.request timetable
  · split
    · exact handsOver_perform haligned w.request timetable
    · exact .refl _ _
    · exact .refl _ _
    · exact handsOver_performWithin haligned w.request _ _ timetable

/-! ## How whole calls fail -/

/-- What a whole call fails with: its client is closed, all members have failed, its time has passed or lies too far
ahead, or an exchange has failed with what cannot be shown. -/
inductive FailsWith (c : Client) (timetable : Timetable) : Failure → Prop
  | closed : FailsWith c timetable .clientClosed
  | exhausted (errors : List Failure) : FailsWith c timetable (.cluster errors c.endpoints)
  | late (room : Room) (limit : Scalar) (errors : List Failure) :
      FailsWith c timetable (.ofDeadline room limit errors)
  | beyond : FailsWith c timetable (.external .tooLarge)
  | unshown {number delay : Nat} {f why : Failure} (hends : timetable number = .ends delay (.fails f))
      (hides : f.Hides why) : FailsWith c timetable why

variable {timetable : Timetable}

/-- Members that were asked have failed altogether, or one of them with what cannot be shown, if there is a
failure. An asking that was interrupted or never ends has no outcome, and a response is no failure. -/
theorem FailsWith.of_ask {spec : RequestSpec} {deadline : Option Nat} {f : Failure}
    (hf : (c.transport.ask spec timetable deadline 0 c.endpoints).verdict.outcome? c.endpoints
      ((c.transport.ask spec timetable deadline 0 c.endpoints).failures.map Prod.snd) = some (.raised f)) :
    c.FailsWith timetable f := by
  cases hverdict : (c.transport.ask spec timetable deadline 0 c.endpoints).verdict with
  | exhausted =>
    rw [hverdict] at hf
    cases hf
    exact .exhausted _
  | decided outcome =>
    rw [hverdict] at hf
    cases outcome with
    | raised f' =>
      obtain ⟨why, hwhy, heq⟩ := Option.map_eq_some_iff.1 hf
      obtain rfl := Outcome.raised.inj heq
      obtain ⟨number, delay, g, hends, hides⟩ := Transport.hides_of_ask hverdict hwhy
      exact .unshown hends hides
    | _ => cases hf
  -- an asking that was interrupted, or never ends, has no outcome of its own
  | interrupted =>
    rw [hverdict] at hf
    cases hf
  | hanging =>
    rw [hverdict] at hf
    cases hf

/-- A plain call is refused by a closed client, or fails as asking its members does. -/
theorem failsWith_perform (haligned : c.calls.length = c.failover.runs.length) {spec : RequestSpec} {f : Failure}
    (hf : (c.perform spec timetable).2 = some (.raised f)) : c.FailsWith timetable f := by
  cases hopen : c.transport.closed with
  | true =>
    rw [perform_of_closed hopen] at hf
    cases hf
    exact .closed
  | false =>
    rw [(perform_eq spec timetable hopen haligned).2.2] at hf
    exact .of_ask hf

/-- So does a call that must not take longer than a time, unless the time is what it fails for. A call that was
interrupted fails with the deadline and nothing else. -/
theorem failsWith_performWithin (haligned : c.calls.length = c.failover.runs.length) {spec : RequestSpec}
    {limit : Scalar} {nanoseconds : Nat} {f : Failure}
    (hf : (c.performWithin spec limit nanoseconds timetable).2 = some (.raised f)) : c.FailsWith timetable f := by
  cases hopen : c.transport.closed with
  | true =>
    rw [performWithin_of_closed hopen] at hf
    cases hf
    exact .closed
  | false =>
    obtain ⟨begun, hbegun, hagrees⟩ := agrees_play spec hopen haligned
    -- the call was interrupted at its deadline, or it has the outcome of the asking
    rw [performWithin_of_begun hbegun] at hf
    dsimp only at hf
    split at hf
    · cases hf
      exact .late _ _ _
    · rw [(hagrees timetable (some nanoseconds)).cameTo.outcome, List.nil_append] at hf
      exact .of_ask hf

/-- **A watch fails because its client is closed, because all members have failed, or because of its time**; or an
exchange has failed with what cannot be shown. -/
theorem failsWith_watch (haligned : c.calls.length = c.failover.runs.length) {w : Watch} {f : Failure}
    (hf : (c.watch w timetable).2 = some (.raised f)) : c.FailsWith timetable f := by
  unfold watch at hf
  split at hf
  · exact failsWith_perform haligned hf
  · split at hf
    · exact failsWith_perform haligned hf
    · cases hf
      exact .late _ _ _
    · cases hf
      exact .beyond
    · exact failsWith_performWithin haligned hf

end Client

end ClusterClient
