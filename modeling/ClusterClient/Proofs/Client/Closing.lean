import ClusterClient.Proofs.Client.Rests
import ClusterClient.Proofs.Client.Uses

/-!
# Closing a client

A client is asked whether it is closed in two places: when a call begins, and whenever a request is to be
made. The second place is what counts for calls that are under way. A failed attempt of theirs leads to the
next member as before; but nothing can be asked of that member, nor of those behind it, so that the call has
ended by its next rest.
-/

namespace ClusterClient

namespace Client

variable {c c' : Client} {call : Nat}

/-- A closed client makes no further request for a call. -/
theorem Advances.calls_of_closed (h : Advances call c c') (hclosed : c.transport.closed = true) :
    c'.calls = c.calls := by
  induction h with
  | still => rfl
  | @asked c spec e pending hmade =>
    obtain ⟨f, hfails⟩ := Transport.dispatch_of_closed hclosed spec e
    rw [hfails] at hmade
    cases hmade
  | abandoned => rfl
  | passed _ _ ih => exact ih ((Transport.closed_dispatch _ _ _).trans hclosed)

/-- Whatever a call of a closed client hears while it waits, it waits for nothing afterwards. The signal ends
the attempt; the run may want to go on to its next member, but the closed transport makes no request for it. -/
theorem pending_ofSignal_of_closed (hclosed : c.transport.closed = true) (h : c.Stands call)
    (signal : Signal) : (c.step (.ofSignal call signal)).pending? call = none := by
  cases h with
  | @ended run outcome spec hthere hphase hasks =>
    have hnobody : c.failover.awaited? call = none := by simp [World.awaited?, hthere, hphase]
    -- a run that has ended waits for nothing, so that no signal reaches it
    have hstays : c.step (.ofSignal call signal) = c := by
      cases signal with
      | answer a => rw [Action.ofSignal, Client.step, answer, hnobody]
      | cancel => rw [Action.ofSignal, Client.step, cancel, hasks]
    rw [hstays]
    simp [pending?, hasks]
  | @waiting spec listeners slot attempt p e pending hfollows hasks hleft =>
    have hthere := (hfollows.owns fun hlive => by cases hlive).there
    have hawaited : c.failover.awaited? call = some (attempt, e) := by simp [World.awaited?, hthere]
    obtain ⟨hin, -⟩ := List.getElem?_eq_some_iff.1 hasks
    cases signal with
    | answer a =>
      have hsame := Transport.sameConnection_conclude c.transport spec e pending.request a
      -- the run goes on to its next member, but a closed transport makes no request for it
      let heard : Client :=
        ⟨(c.transport.conclude spec e pending.request a).1,
          c.failover.resume call (c.transport.conclude spec e pending.request a).2,
          c.calls.set call ⟨spec, none⟩, c.fans⟩
      have hcalls : (heard.advance call c.endpoints.length).calls = c.calls.set call ⟨spec, none⟩ :=
        (advances call _ heard).calls_of_closed (hsame.closed.trans hclosed)
      rw [Action.ofSignal, Client.step, answer_eq hawaited hasks, pending?, hcalls]
      simp [hin]
    | cancel =>
      rw [Action.ofSignal, Client.step, cancel_eq hasks]
      simp [pending?, hin]

/-- A call of a closed client that hears anything has ended by then. The first signal ends it, and what has
ended stays as it is through all later steps. -/
theorem outcome_of_signal (hclosed : c.transport.closed = true) (h : c.Stands call) {later : List Action}
    (hsignals : signalsFor call later ≠ []) : ∃ outcome, (c.steps later).outcome? call = some outcome := by
  -- induction on the steps: those before the first signal leave the client closed and the call where it
  -- stands
  induction later generalizing c with
  | nil => exact absurd rfl hsignals
  | cons a rest ih =>
    have hstill := ((used_step c a).of_closed hclosed).1
    have hstands := stands_step h a
    cases hsignal : a.signal? call with
    | none =>
      refine ih hstill hstands ?_
      rwa [signalsFor, List.filterMap_cons_none hsignal] at hsignals
    | some signal =>
      have hnothing := pending_ofSignal_of_closed hclosed h signal
      rw [← Action.eq_of_signal hsignal] at hnothing
      obtain ⟨outcome, hended⟩ := hstands.outcome_of_no_pending hnothing
      exact ⟨outcome, outcome_steps_of_ended hended rest⟩

/-- The connections of a client are closed once, when it is. -/
theorem Reachable.closedOnce (h : c.Reachable) : c.transport.ClosedOnce := by
  obtain ⟨room, settings, population, history, rfl⟩ := h
  have hfresh : (fresh room settings population).transport.ClosedOnce := rfl
  exact (used_steps _ history).closedOnce hfresh

/-- **Closing is final**, whatever happens before and afterwards. Once a client is closed, it hands over no
request any more, be it for a call under way, for one that begins later, or for a task of a call to all
members; and its connections have been closed once, however often it is closed. Each call that was under
way waits for a request that was handed over before. While it hears nothing, it goes on waiting; as soon as
its attempt has ended, whether by an answer or because it is cancelled, the whole call has. Calls that are
made later are refused. -/
theorem closing_is_final (hreachable : c.Reachable) (later : List Action) :
    let after := (c.step .close).steps later
    after.transport.requests = c.transport.requests ∧ after.transport.closed = true ∧
    after.transport.closings = 1 ∧
    (∀ call < c.failover.runs.length,
      (c.outcome? call = none → ∃ pending, c.pending? call = some pending) ∧
      (signalsFor call later = [] →
        after.outcome? call = c.outcome? call ∧ after.pending? call = c.pending? call) ∧
      (signalsFor call later ≠ [] → ∃ outcome, after.outcome? call = some outcome)) ∧
    (∀ spec, after.execute spec = .error .clientClosed ∧ after.fanOut spec = .error .clientClosed ∧
      ∀ slot, after.executeWith spec slot = .error .clientClosed) := by
  intro after
  have hclosed := closed_close c
  have hkept : (c.step .close).transport.requests = c.transport.requests := by
    simp only [Client.step, close, Transport.close]
    split <;> rfl
  obtain ⟨hstill, hrequests⟩ := (used_steps (c.step .close) later).of_closed hclosed
  -- a client that can be reached has been closed as often as its connections have been
  have honce : after.transport.closings = 1 := by
    have h := ((hreachable.step .close).steps later).closedOnce
    rwa [Transport.ClosedOnce, if_pos hstill] at h
  refine ⟨hrequests.trans hkept, hstill, honce, ?_, ?_⟩
  · intro call hin
    -- every call stands at a rest, where it either waits for a request or has ended
    have hstands := hreachable.stands hin
    have hstands' := stands_step hstands .close
    refine ⟨?_, fun hsignals => unheard_steps hstands' hsignals,
      fun hsignals => outcome_of_signal hclosed hstands' hsignals⟩
    intro hgoing
    cases hpending : c.pending? call with
    | some pending => exact ⟨pending, rfl⟩
    | none =>
      obtain ⟨outcome, hended⟩ := hstands.outcome_of_no_pending hpending
      rw [hgoing] at hended
      cases hended
  · intro spec
    have hwith (slot : Nat) : after.executeWith spec slot = .error .clientClosed := by
      rw [executeWith, if_pos hstill]
    exact ⟨by rw [execute, if_pos hstill], by rw [fanOut, if_pos hstill], hwith⟩

/-- A client of two members that waits for the first of them, and has begun a call to both. -/
def busy : Client := ofTwo.steps [.execute (.get "v2/keys/foo"), .fanOut (.get "v2/keys/foo")]

theorem reachable_busy : busy.Reachable := reachable_ofTwo.steps _

/-- Its tasks start once it is closed, it is closed again, and the member refuses. Nothing further is asked of
anybody, and the call has ended. -/
theorem closing_is_final_busy :
    let refused : Answer := .fails (.external ⟨.connectError, "refused"⟩)
    let later : List Action :=
      [.startTask 0 0, .close, .answer 0 refused, .execute (.get "v2/keys/foo")]
    let after := (busy.step .close).steps later
    busy.Reachable ∧ 0 < busy.failover.runs.length ∧ busy.outcome? 0 = none ∧ signalsFor 0 later ≠ [] ∧
      after.transport.requests = busy.transport.requests ∧ busy.transport.requests.length = 1 ∧
      after.transport.closings = 1 ∧ ∃ outcome, after.outcome? 0 = some outcome := by
  intro refused later after
  have hcall : 0 < busy.failover.runs.length := by decide +kernel
  have hgoing : (busy.outcome? 0).isNone = true := by decide +kernel
  have hone : busy.transport.requests.length = 1 := by decide +kernel
  have hsignals : signalsFor 0 later ≠ [] := List.cons_ne_nil _ _
  obtain ⟨hrequests, -, honce, hcalls, -⟩ := closing_is_final reachable_busy later
  exact ⟨reachable_busy, hcall, Option.isNone_iff_eq_none.1 hgoing, hsignals, hrequests, hone, honce,
    (hcalls 0 hcall).2.2 hsignals⟩

end Client

end ClusterClient
