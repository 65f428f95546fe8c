import ClusterClient.Failover.Observers
import ClusterClient.Failover.Progress
import ClusterClient.Outcome

/-!
# Runs

A run tries an operation against members until one attempt succeeds. It is at rest only while an attempt
is under way; between two attempts, nothing else happens. The first success ends the run with its value,
and a failure is recorded and moves it on. When all members have failed, the run fails with all their
failures. A cancelled attempt ends the run at once, and leaves its progress as it is.

A failure that is recorded is also asked for its message, before anybody hears of it. If it has none, the run ends
with whatever asking has failed with, however many members are left.
-/

namespace ClusterClient

/-- Where a run stands: an attempt is under way, the run has ended, or an event never ends. -/
inductive Phase (α : Type) where
  | attempting (attempt : Nat) (endpoint : Endpoint)
  | ended (outcome : Outcome α)
  | stuck

/-- The member whose attempt is under way. -/
def Phase.endpoint? {α : Type} : Phase α → Option Endpoint
  | attempting _ e => some e
  | _ => none

/-- A run: the members it is over, who hears of it, and which progress it uses. -/
structure Run (α : Type) where
  own : List Endpoint
  audience : Audience
  progress : Nat
  phase : Phase α
  /-- The members that have been tried, in order. -/
  invoked : List Endpoint

/-- What a run changes from one rest to the next. -/
structure Moment (α : Type) where
  progress : Progress
  observers : Observers
  phase : Phase α

namespace Moment

/-- An event is told, and then it goes on. -/
def tell {α : Type} (population : Population) (audience : Audience) (call : Nat) (event : Event)
    (p : Progress) (o : Observers) (phase : Phase α) : Moment α :=
  match audience.emit population call event o with
  | some o => ⟨p, o, phase⟩
  | none => ⟨p, o, .stuck⟩

/-- The next attempt starts, or all members have failed. -/
def proceed {α : Type} (population : Population) (audience : Audience) (call : Nat) (p : Progress)
    (o : Observers) : Moment α :=
  match p.next with
  | (some e, p) =>
    -- attempts are numbered from zero, and the member has just been counted
    let attempt := p.attempts - 1
    tell population audience call ⟨.start, attempt, some e⟩ p o (.attempting attempt e)
  | (none, p) =>
    -- nobody is left: this is told before the run fails
    tell population audience call ⟨.exhausted p.errors, p.attempts, none⟩ p o
      (.ended (.raised (.ofMembers p.errors p.attempted)))

/-- A run begins, if it may use the progress. -/
def begin {α : Type} (population : Population) (audience : Audience) (call : Nat)
    (own : List Endpoint) (p : Progress) (o : Observers) : Moment α :=
  match p.accept own with
  | .ok () => proceed population audience call p o
  | .error f => ⟨p, o, .ended (.raised f)⟩

/-- An attempt ends. -/
def resume {α : Type} (population : Population) (audience : Audience) (call : Nat) (attempt : Nat)
    (endpoint : Endpoint) (outcome : Outcome α) (p : Progress) (o : Observers) : Moment α :=
  match outcome with
  | .returned value =>
    -- the attempt has landed by the time that its success is told
    tell population audience call ⟨.success p.errors.length, attempt, some endpoint⟩ p.land o
      (.ended (.returned value))
  | .raised f =>
    -- the failure is recorded first, so that it stays even if the run ends right here
    let p := p.recordFailure f
    match f.whyMute? with
    | some why => ⟨p, o, .ended (.raised why)⟩
    | none =>
      match audience.emit population call ⟨.fail f, attempt, some endpoint⟩ o with
      | some o => proceed population audience call p o
      | none => ⟨p, o, .stuck⟩
  -- nobody hears of it, and the member stays in flight
  | .cancelled => ⟨p, o, .ended .cancelled⟩

end Moment

end ClusterClient
