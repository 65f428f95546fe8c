import ClusterClient.Failover.Event

/-!
# Observers

Listeners are registered in an order, and one that is registered repeatedly is called repeatedly. While a
listener handles an event it may fail, and it may register and deregister listeners. A failure is counted
and otherwise ignored. Of a live registry, the registrations are called by position: one that is taken
away shifts those after it, and one that is added during an event is called for it too. A fixed audience
is not affected by changes of the registry.
-/

namespace ClusterClient

/-- A listener is known by its name. -/
abbrev Listener := Text

/-- A change of the registry. -/
inductive Change where
  | register (listener : Listener)
  | deregister (listener : Listener)
  deriving DecidableEq, Repr

/-- What a listener does while it handles an event: it makes changes, and it may fail after them. -/
structure Reaction where
  changes : List Change
  fails : Bool
  deriving DecidableEq, Repr

/-- A listener that only listens. -/
def Reaction.quiet : Reaction := ⟨[], false⟩

/-- A listener has been called with an event of a call. -/
structure Delivery where
  call : Nat
  listener : Listener
  event : Event

/-- How the listeners behave, given what has been delivered before; and how many listeners an event may
call before it is taken never to end. -/
structure Population where
  react : List Delivery → Listener → Event → Reaction
  patience : Nat

/-- The registered listeners, what they have been called with, and how often they have failed. -/
structure Observers where
  registered : List Listener
  deliveries : List Delivery
  failures : Nat

namespace Observers

/-- Nobody is registered, and nothing has been delivered. -/
def nobody : Observers := ⟨[], [], 0⟩

/-- A registration goes to the end; a deregistration takes the first registration of the listener away,
if there is one. -/
def change (o : Observers) : Change → Observers
  | .register l => { o with registered := o.registered ++ [l] }
  | .deregister l => { o with registered := o.registered.erase l }

/-- A listener is called with an event. -/
def deliver (population : Population) (call : Nat) (event : Event) (o : Observers)
    (listener : Listener) : Observers :=
  -- what a listener does may depend on all that has been delivered, to whomever
  let reaction := population.react o.deliveries listener event
  let told : Observers :=
    { o with deliveries := o.deliveries ++ [⟨call, listener, event⟩] }
  -- its changes count even if it fails after them
  let changed := reaction.changes.foldl change told
  { changed with failures := changed.failures + if reaction.fails then 1 else 0 }

/-- The live registry is called from a position on, unless that takes too many calls. -/
def emitFrom (population : Population) (call : Nat) (event : Event) :
    Nat → Nat → Observers → Option Observers
  | patience, turn, o =>
    match o.registered[turn]? with
    | none => some o
    | some listener =>
      match patience with
      | 0 => none
      | patience + 1 =>
        -- the position moves on by one, whatever the listener has done to the registrations in front of it
        emitFrom population call event patience (turn + 1) (deliver population call event o listener)

end Observers

/-- Who hears the events of a call: whoever is registered at the time, or these listeners. -/
inductive Audience where
  | live
  | fixed (listeners : List Listener)
  deriving DecidableEq, Repr

/-- An event is told to the audience. There is no result if it never ends. -/
def Audience.emit (population : Population) (call : Nat) (event : Event) (o : Observers) :
    Audience → Option Observers
  | live => Observers.emitFrom population call event population.patience 0 o
  | fixed listeners => some (listeners.foldl (Observers.deliver population call event) o)

end ClusterClient
