import ClusterClient.Failover.Observers
import ClusterClient.Timing

/-!
# The cast of a rehearsal

A rehearsal plays calls against a script and listeners with fixed habits. A listener may fail whenever it
is called, leave on events of one kind, and bring another listener in on events of one kind.
-/

namespace ClusterClient.Rehearsal

/-- What a listener does besides listening. -/
structure Habits where
  fails : Bool
  leavesOn : Option Text
  bringsOn : Option (Text × Listener)
  deriving DecidableEq, Repr

/-- A listener that only listens. -/
def Habits.none : Habits := ⟨false, .none, .none⟩

/-- Listeners with their habits. A listener keeps those that it was first given. -/
abbrev Cast := List (Listener × Habits)

namespace Cast

/-- The habits of a listener. -/
def habits (cast : Cast) (l : Listener) : Habits :=
  ((cast.find? fun entry => entry.1 = l).map Prod.snd).getD .none

/-- A listener is mentioned, with habits in case it is new. -/
def mention (l : Listener) (habits : Habits) (cast : Cast) : Cast :=
  if cast.any fun entry => entry.1 = l then cast else cast ++ [(l, habits)]

/-- What a listener does on an event. -/
def reaction (cast : Cast) (l : Listener) (event : Event) : Reaction :=
  let habits := cast.habits l
  let leaves := if habits.leavesOn = some event.kind.name then [Change.deregister l] else []
  let brings :=
    match habits.bringsOn with
    | some (kind, other) => if kind = event.kind.name then [Change.register other] else []
    | none => []
  ⟨leaves ++ brings, habits.fails⟩

/-- More listeners than any event of a rehearsal calls. -/
def patience : Nat := 100000

/-- The listeners as a population. -/
def population (cast : Cast) : Population := ⟨fun _ => cast.reaction, patience⟩

end Cast

/-- What a script says of one attempt: how long it takes, in milliseconds, and how it ends; or that it
never ends. -/
inductive Cue (β : Type) where
  | after (milliseconds : Nat) (result : β)
  | never

/-- Nanoseconds in a millisecond. -/
def nanosecondsPerMillisecond : Nat := 1000000

/-- Nanoseconds in a microsecond. -/
def nanosecondsPerMicrosecond : Nat := 1000

end ClusterClient.Rehearsal
