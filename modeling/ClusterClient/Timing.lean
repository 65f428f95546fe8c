/-!
# Time

What a call waits for takes some time, or never comes. A call may be given a deadline; if what it waits
for comes no earlier than the deadline, the call is interrupted then. Time counts in nanoseconds from the
beginning of the call.
-/

namespace ClusterClient

/-- What is waited for: it comes after some time, or never. -/
inductive Course (β : Type) where
  | ends (delay : Nat) (result : β)
  | never

/-- How waiting has ended: nothing was left to wait for, the deadline came first, or something that was
waited for never came. -/
inductive Ending where
  | finished
  | interrupted
  | hanging
  deriving DecidableEq, Repr

/-- A process that may wait: what it waits for, by number, how it takes it, and how it is
interrupted. -/
structure Waiting (σ β : Type) where
  awaits : σ → Option Nat
  take : β → σ → σ
  interrupt : σ → σ

namespace Waiting

variable {σ β : Type}

/-- Whether a deadline comes before something that takes a time from now. What takes no time is not waited
for. -/
def isLate (deadline : Option Nat) (now delay : Nat) : Bool :=
  match deadline with
  | none => false
  | some limit => 0 < delay && limit ≤ now + delay

/-- Lets time pass until the process is finished or interrupted. `patience` bounds how often it may
wait. -/
def play (process : Waiting σ β) (timetable : Nat → Course β) (deadline : Option Nat) :
    Nat → Nat → σ → σ × Ending
  | patience, now, s =>
    match process.awaits s with
    | none => (s, .finished)
    | some number =>
      match timetable number with
      | .never => if deadline.isSome then (process.interrupt s, .interrupted) else (s, .hanging)
      | .ends delay result =>
        -- what comes at the deadline comes too late
        if isLate deadline now delay then (process.interrupt s, .interrupted)
        else
          match patience with
          | 0 => (s, .hanging)
          | patience + 1 =>
            play process timetable deadline patience (now + delay) (process.take result s)

end Waiting

end ClusterClient
