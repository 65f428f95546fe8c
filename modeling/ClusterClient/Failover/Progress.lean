import ClusterClient.Failure

/-!
# Progress of a call

A call tries the members of a cluster in order, one at a time. Its progress is a cursor over them with a
record of what has been tried and why it failed. Progress may be looked at while the call is under way and
after it has been given up; it serves one call only.

Main statements: whatever the history, attempted and remaining members together are all members
(`attempted_append_remaining`).
-/

namespace ClusterClient

/-- How far a call has come. -/
structure Progress where
  endpoints : List Endpoint
  remaining : List Endpoint
  attempted : List Endpoint
  inFlight : Option Endpoint
  errors : List Failure

namespace Progress

/-- The progress of a call that has not begun. -/
def start (endpoints : List Endpoint) : Progress := ⟨endpoints, endpoints, [], none, []⟩

/-- How many members have been tried. -/
def attempts (p : Progress) : Nat := p.attempted.length

/-- Moves on to the next member, if there is one. -/
def next (p : Progress) : Option Endpoint × Progress :=
  match p.remaining with
  | [] => (none, { p with inFlight := none })
  | e :: rest =>
    (some e, { p with remaining := rest, attempted := p.attempted ++ [e], inFlight := some e })

/-- Records why the attempt under way failed. -/
def recordFailure (f : Failure) (p : Progress) : Progress :=
  { p with errors := p.errors ++ [f], inFlight := none }

/-- The attempt under way has succeeded. -/
def land (p : Progress) : Progress := { p with inFlight := none }

/-- Whether a call over these members may use the progress. -/
def accept (own : List Endpoint) (p : Progress) : Except Failure Unit :=
  -- failures that were recorded from outside do not count as use
  if 0 < p.attempts then .error (.usedProgress p.attempts)
  else if p.endpoints ≠ own then .error (.otherEndpoints p.endpoints own)
  else .ok ()

/-- What can happen to progress from outside. -/
inductive Move where
  | next
  | fail (f : Failure)

/-- The progress after a move. -/
def move (p : Progress) : Move → Progress
  | .next => p.next.2
  | .fail f => p.recordFailure f

/-- The progress after a history of moves. -/
def after (endpoints : List Endpoint) (history : List Move) : Progress :=
  history.foldl move (start endpoints)

/-- A move takes the first member that is left over to those that have been asked, or none. -/
theorem attempted_append_remaining_move (p : Progress) (m : Move) :
    (p.move m).attempted ++ (p.move m).remaining = p.attempted ++ p.remaining := by
  cases m with
  | next =>
    simp only [move, next]
    split
    · next h => simp [h]
    · next h => simp [h]
  | fail f => rfl

/-- **No member is lost or tried out of order.** Those that were asked and those that are left are the members,
at every point of every history; induction on the moves. -/
theorem attempted_append_remaining (endpoints : List Endpoint) (history : List Move) :
    (after endpoints history).attempted ++ (after endpoints history).remaining = endpoints := by
  have h (p : Progress) :
      (history.foldl move p).attempted ++ (history.foldl move p).remaining =
        p.attempted ++ p.remaining := by
    induction history generalizing p with
    | nil => rfl
    | cons m rest ih => rw [List.foldl_cons, ih, attempted_append_remaining_move]
  exact h (start endpoints)

end Progress

end ClusterClient
