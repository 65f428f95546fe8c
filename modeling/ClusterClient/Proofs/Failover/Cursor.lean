import Mathlib.Data.List.ReduceOption
import ClusterClient.Proofs.Failover.Recalled

/-!
# The cursor of progress

Progress can be moved on, and told of failures, in any order and past its last member too. Four records change
in it side by side: who is left, who has been tried, what has failed, and who is being tried. Each of them is
settled by the history alone.

## The architecture

* **`attempted_move`**, **`remaining_move`**, **`errors_move`**, **`inFlight_move`**: what one move does to each
  record. A move that asks for the next member takes one from those that are left, if there is one.
* **`attempted_moves`**, **`remaining_moves`**, **`errors_moves`**: what a whole history does, by induction on it.
* **`Progress.answers`**, **`answers_eq`**: what a history is answered with, from any progress on. The members that
  are left come first and in order, and nobody ever after.
* **`history_settles_progress`**: all records, for new progress.
-/

namespace ClusterClient

namespace Progress

/-- How often a move asks for the next member: once, or not at all. -/
def Move.asks : Move → Nat
  | .next => 1
  | .fail _ => 0

/-- How often a history asks for the next member. -/
def asks : List Move → Nat
  | [] => 0
  | m :: rest => m.asks + asks rest

@[simp] theorem asks_nil : asks [] = 0 := rfl

@[simp] theorem asks_cons (m : Move) (history : List Move) : asks (m :: history) = m.asks + asks history := rfl

/-- What a history is answered with, from some progress on: each time it asks for the next member, a member or
that nobody is left. -/
def answers (p : Progress) : List Move → List (Option Endpoint)
  | [] => []
  | .next :: rest => p.next.1 :: (p.move .next).answers rest
  | .fail f :: rest => (p.move (.fail f)).answers rest

/-- What the last move of a history was answered with, if it asked for the next member. -/
def lastAnswer (p : Progress) (history : List Move) : Option Endpoint :=
  match history.getLast? with
  | some .next => (p.answers history).getLast?.join
  | _ => none

/-! ## One move -/

/-- The next member is the first of those that are left, and is being tried then. -/
theorem next_eq (p : Progress) :
    p.next = (p.remaining.head?,
      { p with
        remaining := p.remaining.drop 1
        attempted := p.attempted ++ p.remaining.take 1
        inFlight := p.remaining.head? }) := by
  unfold next
  cases p.remaining with
  | nil => simp
  | cons e rest => rfl

/-- **Who is left after a move**: all but the first, if the move asks for the next member, and all of them
otherwise. Nobody is left of nobody. -/
theorem remaining_move (p : Progress) (m : Move) : (p.move m).remaining = p.remaining.drop m.asks := by
  cases m with
  | next =>
    show p.next.2.remaining = _
    rw [next_eq]
    rfl
  | fail f => rfl

/-- **Who has been tried after a move**: the first of those that were left comes behind those that had been
tried, if the move asks for the next member. -/
theorem attempted_move (p : Progress) (m : Move) :
    (p.move m).attempted = p.attempted ++ p.remaining.take m.asks := by
  cases m with
  | next =>
    show p.next.2.attempted = _
    rw [next_eq]
    rfl
  | fail f => exact (List.append_nil _).symm

/-- **What has failed after a move**: what the move records comes behind what had failed. -/
theorem errors_move (p : Progress) (m : Move) : (p.move m).errors = p.errors ++ recorded [m] := by
  cases m with
  | next =>
    show p.next.2.errors = p.errors ++ []
    rw [next_eq, List.append_nil]
  | fail f => rfl

/-- A member is being tried exactly if the move has just brought it. -/
theorem inFlight_move (p : Progress) (m : Move) :
    (p.move m).inFlight = match m with
      | .next => p.next.1
      | .fail _ => none := by
  cases m with
  | next =>
    show p.next.2.inFlight = p.next.1
    rw [next_eq]
  | fail f => rfl

/-! ## A whole history -/

/-- A history drops as many of those that are left as it asks for. By induction on it: what the first move has
taken is dropped in addition to what the others take. -/
theorem remaining_moves (p : Progress) (history : List Move) :
    (history.foldl move p).remaining = p.remaining.drop (asks history) := by
  induction history generalizing p with
  | nil => rfl
  | cons m rest ih => rw [List.foldl_cons, ih, remaining_move, List.drop_drop, asks_cons]

/-- A history tries those it takes, in order. By induction on it: the first move takes from the front, and the
others go on from there. -/
theorem attempted_moves (p : Progress) (history : List Move) :
    (history.foldl move p).attempted = p.attempted ++ p.remaining.take (asks history) := by
  induction history generalizing p with
  | nil => exact (List.append_nil _).symm
  | cons m rest ih =>
    rw [List.foldl_cons, ih, attempted_move, remaining_move, List.append_assoc, asks_cons, List.take_add]

/-- A history records its failures, in order and behind those that are there. -/
theorem errors_moves (p : Progress) (history : List Move) :
    (history.foldl move p).errors = p.errors ++ recorded history := by
  induction history generalizing p with
  | nil => exact (List.append_nil _).symm
  | cons m rest ih =>
    have hsplit : recorded (m :: rest) = recorded [m] ++ recorded rest := List.filterMap_append (l := [m])
    rw [List.foldl_cons, ih, errors_move, List.append_assoc, hsplit]

/-! ## Answers -/

/-- A history goes on being answered from where it has brought the progress. -/
theorem answers_append (p : Progress) (history later : List Move) :
    p.answers (history ++ later) = p.answers history ++ (history.foldl move p).answers later := by
  induction history generalizing p with
  | nil => rfl
  | cons m rest ih =>
    cases m with
    | next => exact congrArg (p.next.1 :: ·) (ih (p.move .next))
    | fail f => exact ih (p.move (.fail f))

/-- The answers are the members that are left, in order, and then that nobody is left. The induction is on the
history: recording a failure asks for nobody, and asking takes the first member that is left. -/
theorem answers_eq (p : Progress) (history : List Move) :
    p.answers history = (p.remaining.take (asks history)).map some ++
      List.replicate (asks history - p.remaining.length) none := by
  induction history generalizing p with
  | nil => simp [answers]
  | cons m rest ih =>
    cases m with
    | fail f =>
      have hasks : asks (.fail f :: rest) = asks rest := Nat.zero_add _
      rw [hasks]
      exact ih (p.recordFailure f)
    | next =>
      have hasks : asks (.next :: rest) = asks rest + 1 := Nat.add_comm _ _
      show p.next.1 :: (p.move .next).answers rest = _
      rw [ih, next_eq, remaining_move, hasks]
      show p.remaining.head? :: (((p.remaining.drop 1).take (asks rest)).map some ++ _) = _
      cases p.remaining with
      | nil => simp [List.replicate_succ]
      | cons e left =>
        -- one member fewer is left, and one answer fewer is to come
        have hfewer : asks rest + 1 - (e :: left).length = asks rest - left.length := by
          rw [List.length_cons]
          omega
        rw [hfewer]
        rfl

/-- Each time the next member is asked for there is an answer, be it that nobody is left. -/
theorem length_answers (p : Progress) (history : List Move) : (p.answers history).length = asks history := by
  rw [answers_eq, List.length_append, List.length_map, List.length_take, List.length_replicate]
  omega

/-- The members among the answers are those that have been tried on the way. -/
theorem reduceOption_answers (p : Progress) (history : List Move) :
    (p.answers history).reduceOption = p.remaining.take (asks history) := by
  rw [answers_eq, List.reduceOption_append, List.reduceOption_replicate_none, List.append_nil]
  show ((p.remaining.take (asks history)).map some).filterMap id = _
  rw [List.filterMap_map]
  exact List.filterMap_some

/-- Nobody comes any more once nobody is left. That nobody came means that more was asked for than there was, so
that all later answers are taken from what lies behind the last member. -/
theorem eq_none_of_mem_answers {p : Progress} {history : List Move} (hnobody : none ∈ p.answers history)
    {later : List Move} {answer : Option Endpoint} (hanswer : answer ∈ (history.foldl move p).answers later) :
    answer = none := by
  -- more has been asked for than there was
  have hmore : asks history - p.remaining.length ≠ 0 := by
    rw [answers_eq, List.mem_append] at hnobody
    rcases hnobody with hsome | hnone
    · obtain ⟨e, -, he⟩ := List.mem_map.1 hsome
      cases he
    · exact (List.mem_replicate.1 hnone).1
  have hleft : (history.foldl move p).remaining = [] := by
    rw [remaining_moves]
    apply List.drop_eq_nil_of_le
    omega
  rw [answers_eq, hleft, List.take_nil, List.map_nil, List.nil_append] at hanswer
  exact List.eq_of_mem_replicate hanswer

/-- Whoever is being tried is the answer to the last move. -/
theorem inFlight_moves {p : Progress} (hidle : p.inFlight = none) (history : List Move) :
    (history.foldl move p).inFlight = p.lastAnswer history := by
  -- only the last move matters, so the history is taken apart from its end
  rcases List.eq_nil_or_concat history with rfl | ⟨first, m, rfl⟩
  · exact hidle
  · rw [List.concat_eq_append, List.foldl_append, List.foldl_cons, List.foldl_nil, inFlight_move, lastAnswer,
      List.getLast?_concat]
    cases m with
    | fail f => rfl
    | next =>
      show (first.foldl move p).next.1 = _
      rw [answers_append]
      show _ = (p.answers first ++ [(first.foldl move p).next.1]).getLast?.join
      rw [List.getLast?_concat]
      rfl

end Progress

/-- **A history settles the progress of a call**, in whichever order it asks for members and records failures. It is
answered with the members in order, as far as they reach, and from then on with nobody for ever; the members that have
been tried are those it was answered with; the failures are those it recorded, in order; and a member is being tried
exactly if the last move was answered with it. -/
theorem history_settles_progress (own : List Endpoint) (history : List Progress.Move) :
    let p := Progress.after own history
    let answers := (Progress.start own).answers history
    let asked := Progress.asks history
    (answers.length = asked ∧ answers.reduceOption = p.attempted) ∧
    (p.attempted = own.take (min asked own.length) ∧ p.attempts = min asked own.length) ∧
    (none ∈ answers → ∀ later, ∀ answer ∈ p.answers later, answer = none) ∧
    p.errors = Progress.recorded history ∧
    p.inFlight = (Progress.start own).lastAnswer history := by
  intro p answers asked
  have htried : p.attempted = own.take asked := (Progress.start own).attempted_moves history
  refine ⟨⟨Progress.length_answers _ history, ?_⟩, ⟨?_, ?_⟩, ?_, ?_, ?_⟩
  · rw [htried]
    exact (Progress.start own).reduceOption_answers history
  · rw [htried]
    exact List.take_eq_take_min
  · rw [Progress.attempts, htried, List.length_take]
  · intro hnobody later answer hanswer
    exact Progress.eq_none_of_mem_answers hnobody hanswer
  · exact (Progress.start own).errors_moves history
  · exact Progress.inFlight_moves rfl history

/-- The same member twice, a failure before anybody was asked for, and one call too many: the answers stop at the
end, and stay so. -/
theorem history_settles_progress_past_the_end :
    let own : List Endpoint := [⟨"http://etcd1:2379"⟩, ⟨"http://etcd1:2379"⟩]
    let history : List Progress.Move := [.fail .clientClosed, .next, .next, .fail .transportClosed, .next]
    (Progress.start own).answers history = [some ⟨"http://etcd1:2379"⟩, some ⟨"http://etcd1:2379"⟩, none] ∧
      (Progress.after own history).attempted = own ∧
      (Progress.after own history).errors = [.clientClosed, .transportClosed] ∧
      (Progress.after own history).inFlight = none ∧
      ∀ later, ∀ answer ∈ (Progress.after own history).answers later, answer = none := by
  intro own history
  obtain ⟨-, ⟨htried, -⟩, hnobody, herrors, hflight⟩ := history_settles_progress own history
  have hanswers : (Progress.start own).answers history =
      [some ⟨"http://etcd1:2379"⟩, some ⟨"http://etcd1:2379"⟩, none] := rfl
  have hnone : none ∈ (Progress.start own).answers history := by
    rw [hanswers]
    exact .tail _ (.tail _ (.head _))
  exact ⟨hanswers, htried, herrors, hflight, hnobody hnone⟩

end ClusterClient
