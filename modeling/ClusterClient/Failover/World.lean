import ClusterClient.Failover.Run

/-!
# Runs side by side

Any number of runs may be under way at once. They share the observers, and may be given the same
progress. A step begins a run, ends the attempt that one of them waits for, changes the registry, or makes
or moves progress from outside; what follows up to the next rest belongs to the step.

A run over other members, or with an audience of its own, belongs to another executor.
-/

namespace ClusterClient

/-- Observers, progress and runs; runs and progress are known by their positions. -/
structure World (α : Type) where
  population : Population
  observers : Observers
  progresses : List Progress
  runs : List (Run α)

namespace World

variable {α : Type}

/-- Nothing has happened. -/
def quiet (population : Population) : World α := ⟨population, .nobody, [], []⟩

/-- New progress over members; its position is the number of those before. -/
def addProgress (endpoints : List Endpoint) (w : World α) : World α :=
  { w with progresses := w.progresses ++ [.start endpoints] }

/-- Moves progress from outside. -/
def moveProgress (progress : Nat) (m : Progress.Move) (w : World α) : World α :=
  { w with progresses := w.progresses.modify progress fun p => p.move m }

/-- Changes the registry from outside. -/
def change (c : Change) (w : World α) : World α := { w with observers := w.observers.change c }

/-- A run comes to its next rest. -/
def settle (call : Nat) (run : Run α) (m : Moment α) (w : World α) : World α :=
  { w with
    observers := m.observers
    progresses := w.progresses.set run.progress m.progress
    runs := w.runs.set call
      { run with phase := m.phase, invoked := run.invoked ++ m.phase.endpoint?.toList } }

/-- Begins a run with progress that is there; the position of the run is the number of those before. -/
def beginWith (own : List Endpoint) (audience : Audience) (progress : Nat) (w : World α) : World α :=
  match w.progresses[progress]? with
  | none => w
  | some p =>
    let call := w.runs.length
    let run : Run α := ⟨own, audience, progress, .stuck, []⟩
    -- the run takes its position at once, and counts as stuck until it comes to its first rest
    settle call run (Moment.begin w.population audience call own p w.observers)
      { w with runs := w.runs ++ [run] }

/-- Begins a run with new progress. -/
def begin (own : List Endpoint) (audience : Audience) (w : World α) : World α :=
  beginWith own audience w.progresses.length (addProgress own w)

/-- Ends the attempt that a run waits for. Nothing happens to a run that does not wait. -/
def resume (call : Nat) (outcome : Outcome α) (w : World α) : World α :=
  match w.runs[call]? with
  | none => w
  | some run =>
    match run.phase, w.progresses[run.progress]? with
    -- only a run whose attempt is under way takes an outcome
    | .attempting attempt e, some p =>
      settle call run (Moment.resume w.population run.audience call attempt e outcome p w.observers) w
    | _, _ => w

/-- The attempt that a run waits for. -/
def awaited? (call : Nat) (w : World α) : Option (Nat × Endpoint) :=
  match (w.runs[call]?).map Run.phase with
  | some (.attempting attempt e) => some (attempt, e)
  | _ => none

/-- How a run has ended. -/
def outcome? (call : Nat) (w : World α) : Option (Outcome α) :=
  match (w.runs[call]?).map Run.phase with
  | some (.ended outcome) => some outcome
  | _ => none

/-- The members that a run has tried. -/
def invoked (call : Nat) (w : World α) : List Endpoint := ((w.runs[call]?).map Run.invoked).getD []

/-- One step. -/
inductive Action (α : Type) where
  | begin (own : List Endpoint) (audience : Audience)
  | beginWith (own : List Endpoint) (audience : Audience) (progress : Nat)
  | resume (call : Nat) (outcome : Outcome α)
  | change (c : Change)
  | addProgress (endpoints : List Endpoint)
  | moveProgress (progress : Nat) (m : Progress.Move)

/-- The world after a step. -/
def step (w : World α) : Action α → World α
  | .begin own audience => w.begin own audience
  | .beginWith own audience progress => w.beginWith own audience progress
  | .resume call outcome => w.resume call outcome
  | .change c => w.change c
  | .addProgress endpoints => w.addProgress endpoints
  | .moveProgress progress m => w.moveProgress progress m

/-- The world after some steps. -/
def steps (w : World α) (actions : List (Action α)) : World α := actions.foldl step w

/-- Feeds the outcomes of its attempts to a run, one after the other. -/
def feed (call : Nat) (outcomes : List (Outcome α)) (w : World α) : World α :=
  outcomes.foldl (fun w outcome => w.resume call outcome) w

end World

end ClusterClient
