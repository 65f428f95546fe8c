import ClusterClient.Endpoint.Reader
import ClusterClient.Failover.World
import ClusterClient.Rehearsal.Cast

/-!
# Rehearsing runs

Steps taken one after the other on one executor: listeners come and go, progress is made and moved by
hand, and an operation that follows a script is run. Each step gives a report.
-/

namespace ClusterClient.Rehearsal

/-- How the attempts of a run go. -/
abbrev Script := List (Cue (Outcome Value))

/-- The course of an attempt. Attempts that the script does not mention fail. -/
def Script.course (script : Script) (attempt : Nat) : Course (Outcome Value) :=
  match script[attempt]? with
  | some (.after milliseconds outcome) => .ends (milliseconds * nanosecondsPerMillisecond) outcome
  | some .never => .never
  | none => .ends 0 (.raised (.endpoint (.transport (.told "unscripted")) none))

/-- One step. -/
inductive RunStep where
  | register (l : Listener) (habits : Habits)
  | deregister (l : Listener) (habits : Habits)
  | remove (l : Listener) (habits : Habits)
  | newProgress (name : Text) (endpoints : Option (List Endpoint))
  | next (name : Text)
  | fail (name : Text) (f : Failure)
  | inspect (name : Text)
  | execute (script : Script) (progress : Option Text) (limit : Option Int)
  | run (endpoints : Option (List Endpoint)) (script : Script) (progress : Option Text)
      (listeners : List Listener)

/-- What is reported of a run. -/
structure RunReport where
  outcome : Option (Outcome Value)
  invoked : List Endpoint
  deliveries : List Delivery
  failures : Nat
  progress : Option Progress

/-- What is reported of a step. -/
inductive StepReport where
  | listeners (count : Nat)
  | progress (p : Option Progress)
  | advanced (endpoint : Option Endpoint) (p : Progress)
  | inspected (p : Progress) (own : List Endpoint)
  | ran (report : RunReport)

/-- A rehearsal under way: who was ever mentioned, who was ever registered, and where progress of a name
stands. -/
structure Stage where
  own : List Endpoint
  world : World Value
  cast : Cast
  everRegistered : List Listener
  names : List (Text × Nat)

namespace Stage

/-- A rehearsal over these members. -/
def opened (own : List Endpoint) : Stage := ⟨own, .quiet (Cast.population []), [], [], []⟩

/-- A listener is mentioned. -/
def mention (l : Listener) (habits : Habits) (s : Stage) : Stage :=
  let cast := s.cast.mention l habits
  { s with cast, world := { s.world with population := cast.population } }

/-- Listeners that came in during a step are mentioned. -/
def meetNewcomers (s : Stage) : Stage :=
  s.world.observers.registered.foldl (fun s l => s.mention l .none) s

/-- The position of the progress of a name. -/
def position? (name : Text) (s : Stage) : Option Nat :=
  (s.names.find? fun entry => entry.1 = name).map Prod.snd

/-- The progress of a name. -/
def progress? (name : Text) (s : Stage) : Option Progress :=
  (s.position? name).bind fun i => s.world.progresses[i]?

/-- How many registrations there are. -/
def count (s : Stage) : StepReport := .listeners s.world.observers.registered.length

/-- The registry is changed from outside. -/
def change (c : Change) (s : Stage) : Stage := { s with world := s.world.change c }

/-- Moves the progress of a name. -/
def move (name : Text) (m : Progress.Move) (s : Stage) : Stage :=
  match s.position? name with
  | some i => { s with world := s.world.moveProgress i m }
  | none => s

/-- A run as a process that waits for its attempts. -/
def waiting (call : Nat) : Waiting (World Value) (Outcome Value) where
  awaits w := (w.awaited? call).map Prod.fst
  take outcome w := w.resume call outcome
  interrupt w := w.resume call .cancelled

/-- Runs a script. -/
def perform (own : List Endpoint) (audience : Audience) (script : Script) (progress : Option Nat)
    (limit : Option Int) (s : Stage) : Stage × RunReport :=
  let before := s.world.observers
  let call := s.world.runs.length
  let report (w : World Value) (outcome : Option (Outcome Value)) : RunReport :=
    ⟨outcome, w.invoked call, w.observers.deliveries.drop before.deliveries.length,
      w.observers.failures - before.failures, progress.bind fun i => w.progresses[i]?⟩
  let late : Outcome Value := .raised (.external External.timedOut)
  if limit.any (· ≤ 0) then (s, report s.world (some late))
  else
    let begun :=
      match progress with
      | some i => s.world.beginWith own audience i
      | none => s.world.begin own audience
    let deadline := limit.map fun n => n.toNat * nanosecondsPerMillisecond
    let (w, ending) := (waiting call).play script.course deadline (own.length + 1) 0 begun
    let outcome := if ending = .interrupted then some late else w.outcome? call
    (meetNewcomers { s with world := w }, report w outcome)

/-- The stage after a step, with its report. -/
def step (s : Stage) : RunStep → Stage × StepReport
  | .register l habits =>
    let s := (s.mention l habits).change (.register l)
    let s := { s with everRegistered := l :: s.everRegistered }
    (s, s.count)
  | .deregister l habits =>
    let s := (s.mention l habits).change (.deregister l)
    (s, s.count)
  | .remove l habits =>
    let s := s.mention l habits
    let s := if s.everRegistered.contains l then s.change (.deregister l) else s
    (s, s.count)
  | .newProgress name endpoints =>
    let i := s.world.progresses.length
    let world := s.world.addProgress (endpoints.getD s.own)
    let s := { s with world, names := (name, i) :: s.names }
    (s, .progress (s.progress? name))
  | .next name =>
    match s.progress? name with
    | none => (s, .progress none)
    | some p => (s.move name .next, .advanced p.next.1 p.next.2)
  | .fail name f =>
    let s := s.move name (.fail f)
    (s, .progress (s.progress? name))
  | .inspect name =>
    match s.progress? name with
    | none => (s, .progress none)
    | some p => (s, .inspected p s.own)
  | .execute script progress limit =>
    let (s, report) := s.perform s.own .live script (progress.bind fun name => s.position? name) limit
    (s, .ran report)
  | .run endpoints script progress listeners =>
    let s := listeners.foldl (fun s l => s.mention l .none) s
    let own := endpoints.getD s.own
    if own.isEmpty then
      let p := progress.bind fun name => s.progress? name
      (s, .ran ⟨some (.raised .noMembers), [], [], 0, p⟩)
    else
      let (s, report) := s.perform own (.fixed listeners) script
        (progress.bind fun name => s.position? name) none
      (s, .ran report)

/-- The reports of some steps. -/
def reports : List RunStep → Stage → List StepReport
  | [], _ => []
  | x :: rest, s =>
    let (s, report) := s.step x
    report :: reports rest s

end Stage

end ClusterClient.Rehearsal
