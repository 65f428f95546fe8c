import ClusterClient.Proofs.Failover.Standing

/-!
# What a run tells

Between two rests a run moves on and tells events, and only the events can keep it. Which events they are is
known from where it stands: **`Progress.announces`** when it goes on, **`Standing.announces`** when an attempt
ends. If they come to an end, the run comes to the standing that it would come to without an audience
(**`proceed_of_tellAll`**, **`resume_of_tellAll`**).

The events of a whole run are a **`Recital`**; **`recital_announcesAll`** is the induction on its attempts.
-/

namespace ClusterClient

/-- The event of a run that goes on: the next attempt starts, or all members have failed. -/
def Progress.announces (p : Progress) : Event :=
  match p.next with
  | (some e, p) => ⟨.start, p.attempts - 1, some e⟩
  | (none, p) => ⟨.exhausted p.errors, p.attempts, none⟩

namespace Standing

variable {α : Type}

/-- The events of an attempt that ends. Nothing is told of a run that does not wait, nor of one that is
cancelled; and nobody hears of a failure that cannot be shown, since it is shown before it is told. -/
def announces (s : Standing α) (outcome : Outcome α) : List Event :=
  match s.phase with
  | .attempting attempt e =>
    match outcome with
    | .returned _ => [⟨.success s.progress.errors.length, attempt, some e⟩]
    | .raised f =>
      match f.whyMute? with
      | some _ => []
      | none => [⟨.fail f, attempt, some e⟩, (s.progress.recordFailure f).announces]
    | .cancelled => []
  | _ => []

theorem announces_returned (p : Progress) (attempt : Nat) (e : Endpoint) (value : α) :
    announces ⟨p, .attempting attempt e⟩ (.returned value) =
      [⟨.success p.errors.length, attempt, some e⟩] := rfl

/-- A failure that can be shown is told, and after it what the run does next. -/
theorem announces_raised (α : Type) (p : Progress) (attempt : Nat) (e : Endpoint) {f : Failure} (hf : f.Speaks) :
    announces ⟨p, .attempting attempt e⟩ (.raised f : Outcome α) =
      [⟨.fail f, attempt, some e⟩, (p.recordFailure f).announces] := by
  have hnone : f.whyMute? = none := hf
  simp only [announces, hnone]

theorem announces_mute (α : Type) (p : Progress) (attempt : Nat) (e : Endpoint) {f why : Failure}
    (hwhy : f.whyMute? = some why) : announces ⟨p, .attempting attempt e⟩ (.raised f : Outcome α) = [] := by
  simp only [announces, hwhy]

/-- The events of attempts that end, one after the other. -/
def announcesAll (s : Standing α) : List (Outcome α) → List Event
  | [] => []
  | outcome :: rest => s.announces outcome ++ (s.take outcome).announcesAll rest

/-- What is told of some attempts and then of more. -/
theorem announcesAll_append (s : Standing α) (outcomes more : List (Outcome α)) :
    s.announcesAll (outcomes ++ more) = s.announcesAll outcomes ++ (s.afterAll outcomes).announcesAll more := by
  induction outcomes generalizing s with
  | nil => rfl
  | cons outcome rest ih =>
    rw [List.cons_append, announcesAll, ih, announcesAll, List.append_assoc]
    rfl

end Standing

/-- Events are told to the audience, one after the other. There is no result if one of them never ends. -/
def Audience.tellAll (population : Population) (call : Nat) (events : List Event) (o : Observers)
    (audience : Audience) : Option Observers :=
  events.foldlM (fun o event => audience.emit population call event o) o

namespace Audience

variable {population : Population} {audience : Audience} {call : Nat} {o o' o'' : Observers}

/-- One event ends, and then the others do. -/
theorem tellAll_cons {event : Event} {rest : List Event}
    (hfirst : audience.emit population call event o = some o')
    (hrest : audience.tellAll population call rest o' = some o'') :
    audience.tellAll population call (event :: rest) o = some o'' := by
  rw [tellAll, List.foldlM_cons, hfirst]
  exact hrest

/-- If events end, the first of them does, and the others after it. -/
theorem of_tellAll_cons {event : Event} {rest : List Event}
    (h : audience.tellAll population call (event :: rest) o = some o'') :
    ∃ o', audience.emit population call event o = some o' ∧
      audience.tellAll population call rest o' = some o'' := by
  rw [tellAll, List.foldlM_cons] at h
  cases hfirst : audience.emit population call event o with
  | none => rw [hfirst] at h; cases h
  | some o' =>
    rw [hfirst] at h
    exact ⟨o', rfl, h⟩

/-- To tell one event is to emit it. -/
theorem of_tellAll_singleton {event : Event} (h : audience.tellAll population call [event] o = some o') :
    audience.emit population call event o = some o' := by
  obtain ⟨o₁, hfirst, hrest⟩ := of_tellAll_cons h
  cases hrest
  exact hfirst

end Audience

namespace Moment

variable {α : Type} {population : Population} {audience : Audience} {call : Nat} {o o' : Observers}

/-- **A run goes on**, and comes to the standing that it would come to without an audience, provided that the event
which it tells on the way ends. -/
theorem proceed_of_tellAll {p : Progress}
    (h : audience.tellAll population call [p.announces] o = some o') :
    (proceed population audience call p o : Moment α) =
      ⟨(Standing.onward p : Standing α).progress, o', (Standing.onward p : Standing α).phase⟩ := by
  have hemit := Audience.of_tellAll_singleton h
  unfold proceed Standing.onward
  unfold Progress.announces at hemit
  generalize p.next = moved at hemit ⊢
  obtain ⟨next, p'⟩ := moved
  cases next with
  | none =>
    dsimp only at hemit ⊢
    rw [tell, hemit]
  | some e =>
    dsimp only at hemit ⊢
    rw [tell, hemit]

/-- A run that is let pass goes on, and one that is refused tells nothing. -/
theorem begin_of_accept {own : List Endpoint} {p : Progress} (haccept : p.accept own = .ok ())
    (h : audience.tellAll population call [p.announces] o = some o') :
    (begin population audience call own p o : Moment α) =
      ⟨(Standing.onward p : Standing α).progress, o', (Standing.onward p : Standing α).phase⟩ := by
  rw [begin, haccept]
  exact proceed_of_tellAll h

/-- **An attempt ends**, and the run comes to the standing that it would come to without an audience, provided that
the events which it tells on the way end. -/
theorem resume_of_tellAll {p : Progress} {attempt : Nat} {e : Endpoint} {outcome : Outcome α}
    (h : audience.tellAll population call (Standing.announces ⟨p, .attempting attempt e⟩ outcome) o =
      some o') :
    resume population audience call attempt e outcome p o =
      ⟨(Standing.take ⟨p, .attempting attempt e⟩ outcome).progress, o',
        (Standing.take ⟨p, .attempting attempt e⟩ outcome).phase⟩ := by
  cases outcome with
  | returned value =>
    have hemit := Audience.of_tellAll_singleton h
    rw [resume, tell]
    dsimp only at hemit ⊢
    rw [hemit]
    rfl
  | cancelled =>
    cases h
    rfl
  | raised f =>
    cases hwhy : f.whyMute? with
    | some why =>
      -- the run ends before it has told anything
      rw [Standing.announces_mute α p attempt e hwhy] at h
      cases h
      simp only [resume, Standing.take, hwhy]
    | none =>
      -- the failure is told before the run goes on, and the next event after it
      rw [Standing.announces_raised α p attempt e hwhy] at h
      obtain ⟨o₁, hfail, hnext⟩ := Audience.of_tellAll_cons h
      simp only [resume, Standing.take, hwhy, hfail]
      exact proceed_of_tellAll hnext

end Moment

namespace World

variable {α : Type} {w : World α}

/-- What the end of an attempt does to a run that waits for it. -/
theorem resume_of_waiting {call attempt : Nat} {run : Run α} {e : Endpoint} {p : Progress}
    (hrun : w.runs[call]? = some run) (hphase : run.phase = .attempting attempt e)
    (hp : w.progresses[run.progress]? = some p) (outcome : Outcome α) :
    w.resume call outcome =
      w.settle call run (Moment.resume w.population run.audience call attempt e outcome p w.observers) := by
  simp only [resume, hrun, hphase, hp]

/-- Nothing happens to a run that does not wait. -/
theorem resume_of_not_waiting {call : Nat} (outcome : Outcome α)
    (hidle : ∀ run attempt e p, w.runs[call]? = some run → run.phase = .attempting attempt e →
      w.progresses[run.progress]? ≠ some p) :
    w.resume call outcome = w := by
  unfold resume
  split
  · rfl
  · next run hrun =>
    split
    · next attempt e p hphase hp => exact absurd hp (hidle run attempt e p hrun hphase)
    · rfl

end World

/-! ## The events of a whole run -/

/-- The attempts of a run that have failed: each has started, and then failed, against the member at its
position. -/
def failing (own : List Endpoint) (errors : List Failure) : List Event :=
  errors.zipIdx.flatMap fun (f, i) => [⟨.start, i, own[i]?⟩, ⟨.fail f, i, own[i]?⟩]

/-- One more attempt that has failed. -/
theorem failing_concat (own : List Endpoint) (errors : List Failure) (f : Failure) :
    failing own (errors ++ [f]) =
      failing own errors ++ [⟨.start, errors.length, own[errors.length]?⟩,
        ⟨.fail f, errors.length, own[errors.length]?⟩] := by
  simp [failing, List.zipIdx_append]

/-- The events of a run over members whose progress recalls failures from before, when its attempts have ended
in these ways. After the attempts that have failed, one more has started, and has succeeded if it was the
last; or all members have failed. Nobody hears how an attempt has ended that was cancelled, or whose failure cannot be
shown: it has started, and nothing comes after. -/
inductive Recital {α : Type} (own : List Endpoint) (before : List Failure) :
    List (Outcome α) → List Event → Prop
  | waiting (errors : List Failure) (hspeaks : ∀ f ∈ errors, f.Speaks) (hleft : errors.length < own.length) :
      Recital own before (errors.map .raised)
        (failing own errors ++ [⟨.start, errors.length, own[errors.length]?⟩])
  | returned (errors : List Failure) (value : α) (rest : List (Outcome α)) (hspeaks : ∀ f ∈ errors, f.Speaks)
      (hleft : errors.length < own.length) :
      Recital own before (errors.map .raised ++ .returned value :: rest)
        (failing own errors ++ [⟨.start, errors.length, own[errors.length]?⟩,
          ⟨.success (before.length + errors.length), errors.length, own[errors.length]?⟩])
  | cancelled (errors : List Failure) (rest : List (Outcome α)) (hspeaks : ∀ f ∈ errors, f.Speaks)
      (hleft : errors.length < own.length) :
      Recital own before (errors.map .raised ++ .cancelled :: rest)
        (failing own errors ++ [⟨.start, errors.length, own[errors.length]?⟩])
  | mute (errors : List Failure) {f why : Failure} (rest : List (Outcome α)) (hspeaks : ∀ g ∈ errors, g.Speaks)
      (hwhy : f.whyMute? = some why) (hleft : errors.length < own.length) :
      Recital own before (errors.map .raised ++ .raised f :: rest)
        (failing own errors ++ [⟨.start, errors.length, own[errors.length]?⟩])
  | exhausted (errors : List Failure) (rest : List (Outcome α)) (hspeaks : ∀ f ∈ errors, f.Speaks)
      (hall : errors.length = own.length) :
      Recital own before (errors.map .raised ++ rest)
        (failing own errors ++ [⟨.exhausted (before ++ errors), own.length, none⟩])

namespace Standing

variable {α : Type} {own : List Endpoint} {errors : List Failure}

/-- While a member is left, going on starts its attempt. -/
theorem onward_of_lt (α : Type) (before : List Failure) (inFlight : Option Endpoint)
    (hleft : errors.length < own.length) :
    ((Progress.beforeNext own errors inFlight).recalling before).announces =
        ⟨.start, errors.length, own[errors.length]?⟩ ∧
      (onward ((Progress.beforeNext own errors inFlight).recalling before) : Standing α) =
        ⟨(Progress.reached own errors).recalling before, .attempting errors.length own[errors.length]⟩ := by
  have hnext : own[errors.length]? = some own[errors.length] := List.getElem?_eq_getElem hleft
  have hattempts : (Progress.reached own errors).attempts - 1 = errors.length := by
    simp only [Progress.attempts, Progress.reached, List.length_take]
    omega
  unfold Progress.announces onward
  rw [Progress.next_recalling, Progress.next_beforeNext inFlight (Nat.le_of_lt hleft), hnext]
  simp only [Progress.attempts_recalling, hattempts, and_self]

/-- When all members have failed, going on says so and ends the run. Told are the failures of the run behind
those that had been recorded before it, and the number of members, as all of them have been tried. -/
theorem onward_of_all (α : Type) (before : List Failure) (inFlight : Option Endpoint)
    (hall : errors.length = own.length) :
    ((Progress.beforeNext own errors inFlight).recalling before).announces =
        ⟨.exhausted (before ++ errors), own.length, none⟩ ∧
      ∃ outcome, (onward ((Progress.beforeNext own errors inFlight).recalling before) :
        Standing α).phase = .ended outcome := by
  have hnext : own[errors.length]? = none := List.getElem?_eq_none (by omega)
  have hattempts : (Progress.reached own errors).attempts = own.length := by
    simp only [Progress.attempts, Progress.reached, List.length_take]
    omega
  unfold Progress.announces onward
  rw [Progress.next_recalling, Progress.next_beforeNext inFlight (Nat.le_of_eq hall), hnext]
  simp only [Progress.attempts_recalling, hattempts]
  exact ⟨rfl, _, rfl⟩

/-- Nothing more is told of a run that has ended. -/
theorem announcesAll_of_ended {s : Standing α} {outcome : Outcome α} (hended : s.phase = .ended outcome)
    (outcomes : List (Outcome α)) : s.announcesAll outcomes = [] := by
  -- induction on the outcomes, which it does not take
  induction outcomes with
  | nil => rfl
  | cons first rest ih =>
    have hstays : s.take first = s := by
      unfold take
      rw [hended]
    have hnothing : s.announces first = [] := by
      unfold announces
      rw [hended]
    rw [announcesAll, hnothing, hstays, ih]
    rfl

/-- When no member is left, the run has told so, and what it is given after that makes no difference. -/
theorem recital_of_all (before : List Failure) (inFlight : Option Endpoint) (hspeaks : ∀ f ∈ errors, f.Speaks)
    (hall : errors.length = own.length) (outcomes : List (Outcome α)) :
    let p := (Progress.beforeNext own errors inFlight).recalling before
    Recital own before (errors.map .raised ++ outcomes)
      (failing own errors ++ p.announces :: (onward p : Standing α).announcesAll outcomes) := by
  intro p
  obtain ⟨hannounces, outcome, hended⟩ := onward_of_all α before inFlight hall
  rw [announcesAll_of_ended hended, hannounces]
  exact .exhausted errors outcomes hspeaks hall

/-- What a run tells whose next attempt does not lead it on: how that attempt has ended, and nothing after it. -/
theorem announcesAll_of_final {s : Standing α} {outcome last : Outcome α} (hended : (s.take outcome).phase = .ended last)
    (rest : List (Outcome α)) : s.announcesAll (outcome :: rest) = s.announces outcome := by
  rw [announcesAll, announcesAll_of_ended hended, List.append_nil]

/-- **What a run tells while its attempts end.** It has told of the failures so far and begins its next attempt.
The induction is on the outcomes that are still to come: a failure that can be shown is told, and leads to the
next member; a failure that cannot be shown ends the run in silence, and a value or a cancellation ends it as
well. Once no member is left, the run tells that it is exhausted and then nothing. -/
theorem recital_announcesAll (before : List Failure) (inFlight : Option Endpoint) (hspeaks : ∀ f ∈ errors, f.Speaks)
    (hle : errors.length ≤ own.length) (outcomes : List (Outcome α)) :
    let p := (Progress.beforeNext own errors inFlight).recalling before
    Recital own before (errors.map .raised ++ outcomes)
      (failing own errors ++ p.announces :: (onward p : Standing α).announcesAll outcomes) := by
  -- induction on the outcomes that are still to come: one more failure leads to the next member, and
  -- anything else ends the run
  induction outcomes generalizing errors inFlight with
  | nil =>
    rcases Nat.lt_or_eq_of_le hle with hleft | hall
    · intro p
      obtain ⟨hannounces, -⟩ := onward_of_lt α before inFlight hleft
      rw [List.append_nil, announcesAll, hannounces]
      exact .waiting errors hspeaks hleft
    · exact recital_of_all before inFlight hspeaks hall []
  | cons outcome rest ih =>
    rcases Nat.lt_or_eq_of_le hle with hleft | hall
    · intro p
      obtain ⟨hannounces, honward⟩ := onward_of_lt α before inFlight hleft
      have hmember : own[errors.length]? = some own[errors.length] := List.getElem?_eq_getElem hleft
      rw [hannounces, honward]
      cases outcome with
      | returned value =>
        have hcount : ((Progress.reached own errors).recalling before).errors.length =
            before.length + errors.length := List.length_append
        rw [announcesAll_of_final rfl, announces_returned, hcount, ← hmember]
        exact .returned errors value rest hspeaks hleft
      | cancelled =>
        rw [announcesAll_of_final rfl]
        exact .cancelled errors rest hspeaks hleft
      | raised f =>
        cases hwhy : f.whyMute? with
        | some why =>
          have hended : (take (⟨(Progress.reached own errors).recalling before,
              .attempting errors.length own[errors.length]⟩ : Standing α) (.raised f)).phase =
              .ended (.raised why) := by
            simp only [take, hwhy]
          rw [announcesAll_of_final hended, announces_mute α _ _ _ hwhy]
          exact .mute errors rest hspeaks hwhy hleft
        | none =>
          have hnext : (errors ++ [f]).length ≤ own.length := by
            rw [List.length_append]
            exact hleft
          have hrest := ih none (List.forall_mem_append.2 ⟨hspeaks, List.forall_mem_singleton.2 hwhy⟩) hnext
          have hmap : (errors ++ [f]).map (Outcome.raised : Failure → Outcome α) ++ rest =
              errors.map .raised ++ .raised f :: rest := by simp
          have hrecorded : ((Progress.reached own errors).recalling before).recordFailure f =
              (Progress.beforeNext own (errors ++ [f]) none).recalling before := by
            rw [Progress.recordFailure_recalling, Progress.recordFailure_reached]
          dsimp only at hrest
          rw [hmap, failing_concat, List.append_assoc] at hrest
          rw [announcesAll, announces_raised α _ _ _ hwhy, hrecorded, ← hmember]
          simp only [take, hwhy, hrecorded]
          exact hrest
    · exact recital_of_all before inFlight hspeaks hall (outcome :: rest)

end Standing

end ClusterClient
