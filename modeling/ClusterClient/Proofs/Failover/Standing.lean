import ClusterClient.Proofs.Failover.Admission

/-!
# Where a run stands

Where a run stands is known from its own attempts alone: from its members, from what its progress recalled
before it began, and from how its attempts have ended. Who listens makes no difference, unless an event
goes on for ever.

## The architecture

* **`Standing`**: progress and phase, without anybody who listens. **`Standing.take`** is what the end of an
  attempt makes of it.
* **`Standing.ComesOf`**: the forms that a standing can have. **`ComesOf.take`** is the step, and
  **`comesOf_afterAll`** a whole run.
* **`Moment.ComesTo`**: what a run does between two rests, among listeners, comes to the same standing or
  is stuck; **`comesTo_proceed`**, **`comesTo_resume`**.
-/

namespace ClusterClient

/-! ## Without an audience -/

/-- Where a run stands, apart from who hears of it. -/
structure Standing (α : Type) where
  progress : Progress
  phase : Phase α

namespace Progress

/-- Progress with failures that it recalls from before. -/
def recalling (before : List Failure) (p : Progress) : Progress := { p with errors := before ++ p.errors }

@[simp] theorem recalling_nil (p : Progress) : p.recalling [] = p := rfl

@[simp] theorem attempted_recalling (before : List Failure) (p : Progress) :
    (p.recalling before).attempted = p.attempted := rfl

@[simp] theorem attempts_recalling (before : List Failure) (p : Progress) :
    (p.recalling before).attempts = p.attempts := rfl

@[simp] theorem errors_recalling (before : List Failure) (p : Progress) :
    (p.recalling before).errors = before ++ p.errors := rfl

theorem recordFailure_recalling (before : List Failure) (p : Progress) (f : Failure) :
    (p.recalling before).recordFailure f = (p.recordFailure f).recalling before := by
  simp [recordFailure, recalling]

/-- Who comes next does not depend on what is recalled. -/
theorem next_recalling (before : List Failure) (p : Progress) :
    (p.recalling before).next = (p.next.1, p.next.2.recalling before) := by
  unfold next recalling
  dsimp only
  split <;> rfl

end Progress

namespace Standing

variable {α : Type} {own : List Endpoint} {before errors : List Failure}

/-- The next attempt is under way, or all members have failed. -/
def onward (p : Progress) : Standing α :=
  match p.next with
  | (some e, p) => ⟨p, .attempting (p.attempts - 1) e⟩
  | (none, p) => ⟨p, .ended (.raised (.ofMembers p.errors p.attempted))⟩

/-- An attempt ends. A failure that can be shown leads on, and one that cannot ends the run. Nothing happens to a run
that does not wait. -/
def take (s : Standing α) (outcome : Outcome α) : Standing α :=
  match s.phase with
  | .attempting _ _ =>
    match outcome with
    | .returned value => ⟨s.progress.land, .ended (.returned value)⟩
    | .raised f =>
      match f.whyMute? with
      | some why => ⟨s.progress.recordFailure f, .ended (.raised why)⟩
      | none => onward (s.progress.recordFailure f)
    | .cancelled => ⟨s.progress, .ended .cancelled⟩
  | _ => s

/-- Attempts end, one after the other. -/
def afterAll (s : Standing α) (outcomes : List (Outcome α)) : Standing α := outcomes.foldl take s

/-- Going on tries the member whose attempt it starts, and nobody else. -/
theorem attempted_onward (p : Progress) :
    (onward p : Standing α).progress.attempted =
      p.attempted ++ (onward p : Standing α).phase.endpoint?.toList := by
  unfold onward Progress.next
  cases p.remaining with
  | nil => simp [Phase.endpoint?]
  | cons e rest => simp [Phase.endpoint?]

/-- An attempt that ends tries the member whose attempt is under way next. If none is, because the run has
ended, nobody is tried any more. -/
theorem attempted_take {s : Standing α} {attempt : Nat} {e : Endpoint}
    (hphase : s.phase = .attempting attempt e) (outcome : Outcome α) :
    (s.take outcome).progress.attempted =
      s.progress.attempted ++ (s.take outcome).phase.endpoint?.toList := by
  unfold take
  rw [hphase]
  cases outcome with
  | returned value => simp [Phase.endpoint?, Progress.land]
  | raised f =>
    dsimp only
    split
    · simp [Phase.endpoint?, Progress.recordFailure]
    · exact attempted_onward _
  | cancelled => simp [Phase.endpoint?]

/-! ### The forms of a standing -/

/-- What has become of a run over members whose attempts have ended in these ways: it waits for the next
attempt, or it has ended. Behind it are failures that can be shown; what has ended it is a value, a cancelled attempt,
a failure that cannot be shown, or that no member is left. A run that has ended takes no notice of what comes after. -/
inductive ComesOf (own : List Endpoint) (before : List Failure) : List (Outcome α) → Standing α → Prop
  | waiting (errors : List Failure) (e : Endpoint) (hspeaks : ∀ f ∈ errors, f.Speaks)
      (hnext : own[errors.length]? = some e) :
      ComesOf own before (errors.map .raised)
        ⟨(Progress.reached own errors).recalling before, .attempting errors.length e⟩
  | exhausted (errors : List Failure) (rest : List (Outcome α)) (hspeaks : ∀ f ∈ errors, f.Speaks)
      (hall : errors.length = own.length) :
      ComesOf own before (errors.map .raised ++ rest)
        ⟨(Progress.reached own errors).recalling before,
          .ended (.raised (.ofMembers (before ++ errors) own))⟩
  | returned (errors : List Failure) (value : α) (rest : List (Outcome α)) (hspeaks : ∀ f ∈ errors, f.Speaks)
      (hleft : errors.length < own.length) :
      ComesOf own before (errors.map .raised ++ .returned value :: rest)
        ⟨(Progress.reached own errors).land.recalling before, .ended (.returned value)⟩
  | cancelled (errors : List Failure) (rest : List (Outcome α)) (hspeaks : ∀ f ∈ errors, f.Speaks)
      (hleft : errors.length < own.length) :
      ComesOf own before (errors.map .raised ++ .cancelled :: rest)
        ⟨(Progress.reached own errors).recalling before, .ended .cancelled⟩
  | mute (errors : List Failure) {f why : Failure} (rest : List (Outcome α)) (hspeaks : ∀ g ∈ errors, g.Speaks)
      (hwhy : f.whyMute? = some why) (hleft : errors.length < own.length) :
      ComesOf own before (errors.map .raised ++ .raised f :: rest)
        ⟨((Progress.reached own errors).recordFailure f).recalling before, .ended (.raised why)⟩

/-- Going on after some failures comes to the next attempt, or to the end. The failures are as many as the
members that were tried, so that the next member is the one at their number. -/
theorem comesOf_onward (α : Type) (own : List Endpoint) (before errors : List Failure)
    (inFlight : Option Endpoint) (hspeaks : ∀ f ∈ errors, f.Speaks) (hle : errors.length ≤ own.length) :
    ComesOf own before (errors.map .raised)
      (onward ((Progress.beforeNext own errors inFlight).recalling before) : Standing α) := by
  unfold onward
  rw [Progress.next_recalling, Progress.next_beforeNext inFlight hle]
  rcases Nat.lt_or_eq_of_le hle with hlt | heq
  · -- a member is left, and the number of its attempt is that of the failures before
    have hnext : own[errors.length]? = some own[errors.length] := List.getElem?_eq_getElem hlt
    have hattempts : (Progress.reached own errors).attempts - 1 = errors.length := by
      simp only [Progress.attempts, Progress.reached, List.length_take]
      omega
    simp only [hnext, Progress.attempts_recalling, hattempts]
    exact .waiting errors _ hspeaks hnext
  · have hnext : own[errors.length]? = none := List.getElem?_eq_none (by omega)
    have hall : (Progress.reached own errors).attempted = own := List.take_of_length_le (by omega)
    simp only [hnext, Progress.attempted_recalling, hall]
    -- all members have failed, and no outcome comes after their failures
    rw [← List.append_nil (errors.map (Outcome.raised : Failure → Outcome α))]
    exact .exhausted errors [] hspeaks heq

/-- **One more attempt ends.** A run that waits has a member left, so that a failure of its attempt leads to
the next member or to the end; one that has ended stays as it is. -/
theorem ComesOf.take {outcomes : List (Outcome α)} {s : Standing α} (h : ComesOf own before outcomes s)
    (outcome : Outcome α) : ComesOf own before (outcomes ++ [outcome]) (s.take outcome) := by
  cases h with
  | waiting errors e hspeaks hnext =>
    obtain ⟨hleft, -⟩ := List.getElem?_eq_some_iff.1 hnext
    cases outcome with
    | returned value => exact .returned errors value [] hspeaks hleft
    | cancelled => exact .cancelled errors [] hspeaks hleft
    | raised f =>
      rw [Standing.take, Progress.recordFailure_recalling]
      dsimp only
      split
      · next why hwhy => exact .mute errors [] hspeaks hwhy hleft
      · next hf =>
        have honward := comesOf_onward α own before (errors ++ [f]) none
          (List.forall_mem_append.2 ⟨hspeaks, List.forall_mem_singleton.2 hf⟩)
          (by rw [List.length_append]; exact hleft)
        rw [List.map_append] at honward
        rw [Progress.recordFailure_reached]
        exact honward
  -- the run has ended, and the outcome joins those that it takes no notice of
  | exhausted errors rest hspeaks hall =>
    rw [List.append_assoc]
    exact .exhausted errors _ hspeaks hall
  | returned errors value rest hspeaks hleft =>
    rw [List.append_assoc]
    exact .returned errors value _ hspeaks hleft
  | cancelled errors rest hspeaks hleft =>
    rw [List.append_assoc]
    exact .cancelled errors _ hspeaks hleft
  | mute errors rest hspeaks hwhy hleft =>
    rw [List.append_assoc]
    exact .mute errors _ hspeaks hwhy hleft

/-- **Any attempts end.** -/
theorem ComesOf.afterAll {outcomes : List (Outcome α)} {s : Standing α}
    (h : ComesOf own before outcomes s) (more : List (Outcome α)) :
    ComesOf own before (outcomes ++ more) (s.afterAll more) := by
  induction more generalizing outcomes s with
  | nil => rwa [List.append_nil]
  | cons outcome rest ih => simpa [Standing.afterAll] using ih (h.take outcome)

/-- Where a run stands that has begun with progress of which nobody has been tried. -/
theorem comesOf_afterAll (own : List Endpoint) (before : List Failure) (outcomes : List (Outcome α)) :
    ComesOf own before outcomes
      ((onward ((Progress.start own).recalling before)).afterAll outcomes) := by
  have hbegun := comesOf_onward α own before [] none nofun (Nat.zero_le _)
  exact hbegun.afterAll outcomes

/-- Attempts that end bring a run to a rest: only listeners can keep it. -/
theorem ComesOf.phase_ne_stuck {outcomes : List (Outcome α)} {s : Standing α}
    (h : ComesOf own before outcomes s) : s.phase ≠ .stuck := by
  intro hstuck
  cases h <;> cases hstuck

end Standing

/-! ### What progress tells -/

namespace Progress

/-- The attempt against a member is under way, or has been given up: the member is the last one that has been
tried, and all attempts before it have failed. -/
structure IsTrying (e : Endpoint) (p : Progress) : Prop where
  inFlight : p.inFlight = some e
  last : p.attempted.getLast? = some e
  errors : p.errors.length + 1 = p.attempts

variable {own : List Endpoint} {errors : List Failure}

/-- Where a member is left after some failures, the run is trying it. -/
theorem isTrying_reached {e : Endpoint} (hnext : own[errors.length]? = some e) :
    (reached own errors).IsTrying e where
  inFlight := hnext
  last := by simp [reached, List.getLast?_take, hnext]
  errors := by
    obtain ⟨hlt, -⟩ := List.getElem?_eq_some_iff.1 hnext
    simp only [reached, attempts, List.length_take]
    omega

/-- What new progress tells of a call over members whose attempts have ended in these ways. A call that has failed has
recorded why each of its attempts did. It has tried all members and fails with what it has recorded, or the last of
these failures cannot be shown and the call fails with that instead. While the call is stuck in an event it is at no
rest, and nothing is said. -/
def Tells {α : Type} (own : List Endpoint) (outcomes : List (Outcome α)) (p : Progress) : Phase α → Prop
  | .attempting k e =>
    own[k]? = some e ∧ p.IsTrying e ∧ p.errors.length = k ∧ p.errors.map .raised = outcomes
  | .ended .cancelled =>
    (∃ e, p.IsTrying e) ∧ p.errors.map .raised ++ [.cancelled] <+: outcomes
  | .ended (.returned value) =>
    p.inFlight = none ∧ p.errors.length + 1 = p.attempts ∧
      p.errors.map .raised ++ [.returned value] <+: outcomes
  | .ended (.raised f) =>
    p.inFlight = none ∧ p.errors.length = p.attempts ∧ p.errors.map .raised <+: outcomes ∧
      ((p.attempted = own ∧ f = .cluster p.errors own) ∨
        ∃ g, p.errors.getLast? = some g ∧ g.whyMute? = some f)
  | .stuck => True

end Progress

/-- Progress that recalls nothing tells where its run stands. One case for each way to stand: while attempts go
on the errors are the failures before the one under way, and a failure that has ended the run is among them. -/
theorem Standing.ComesOf.tells {α : Type} {own : List Endpoint} {outcomes : List (Outcome α)}
    {s : Standing α} (h : ComesOf own [] outcomes s) : s.progress.Tells own outcomes s.phase := by
  cases h with
  | waiting errors e hspeaks hnext => exact ⟨hnext, Progress.isTrying_reached hnext, rfl, rfl⟩
  | exhausted errors rest hspeaks hall =>
    have hnone : own[errors.length]? = none := List.getElem?_eq_none (by omega)
    have htried : (Progress.reached own errors).attempted = own := List.take_of_length_le (by omega)
    refine ⟨hnone, ?_, List.prefix_append _ _, .inl ⟨htried, Failure.ofMembers_of_speaks own hspeaks⟩⟩
    rw [Progress.recalling_nil, Progress.attempts, htried]
    exact hall
  | returned errors value rest hspeaks hleft =>
    have htrying := Progress.isTrying_reached (List.getElem?_eq_getElem hleft)
    exact ⟨rfl, htrying.errors, rest, by simp [Progress.land, Progress.reached]⟩
  | cancelled errors rest hspeaks hleft =>
    have htrying := Progress.isTrying_reached (List.getElem?_eq_getElem hleft)
    exact ⟨⟨_, htrying⟩, rest, by simp [Progress.reached]⟩
  | @mute errors f why rest hspeaks hwhy hleft =>
    -- the failure that cannot be shown has been recorded like those before it
    have htrying := Progress.isTrying_reached (List.getElem?_eq_getElem hleft)
    have hrecorded : ((Progress.reached own errors).recordFailure f).errors = errors ++ [f] := rfl
    refine ⟨rfl, ?_, ⟨rest, ?_⟩, .inr ⟨f, ?_, hwhy⟩⟩
    · rw [Progress.recalling_nil, hrecorded, List.length_append]
      exact htrying.errors
    · rw [Progress.recalling_nil, hrecorded, List.map_append, List.append_assoc]
      rfl
    · rw [Progress.recalling_nil, hrecorded, List.getLast?_concat]

/-! ## From one rest to the next -/

/-- The events that never end are told to a live registry. -/
theorem Audience.eq_live_of_emit {population : Population} {audience : Audience} {call : Nat}
    {event : Event} {o : Observers} (h : audience.emit population call event o = none) :
    audience = .live := by
  cases audience with
  | live => rfl
  | fixed listeners => cases h

namespace Moment

variable {α : Type} {population : Population} {audience : Audience} {call : Nat} {o : Observers}

/-- A run comes to a rest as it stands, or is stuck among live listeners. -/
inductive ComesTo (audience : Audience) (s : Standing α) (m : Moment α) : Prop
  | rest (progress : m.progress = s.progress) (phase : m.phase = s.phase)
  | stuck (live : audience = .live) (phase : m.phase = .stuck)

/-- Whoever is told an event, the run stands as before, or is stuck among live listeners. -/
theorem comesTo_tell (event : Event) (p : Progress) (phase : Phase α) :
    ComesTo audience ⟨p, phase⟩ (tell population audience call event p o phase) := by
  rcases phase_tell population audience call event p o phase with hphase | ⟨hlive, hphase⟩
  · exact .rest (progress_tell event p phase) hphase
  · exact .stuck hlive hphase

/-- A run that goes on among listeners goes on as it does without them. -/
theorem comesTo_proceed (p : Progress) :
    ComesTo audience (.onward p) (proceed population audience call p o : Moment α) := by
  unfold proceed Standing.onward
  obtain ⟨next, p'⟩ := p.next
  cases next with
  | none => exact comesTo_tell _ _ _
  | some e => exact comesTo_tell _ _ _

/-- An attempt ends among listeners as it does without them. They may keep the run from its next rest, but only
a live audience can; they never lead it to another one. -/
theorem comesTo_resume (attempt : Nat) (e : Endpoint) (outcome : Outcome α) (p : Progress) :
    ComesTo audience (Standing.take ⟨p, .attempting attempt e⟩ outcome)
      (resume population audience call attempt e outcome p o) := by
  cases outcome with
  | returned value => exact comesTo_tell _ _ _
  | cancelled => exact .rest rfl rfl
  | raised f =>
    unfold resume Standing.take
    -- a failure that cannot be shown is told to nobody, so that only the other one may be stuck
    cases hwhy : f.whyMute? with
    | some why =>
      simp only [hwhy]
      exact .rest rfl rfl
    | none =>
      simp only [hwhy]
      split
      · exact comesTo_proceed _
      · next hnever => exact .stuck (Audience.eq_live_of_emit hnever) rfl

end Moment

end ClusterClient
