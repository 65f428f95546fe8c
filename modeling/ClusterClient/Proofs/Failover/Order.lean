import ClusterClient.Proofs.Failover.Reached

/-!
# Members are tried in order

A run tries its members one after the other, each at most once. The first attempt that does not fail
decides it, and without one it fails with every failure at its place. But a failure is asked for its message, and
one that has none decides the run as well: the members behind it are never tried.

* **`tries_in_order`**: the law, for every script of outcomes, every list of members (repeated ones
  included), progress of the run's own or made for it, and any audience among whom events end.
* **`World.decision?`**: the same as a function of members and outcomes. Neither the audience nor the
  progress occurs in it, which is why both ways to run an operation end alike.
* **`mute_failure_is_the_last`**: two members, of which the second would give a value.
-/

namespace ClusterClient

namespace World

variable {α : Type}

/-- A run over members begins: it is given no progress, or progress that was made for these members. -/
inductive Begins (own : List Endpoint) (audience : Audience) (w : World α) : World α → Prop where
  | alone : Begins own audience w (w.begin own audience)
  | given {progress : Nat} (fresh : w.progresses[progress]? = some (.start own)) :
      Begins own audience w (w.beginWith own audience progress)

/-- The world in which the first attempts of a run have ended as a script says. -/
def afterAttempts (w : World α) (call : Nat) (script : Nat → Outcome α) (count : Nat) : World α :=
  w.feed call ((List.range count).map script)

/-- How a run that some failures have brought to its rest ends, if these are the outcomes of its further
attempts. -/
def decision? (own : List Endpoint) (errors : List Failure) : List (Outcome α) → Option (Outcome α)
  | [] => if errors.length = own.length then some (.raised (.cluster errors own)) else none
  | outcome :: rest =>
    if errors.length = own.length then some (.raised (.cluster errors own))
    else
      match outcome.passed? with
      | some f => decision? own (errors ++ [f]) rest
      | none => outcome.final?

variable {w begun : World α} {call slot : Nat} {own : List Endpoint} {audience : Audience}
  {errors : List Failure}

/-- Only a live registry has to be asked whether its events end. -/
theorem settles_of_live
    (hlive : audience = .live → audience.Settles w.population w.runs.length w.observers) :
    audience.Settles w.population w.runs.length w.observers := by
  cases audience with
  | live => exact hlive rfl
  | fixed listeners => exact Audience.settles_fixed listeners _ _ _

/-- A run that begins has come to its first member, or to its end if it has no members. -/
theorem Begins.reached (h : Begins own audience w begun)
    (hsettles : audience.Settles w.population w.runs.length w.observers) :
    ∃ slot, begun.Reached w.runs.length own audience slot [] := by
  cases h with
  | alone => exact ⟨_, reached_begin hsettles⟩
  | given fresh => exact ⟨_, w.reached_beginWith fresh hsettles⟩

/-! ## The first attempts of a script -/

/-- A script of which the first outcomes are failures begins with a list of them. -/
theorem exists_failures {script : Nat → Outcome α} {k : Nat}
    (hfail : ∀ i < k, ∃ f : Failure, f.Speaks ∧ script i = .raised f) :
    ∃ failures : List Failure, failures.length = k ∧ (∀ f ∈ failures, f.Speaks) ∧
      (List.range k).map script = failures.map .raised := by
  induction k with
  | zero => exact ⟨[], rfl, nofun, rfl⟩
  | succ k ih =>
    obtain ⟨failures, hlength, hspeaks, hmap⟩ := ih fun i hi => hfail i (by omega)
    obtain ⟨f, hf, hscript⟩ := hfail k (by omega)
    refine ⟨failures ++ [f], by simp [hlength], ?_, ?_⟩
    · exact List.forall_mem_append.2 ⟨hspeaks, List.forall_mem_singleton.2 hf⟩
    · rw [List.range_succ, List.map_append, hmap]
      simp [hscript]

/-- The attempts of a script are the first of them, and then the others. -/
theorem afterAttempts_of_le (w : World α) (call : Nat) (script : Nat → Outcome α) {k m : Nat}
    (hle : k ≤ m) :
    ∃ rest, w.afterAttempts call script m = (w.afterAttempts call script k).feed call rest := by
  refine ⟨((List.range m).drop k).map script, ?_⟩
  have hsplit : List.range m = List.range k ++ (List.range m).drop k := by
    have htake : (List.range m).take k = List.range k := by rw [List.take_range, Nat.min_eq_left hle]
    rw [← htake, List.take_append_drop]
  rw [afterAttempts, afterAttempts, feed, feed, feed, ← List.foldl_append, ← List.map_append, ← hsplit]

/-- While all attempts have failed, the run stands where their failures have brought it. -/
theorem Reached.afterAttempts (h : w.Reached call own audience slot []) {script : Nat → Outcome α}
    {k : Nat} (hk : k ≤ own.length) (hfail : ∀ i < k, ∃ f : Failure, f.Speaks ∧ script i = .raised f) :
    ∃ failures : List Failure, failures.length = k ∧
      (w.afterAttempts call script k).Reached call own audience slot failures := by
  obtain ⟨failures, hlength, hspeaks, hmap⟩ := exists_failures hfail
  have hfed := h.feed_raised hspeaks (by simp only [List.length_nil]; omega)
  rw [World.afterAttempts, hmap]
  exact ⟨failures, hlength, by simpa using hfed⟩

/-- An attempt that ends the run does so for good: the outcomes that follow it in the script reach nobody. The
members before it have failed, and so the run stands at it when it comes. -/
theorem Reached.decided (h : w.Reached call own audience slot []) {script : Nat → Outcome α} {k : Nat}
    (hk : k < own.length) (hfail : ∀ i < k, ∃ f : Failure, f.Speaks ∧ script i = .raised f) {last : Outcome α}
    (hlast : (script k).final? = some last) {m : Nat} (hm : k < m) :
    (w.afterAttempts call script m).outcome? call = some last ∧
      (w.afterAttempts call script m).invoked call = own.take (k + 1) := by
  obtain ⟨failures, rfl, hreached⟩ := h.afterAttempts (Nat.le_of_lt hk) hfail
  have hresume : w.afterAttempts call script (failures.length + 1) =
      (w.afterAttempts call script failures.length).resume call (script failures.length) := by
    simp [World.afterAttempts, feed, List.range_succ]
  -- the run after the attempt that decides it, whichever way it does
  obtain ⟨hended, -⟩ := hreached.resume_final hk hlast
  obtain ⟨rest, hrest⟩ := afterAttempts_of_le w call script (show failures.length + 1 ≤ m from hm)
  rw [hrest, hresume, feed_of_ended hended rfl]
  simp [outcome?, World.invoked, hended]

/-- When every attempt fails, the run fails with all failures in order, and has tried every member. Attempts that the
script has beyond the members are never made. -/
theorem Reached.exhausted (h : w.Reached call own audience slot []) (hspeaks : ∀ f ∈ errors, f.Speaks)
    {script : Nat → Outcome α} (hscript : (List.range own.length).map script = errors.map .raised) {m : Nat}
    (hm : own.length ≤ m) :
    (w.afterAttempts call script m).outcome? call = some (.raised (.cluster errors own)) ∧
      (w.afterAttempts call script m).invoked call = own := by
  have hlength : errors.length = own.length := by simpa using (congrArg List.length hscript).symm
  have hreached : (w.afterAttempts call script own.length).Reached call own audience slot errors := by
    have hfed := h.feed_raised hspeaks (by simp only [List.length_nil]; omega)
    rw [World.afterAttempts, hscript]
    simpa using hfed
  obtain ⟨rest, hrest⟩ := afterAttempts_of_le w call script hm
  rw [hrest, feed_of_ended (hreached.ended_of_all hlength) rfl]
  exact ⟨hreached.outcome_of_all hlength, by rw [hreached.invoked, List.take_of_length_le (by omega)]⟩

/-! ## What decides a run -/

/-- A run ends as its members and the outcomes of its attempts decide. The induction is on the outcomes. When
all members have failed, the run has ended and takes none of them; otherwise the first one ends the run, or
brings it to the next member. -/
theorem Reached.outcome_feed (h : w.Reached call own audience slot errors)
    (outcomes : List (Outcome α)) :
    (w.feed call outcomes).outcome? call = decision? own errors outcomes := by
  induction outcomes generalizing w errors with
  | nil =>
    unfold decision?
    split
    · next hall => exact h.outcome_of_all hall
    · next hleft =>
      have hwithin := h.within
      exact h.outcome_of_lt (by omega)
  | cons outcome rest ih =>
    unfold decision?
    split
    · next hall =>
      -- nobody is left to be tried: the outcomes reach a run that has ended
      rw [feed_of_ended (h.ended_of_all hall) rfl]
      exact h.outcome_of_all hall
    · next hleft =>
      have hwithin := h.within
      have hlt : errors.length < own.length := by omega
      rw [feed, List.foldl_cons]
      -- the attempt ends the run, or its failure brings the run to the next member
      cases hpassed : outcome.passed? with
      | none =>
        obtain ⟨last, hfinal⟩ := Outcome.exists_final hpassed
        obtain ⟨hended, -⟩ := h.resume_final hlt hfinal
        have hstay := feed_of_ended hended rfl rest
        rw [feed] at hstay
        simp [hstay, outcome?, hended, hfinal]
      | some f =>
        obtain ⟨hf, rfl⟩ := Outcome.passed?_eq_some_iff.1 hpassed
        exact ih (h.resume_raised hlt hf)

/-- **Members are tried in order**, one at a time and each at most once. After failures only, the attempt
against the next member is under way, and nobody after it has been tried. The first attempt that does not
fail ends the run, with its value or as cancelled, and nobody after it is ever tried. When every attempt
fails, the run fails with all failures in order. The failures are such as can be shown: the first one that cannot ends
the run as well, with what showing it has failed with. Whoever listens, and whichever progress is used, the run
ends in the same way. -/
theorem tries_in_order (hbegun : Begins own audience w begun)
    (hlive : audience = .live → audience.Settles w.population w.runs.length w.observers)
    (script : Nat → Outcome α) :
    let call := w.runs.length
    let after := begun.afterAttempts call script
    (∀ k, ∀ hk : k < own.length, (∀ i < k, ∃ f : Failure, f.Speaks ∧ script i = .raised f) →
      (after k).awaited? call = some (k, own[k]) ∧ (after k).invoked call = own.take (k + 1) ∧
        (after k).outcome? call = none) ∧
    (∀ k value, k < own.length → (∀ i < k, ∃ f : Failure, f.Speaks ∧ script i = .raised f) →
      script k = .returned value →
      ∀ m, k < m → (after m).outcome? call = some (.returned value) ∧
        (after m).invoked call = own.take (k + 1)) ∧
    (∀ k, k < own.length → (∀ i < k, ∃ f : Failure, f.Speaks ∧ script i = .raised f) → script k = .cancelled →
      ∀ m, k < m → (after m).outcome? call = some .cancelled ∧
        (after m).invoked call = own.take (k + 1)) ∧
    (∀ k f why, k < own.length → (∀ i < k, ∃ f : Failure, f.Speaks ∧ script i = .raised f) →
      script k = .raised f → f.whyMute? = some why →
      ∀ m, k < m → (after m).outcome? call = some (.raised why) ∧
        (after m).invoked call = own.take (k + 1)) ∧
    (∀ errors : List Failure, (∀ f ∈ errors, f.Speaks) →
      (List.range own.length).map script = errors.map .raised →
      ∀ m, own.length ≤ m → (after m).outcome? call = some (.raised (.cluster errors own)) ∧
        (after m).invoked call = own) ∧
    (∀ (audience' : Audience) (begun' : World α), Begins own audience' w begun' →
      (audience' = .live → audience'.Settles w.population w.runs.length w.observers) →
      ∀ m, (begun'.afterAttempts call script m).outcome? call = (after m).outcome? call) := by
  -- whoever listens and whichever progress is used, the run begins at its first member
  obtain ⟨slot, hreached⟩ := hbegun.reached (settles_of_live hlive)
  refine ⟨?_, ?_, ?_, ?_, ?_, ?_⟩
  · intro k hk hfail
    obtain ⟨failures, rfl, h⟩ := hreached.afterAttempts (Nat.le_of_lt hk) hfail
    exact ⟨h.awaited hk, h.invoked, h.outcome_of_lt hk⟩
  · intro k value hk hfail hvalue m hm
    exact hreached.decided hk hfail (by rw [hvalue, Outcome.final?]) hm
  · intro k hk hfail hcancelled m hm
    exact hreached.decided hk hfail (by rw [hcancelled, Outcome.final?]) hm
  · intro k f why hk hfail hraised hwhy m hm
    exact hreached.decided hk hfail (by rw [hraised, Outcome.final?, hwhy, Option.map_some]) hm
  · intro errors hspeaks herrors m hm
    exact hreached.exhausted hspeaks herrors hm
  · intro audience' begun' hbegun' hlive' m
    -- both runs end as their members and the script decide
    obtain ⟨slot', hreached'⟩ := hbegun'.reached (settles_of_live hlive')
    rw [afterAttempts, afterAttempts, hreached'.outcome_feed, hreached.outcome_feed]

/-- The same member twice, under a live registry whose only listener fails and leaves: the first attempt
fails, and the second one gives the value. -/
theorem tries_in_order_member_twice :
    let population : Population := ⟨fun _ listener _ => ⟨[.deregister listener], true⟩, 1⟩
    let members : List Endpoint := [⟨"http://etcd1:2379"⟩, ⟨"http://etcd1:2379"⟩]
    let w : World Nat := ((World.quiet population).change (.register "log")).addProgress members
    let begun := w.beginWith members .live 0
    let script : Nat → Outcome Nat := fun i => if i = 0 then .raised .clientClosed else .returned 7
    Begins members .live w begun ∧ Audience.live.Settles w.population w.runs.length w.observers ∧
      (begun.afterAttempts 0 script 2).outcome? 0 = some (.returned 7) ∧
      (begun.afterAttempts 0 script 2).invoked 0 = members := by
  intro population members w begun script
  have hnobody : population.RegistersNobody := by
    intro told listener event change hchange
    exact ⟨listener, List.mem_singleton.1 hchange⟩
  have hsettles : Audience.live.Settles w.population w.runs.length w.observers :=
    Audience.settles_of_registersNobody hnobody _ (by decide)
  have hbegun : Begins members .live w begun := .given rfl
  have hfail : ∀ i < 1, ∃ f : Failure, f.Speaks ∧ script i = .raised f := by
    intro i hi
    exact ⟨.clientClosed, rfl, if_pos (by omega)⟩
  have hreturned := (tries_in_order hbegun (fun _ => hsettles) script).2.1 1 7 (by decide) hfail rfl
  exact ⟨hbegun, hsettles, (hreturned 2 (by decide)).1, (hreturned 2 (by decide)).2⟩

/-- An operation fails at the first of two members with an error about a whole number of too many digits, and would
give a value at the second one. Asked for its message, the error fails in turn. The run ends with that other error, the
second member is never tried, and nobody hears of the failed attempt. -/
theorem mute_failure_is_the_last :
    let members : List Endpoint := [⟨"http://member0:2379"⟩, ⟨"http://member1:2379"⟩]
    let w : World Nat := (World.quiet ⟨fun _ _ _ => .quiet, 1⟩).change (.register "log")
    let raised := Failure.about .usual .value (.whole (Nat.pow 10 4300))
    let script : Nat → Outcome Nat := fun i => if i = 0 then .raised raised else .returned 1
    let ended := (w.begin members .live).afterAttempts 0 script 2
    ended.outcome? 0 = some (.raised (.external .tooManyDigits)) ∧ ended.outcome? 0 ≠ some (.returned 1) ∧
      ended.invoked 0 = [⟨"http://member0:2379"⟩] ∧
      ended.observers.deliveries.map (fun delivery => delivery.event.kind.name) =
        [Text.ofString "attempt:start"] := by
  intro members w raised script ended
  have hmute : raised = .mute .value (.external .tooManyDigits) :=
    Failure.about_of_whyUnshown? (Value.whyUnshown?_whole_of_le _ (by decide +kernel))
  clear_value raised
  subst hmute
  have houtcome : ended.outcome? 0 = some (.raised (.external .tooManyDigits)) := rfl
  refine ⟨houtcome, fun hreturned => ?_, rfl, rfl⟩
  rw [houtcome] at hreturned
  cases hreturned

end World

end ClusterClient
