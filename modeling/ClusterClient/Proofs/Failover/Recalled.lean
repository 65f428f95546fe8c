import ClusterClient.Proofs.Failover.Following

/-!
# Progress that recalls failures

Progress can be moved on and made to record failures before a call is given it. The guard notices that a
member has been tried, and nothing else: failures that were recorded by hand stay in the progress, and the
call puts its own behind them. So the failures of a call that has tried all members are one for each member
only if nothing was recorded before.

* **`failures_of_moved_progress`**: what a call makes of progress, for every history of it.
-/

namespace ClusterClient

namespace Progress

variable {own : List Endpoint} {history : List Move}

/-- The failure that a move records. -/
def Move.failure? : Move → Option Failure
  | .next => none
  | .fail f => some f

/-- The failures that a history records, in order. -/
def recorded (history : List Move) : List Failure := history.filterMap Move.failure?

/-- Nothing that progress shows is lost in a history. -/
theorem grows_moves (p : Progress) (history : List Move) : p.Grows (history.foldl move p) := by
  induction history generalizing p with
  | nil => exact .refl p
  | cons m rest ih => exact (p.grows_move m).trans (ih (p.move m))

/-- A history that only records failures leaves the progress new but for them. They stand in the order in which
they were recorded, and nobody has been tried. -/
theorem after_of_not_mem_next (own : List Endpoint) (hnext : ¬ Move.next ∈ history) :
    after own history = (start own).recalling (recorded history) := by
  -- what was recorded before stays in front
  have hfold (before : List Failure) :
      history.foldl move ((start own).recalling before) =
        (start own).recalling (before ++ recorded history) := by
    induction history generalizing before with
    | nil => simp [recorded]
    | cons m rest ih =>
      rw [List.mem_cons, not_or] at hnext
      cases m with
      | next => exact absurd rfl hnext.1
      | fail f =>
        have hmoved : ((start own).recalling before).move (.fail f) =
            (start own).recalling (before ++ [f]) := by
          simp [move, recordFailure, recalling, start]
        rw [List.foldl_cons, hmoved, ih hnext.2]
        simp [recorded, Move.failure?]
  exact hfold []

/-- A history that moves on has tried somebody: the first move that asks for a member has taken one, as there
are members and none was taken before. What is tried is never taken back. -/
theorem attempts_after_pos (hown : own ≠ []) (hnext : Move.next ∈ history) :
    0 < (after own history).attempts := by
  obtain ⟨first, rest, rfl⟩ := List.append_of_mem hnext
  have hwhole := attempted_append_remaining own first
  have hused : 0 < ((after own first).move .next).attempts := by
    simp only [move]
    cases hremaining : (after own first).remaining with
    | cons e _ => exact attempts_next_of_some (e := e) (by simp [next, hremaining])
    | nil =>
      -- nobody is left, so that all members have been tried
      rw [hremaining, List.append_nil] at hwhole
      have htried := ((after own first).grows_next).attempts_le
      have hsome := List.length_pos_iff.2 hown
      rw [attempts, hwhole] at htried
      omega
  rw [after, List.foldl_append, List.foldl_cons]
  exact Nat.lt_of_lt_of_le hused (grows_moves _ rest).attempts_le

end Progress

/-- When every member has failed, and all that they have failed with can be shown, a run ends with what its progress
recalled and then their failures. -/
theorem Standing.ComesOf.eq_of_all {α : Type} {own : List Endpoint} {before raised : List Failure}
    {outcomes : List (Outcome α)} {s : Standing α} (h : ComesOf own before outcomes s)
    (hspeak : ∀ f ∈ raised, f.Speaks) (hall : raised.length = own.length)
    (hfail : raised.map .raised <+: outcomes) :
    s = ⟨(Progress.reached own raised).recalling before,
      .ended (.raised (.ofMembers (before ++ raised) own))⟩ := by
  -- a member that is left has an attempt which has failed as well, with a failure that can be shown
  have hleft (errors : List Failure) (decided : Outcome α) (rest : List (Outcome α))
      (hlt : errors.length < own.length)
      (hfirst : raised.map .raised <+: errors.map .raised ++ decided :: rest) :
      ∃ f : Failure, f.Speaks ∧ decided = .raised f := by
    have hat := hfirst.getElem (i := errors.length) (by rw [List.length_map]; omega)
    exact ⟨raised[errors.length], hspeak _ (List.getElem_mem _), by simpa using hat.symm⟩
  cases h with
  | waiting errors e hspeaks hnext =>
    obtain ⟨hlt, -⟩ := List.getElem?_eq_some_iff.1 hnext
    have hle := hfail.length_le
    simp only [List.length_map] at hle
    omega
  | exhausted errors rest hspeaks hlength =>
    have hsame : raised.map (Outcome.raised : Failure → Outcome α) = errors.map .raised :=
      (List.prefix_of_prefix_length_le hfail (List.prefix_append _ _) (by simp [hall, hlength])).eq_of_length
        (by simp [hall, hlength])
    rw [(List.map_inj_right fun f g h => Outcome.raised.inj h).1 hsame]
  | returned errors value rest hspeaks hlt =>
    obtain ⟨f, -, hf⟩ := hleft errors _ rest hlt hfail
    cases hf
  | cancelled errors rest hspeaks hlt =>
    obtain ⟨f, -, hf⟩ := hleft errors _ rest hlt hfail
    cases hf
  | mute errors rest hspeaks hwhy hlt =>
    obtain ⟨f, hf, heq⟩ := hleft errors _ rest hlt hfail
    cases heq
    exact absurd (hwhy.symm.trans hf) nofun

namespace World

variable {α : Type} {w : World α} {own : List Endpoint} {slot : Nat} {history : List Progress.Move}

/-- **What a call makes of progress that has been moved before.** If the progress has ever been moved on to a
member, the call is refused. If not, the call gets past the guard; and when every member has failed, it fails
with whatever the progress recorded before, and behind it one failure for each member, in order. The members fail with
what can be shown. If something that the progress recorded cannot, the call fails with that instead. -/
theorem failures_of_moved_progress (hreachable : w.Reachable) (hown : own ≠ [])
    (hmoved : w.progresses[slot]? = some (.after own history)) (audience : Audience) :
    let call := w.runs.length
    let begun := w.beginWith own audience slot
    let recorded := Progress.recorded history
    (.next ∈ history → w.Refuses own audience slot) ∧
    (¬ Progress.Move.next ∈ history → w.Admits own slot ∧
      ∀ (later : List (Action α)) (raised : List Failure), (∀ a ∈ later, a.Spares slot) →
        (∀ f ∈ raised, f.Speaks) → raised.length = own.length →
        raised.map .raised <+: outcomesFor call later →
        (audience = .live → ¬ (begun.steps later).IsStuck call) →
        (begun.steps later).outcome? call = some (.raised (.ofMembers (recorded ++ raised) own)) ∧
          ((∀ f ∈ recorded, f.Speaks) →
            (begun.steps later).outcome? call = some (.raised (.cluster (recorded ++ raised) own))) ∧
          (begun.steps later).invoked call = own) := by
  intro call begun recorded
  refine ⟨fun hnext => ?_, fun hnext => ?_⟩
  · exact refuses_of_not_admits (List.getElem?_eq_some_iff.1 hmoved).1
      (not_admits_of_used hmoved (Progress.attempts_after_pos hown hnext) own) audience
  -- nobody was asked for, so that the run begins with new progress that recalls the failures
  · have hafter := Progress.after_of_not_mem_next own hnext
    have haccept : (Progress.after own history).accept own = .ok () := by
      rw [hafter]
      exact Progress.accept_eq_ok_iff.2 ⟨rfl, rfl⟩
    refine ⟨⟨_, hmoved, haccept⟩, fun later raised hspares hspeak hall hfail hgoing => ?_⟩
    have hbegun := follows_beginWith hreachable.sound hown hmoved haccept audience
    have howns := (follows_steps hbegun later hspares).owns hgoing
    have hcomes := Standing.comesOf_afterAll own (Progress.after own history).errors
      (outcomesFor call later)
    have hrecorded : (Progress.after own history).errors = recorded := by
      rw [hafter, Progress.errors_recalling, Progress.start, List.append_nil]
    have htried : own.take (raised.length + 1) = own := List.take_of_length_le (by omega)
    -- the first outcomes are failures of all members, so that the call has ended with them
    rw [hcomes.eq_of_all hspeak hall hfail, hrecorded] at howns
    have hended := howns.outcome_of_ended rfl
    refine ⟨hended, fun hearlier => ?_, howns.invoked_eq.trans htried⟩
    rw [hended, Failure.ofMembers_of_speaks own (List.forall_mem_append.2 ⟨hearlier, hspeak⟩)]

/-- A cluster of one member, and progress that has recorded a failure before the call: the call gets past the
guard, and ends with two failures. -/
theorem failures_of_moved_progress_alone :
    let members : List Endpoint := [⟨"http://etcd1:2379"⟩]
    let history : List Progress.Move := [.fail (.closed "early")]
    let later : List (Action Nat) := [.resume 0 (.raised (.closed "late"))]
    let w : World Nat :=
      ((World.quiet ⟨fun _ _ _ => .quiet, 1⟩).addProgress members).moveProgress 0 (.fail (.closed "early"))
    let after := (w.beginWith members (.fixed []) 0).steps later
    w.Reachable ∧ members ≠ [] ∧ w.progresses[0]? = some (.after members history) ∧
      ¬ Progress.Move.next ∈ history ∧ (∀ a ∈ later, a.Spares 0) ∧
      after.outcome? 0 = some (.raised (.cluster [.closed "early", .closed "late"] members)) := by
  intro members history later w after
  have hreachable : w.Reachable :=
    ⟨_, [.addProgress members, .moveProgress 0 (.fail (.closed "early"))], rfl⟩
  have hmoved : w.progresses[0]? = some (.after members history) := rfl
  have hnext : ¬ Progress.Move.next ∈ history := fun h => by cases List.mem_singleton.1 h
  have hspares : ∀ a ∈ later, a.Spares 0 := by
    simp [later, Action.Spares]
  have hfailed := ((failures_of_moved_progress hreachable (List.cons_ne_nil _ _) hmoved (.fixed [])).2
    hnext).2 later [.closed "late"] hspares (List.forall_mem_singleton.2 rfl) rfl (List.prefix_refl _)
    (fun hlive => by cases hlive)
  exact ⟨hreachable, List.cons_ne_nil _ _, hmoved, hnext, hspares,
    hfailed.2.1 (List.forall_mem_singleton.2 rfl)⟩

/-- A call that gets past the guard and has all its members fail does not always end with their failures
alone: over two members, it ends with three. -/
theorem failures_not_of_members :
    ¬ ∀ (own : List Endpoint) (history : List Progress.Move) (w : World Nat)
      (raised errors : List Failure), w.Reachable → own ≠ [] →
      w.progresses[0]? = some (.after own history) → w.Admits own 0 → raised.length = own.length →
      ((w.beginWith own (.fixed []) 0).feed w.runs.length (raised.map .raised)).outcome? w.runs.length =
        some (.raised (.cluster errors own)) →
      errors = raised := by
  intro hmembersAlone
  let members : List Endpoint := [⟨"http://member0:2379"⟩, ⟨"http://member1:2379"⟩]
  let early : Progress.Move := .fail (.closed "refused")
  let w : World Nat := ((World.quiet ⟨fun _ _ _ => .quiet, 1⟩).addProgress members).moveProgress 0 early
  have hreachable : w.Reachable := ⟨_, [.addProgress members, .moveProgress 0 early], rfl⟩
  have hadmits : w.Admits members 0 :=
    ⟨.after members [early], rfl, Progress.accept_eq_ok_iff.2 ⟨rfl, rfl⟩⟩
  have herrors := hmembersAlone members [early] w [.closed "refused", .closed "refused"]
    [.closed "refused", .closed "refused", .closed "refused"] hreachable
    (List.cons_ne_nil _ _) rfl hadmits rfl rfl
  exact absurd (congrArg List.length herrors) (by decide)

end World

end ClusterClient
