import ClusterClient.Proofs.Failover.Delivering

/-!
# Listeners that withdraw

A live registry is walked by position. A listener that deregisters itself as it is called takes a
registration at or before its own position away, so that those after it move up by one, and the one right
after it is passed over. Nobody else is, and nobody is called twice.

## The architecture

* **`Population.OnlyWithdraws`**: listeners that change nothing but a registration of their own.
* **`Registration`**: a listener and the position at which it is registered; **`Population.LeavesAt`**:
  whether it deregisters itself when its turn comes.
* **`Population.Walks`**: who is called of the registrations ahead, in two steps: behind one that stays
  (**`Walks.stay`**) and behind one that leaves (**`Walks.leave`**).
* **`drop_erase`**: what is left behind a position. **`OnlyWithdraws.exists_emitFrom`** follows the walk, by
  induction on the patience; **`withdrawals_pass_over_the_next`** is the law.
-/

namespace ClusterClient

/-- A listener, and the position at which it is registered. -/
abbrev Registration := Listener × Nat

/-- Whoever is called changes nothing but its own registration, and that at most once. -/
def Population.OnlyWithdraws (population : Population) : Prop :=
  ∀ told l event, (population.react told l event).changes = [] ∨
    (population.react told l event).changes = [.deregister l]

/-- The calls of some registrations with an event. -/
def Event.toRegistrations (call : Nat) (event : Event) (called : List Registration) : List Delivery :=
  called.map fun r => ⟨call, r.1, event⟩

/-- Whether a registration deregisters its listener when its turn comes, after those of the others before it. -/
def Population.LeavesAt (population : Population) (call : Nat) (event : Event) (told : List Delivery)
    (called : List Registration) (r : Registration) : Prop :=
  (population.react (told ++ event.toRegistrations call (called.filter fun other => other.2 < r.2)) r.1
    event).changes ≠ []

/-- Whether a registration stands right behind one that leaves when its turn comes. -/
def Population.PassesOver (population : Population) (call : Nat) (event : Event) (told : List Delivery)
    (called : List Registration) (r : Registration) : Prop :=
  ∃ s ∈ called, r.2 = s.2 + 1 ∧ population.LeavesAt call event told called s

section LeavesAt

variable {population : Population} {call : Nat} {event : Event} {told : List Delivery} {first r : Registration}
  {called : List Registration}

/-- The first that is called has nobody before it. -/
theorem Population.leavesAt_head (hlater : ∀ other ∈ called, first.2 < other.2) :
    population.LeavesAt call event told (first :: called) first ↔
      (population.react told first.1 event).changes ≠ [] := by
  have hnone : (first :: called).filter (fun other => other.2 < first.2) = [] := by
    refine List.filter_eq_nil_iff.2 fun other hother => ?_
    obtain rfl | hother := List.mem_cons.1 hother
    · simp
    · have hlt := hlater other hother
      simp only [decide_eq_true_eq]
      omega
  -- nobody has been called before the first
  rw [LeavesAt, hnone, Event.toRegistrations, List.map_nil, List.append_nil]

/-- Whoever is called later has the first before it, among what has been told. -/
theorem Population.leavesAt_tail (hlater : first.2 < r.2) :
    population.LeavesAt call event told (first :: called) r ↔
      population.LeavesAt call event (told ++ [⟨call, first.1, event⟩]) called r := by
  simp [LeavesAt, Event.toRegistrations, hlater]

/-- A registration is passed over by the doing of the first or of one that is called later. -/
theorem Population.passesOver_cons (hlater : ∀ other ∈ called, first.2 < other.2) :
    population.PassesOver call event told (first :: called) r ↔
      (r.2 = first.2 + 1 ∧ (population.react told first.1 event).changes ≠ []) ∨
        population.PassesOver call event (told ++ [⟨call, first.1, event⟩]) called r := by
  refine ⟨fun ⟨s, hs, hnext, hleaves⟩ => ?_, fun h => ?_⟩
  · obtain rfl | hs := List.mem_cons.1 hs
    · exact .inl ⟨hnext, (leavesAt_head hlater).1 hleaves⟩
    · exact .inr ⟨s, hs, hnext, (leavesAt_tail (hlater s hs)).1 hleaves⟩
  · obtain ⟨hnext, hleaves⟩ | ⟨s, hs, hnext, hleaves⟩ := h
    · exact ⟨first, List.mem_cons_self, hnext, (leavesAt_head hlater).2 hleaves⟩
    · exact ⟨s, List.mem_cons_of_mem _ hs, hnext, (leavesAt_tail (hlater s hs)).2 hleaves⟩

/-- Only what stands behind somebody who is called can be passed over. -/
theorem Population.not_passesOver (hlater : ∀ other ∈ called, r.2 ≤ other.2) :
    ¬ population.PassesOver call event told called r := by
  rintro ⟨s, hs, hnext, -⟩
  have hle := hlater s hs
  omega

end LeavesAt

/-- Who is called of the registrations ahead, the first of which has a position: each once and in order,
except those that are passed over. -/
structure Population.Walks (population : Population) (call : Nat) (event : Event) (told : List Delivery)
    (position : Nat) (ahead : List Listener) (called : List Registration) : Prop where
  inOrder : called.Sublist (ahead.zipIdx position)
  missed : ∀ r ∈ ahead.zipIdx position, r ∉ called ↔ population.PassesOver call event told called r

namespace Population.Walks

variable {population : Population} {call position : Nat} {event : Event} {told : List Delivery} {l : Listener}
  {ahead : List Listener} {called : List Registration}

theorem nil : population.Walks call event told position [] [] := ⟨List.Sublist.refl _, by simp⟩

theorem le_snd (h : population.Walks call event told position ahead called) :
    ∀ r ∈ called, position ≤ r.2 := fun _ hr =>
  List.le_snd_of_mem_zipIdx (h.inOrder.subset hr)

/-- The first is called, and those behind it are missed by its doing or by that of others. Both ways to go on
are cases of this. -/
theorem cons (hlater : ∀ other ∈ called, position < other.2)
    (hinOrder : called.Sublist (ahead.zipIdx (position + 1)))
    (hmissed : ∀ r ∈ ahead.zipIdx (position + 1), r ∉ called ↔
      (r.2 = position + 1 ∧ (population.react told l event).changes ≠ []) ∨
        population.PassesOver call event (told ++ [⟨call, l, event⟩]) called r) :
    population.Walks call event told position (l :: ahead) ((l, position) :: called) := by
  refine ⟨by rw [List.zipIdx_cons]; exact hinOrder.cons_cons _, fun r hr => ?_⟩
  rw [List.zipIdx_cons] at hr
  obtain rfl | hr := List.mem_cons.1 hr
  -- the registration whose turn it is has been called, and nobody in front of it leaves it behind
  · have hhere : ∀ other ∈ ((l, position) :: called : List Registration), position ≤ other.2 := by
      intro other hother
      obtain rfl | hother := List.mem_cons.1 hother
      · exact Nat.le_refl _
      · exact Nat.le_of_lt (hlater other hother)
    exact iff_of_false (fun hnot => hnot List.mem_cons_self) (not_passesOver hhere)
  · have hne : r ≠ (l, position) := by
      rintro rfl
      exact absurd (List.le_snd_of_mem_zipIdx hr) (by simp)
    rw [passesOver_cons hlater, ← hmissed r hr, List.mem_cons, not_or]
    exact and_iff_right hne

/-- **Behind one that stays, the next is called**, and nobody is missed by its doing. -/
theorem stay (hstays : (population.react told l event).changes = [])
    (h : population.Walks call event (told ++ [⟨call, l, event⟩]) (position + 1) ahead called) :
    population.Walks call event told position (l :: ahead) ((l, position) :: called) := by
  refine cons h.le_snd h.inOrder fun r hr => ?_
  rw [h.missed r hr]
  exact (or_iff_right fun hleaves => hleaves.2 hstays).symm

/-- **Behind one that leaves, the next is passed over**, and the walk goes on behind that one. The registrations
move up by one while the walk moves on by one, so that the next one is at a position that the walk has left. -/
theorem leave (hleaves : (population.react told l event).changes ≠ [])
    (h : population.Walks call event (told ++ [⟨call, l, event⟩]) (position + 2) ahead.tail called) :
    population.Walks call event told position (l :: ahead) ((l, position) :: called) := by
  have hlater : ∀ other ∈ called, position < other.2 := fun other hother => by
    have hle := h.le_snd other hother
    omega
  cases ahead with
  | nil => exact cons hlater h.inOrder nofun
  | cons next rest =>
    refine cons hlater (by rw [List.zipIdx_cons]; exact h.inOrder.cons _) fun r hr => ?_
    rw [List.zipIdx_cons] at hr
    obtain rfl | hr := List.mem_cons.1 hr
    -- the next registration has moved to where the walk was
    · refine iff_of_true (fun hcalled => ?_) (.inl ⟨rfl, hleaves⟩)
      exact absurd (h.le_snd _ hcalled) (by simp)
    · have hbehind : r.2 ≠ position + 1 := by
        have hle := List.le_snd_of_mem_zipIdx hr
        omega
      rw [h.missed r hr]
      exact (or_iff_right fun hnext => hbehind hnext.1).symm

end Population.Walks

/-- Behind a position, taking away a listener that stands there leaves what stands behind the next. It may be an
earlier registration of the same listener that is taken away; what is left behind the position is the same. -/
theorem drop_erase {registered : List Listener} {l : Listener} {n : Nat} (h : registered[n]? = some l) :
    (registered.erase l).drop (n + 1) = registered.drop (n + 2) := by
  induction registered generalizing n with
  | nil => cases h
  | cons first rest ih =>
    -- the first registration of the listener is the one that is taken away
    by_cases hfirst : first = l
    · rw [hfirst, List.erase_cons_head]
      rfl
    · cases n with
      | zero => exact absurd (Option.some.inj h) hfirst
      | succ n =>
        rw [List.erase_cons_tail (by simpa using hfirst)]
        exact ih h

namespace Population.OnlyWithdraws

variable {population : Population}

/-- Whoever is called takes one registration of its own away, or none. -/
theorem registered_deliver (h : population.OnlyWithdraws) (call : Nat) (event : Event) (o : Observers)
    (l : Listener) : (o.deliver population call event l).registered =
      if (population.react o.deliveries l event).changes = [] then o.registered else o.registered.erase l := by
  obtain hnone | hone := h o.deliveries l event
  · rw [if_pos hnone, Observers.deliver, hnone]
    rfl
  · rw [if_neg (by rw [hone]; exact List.cons_ne_nil _ _), Observers.deliver, hone]
    rfl

/-- **The walk from a position on**, with the registrations that are ahead of it and the position that they had
at first, which is not where they stand once others have left. -/
theorem exists_emitFrom (h : population.OnlyWithdraws) (call : Nat) (event : Event) {patience turn : Nat}
    {o : Observers} {ahead : List Listener} (hahead : o.registered.drop turn = ahead)
    (henough : ahead.length ≤ patience) (position : Nat) :
    ∃ o' called, Observers.emitFrom population call event patience turn o = some o' ∧
      o'.deliveries = o.deliveries ++ event.toRegistrations call called ∧
      population.Walks call event o.deliveries position ahead called := by
  have hnobody {patience turn position : Nat} {o : Observers} (hahead : o.registered.drop turn = []) :
      ∃ o' called, Observers.emitFrom population call event patience turn o = some o' ∧
        o'.deliveries = o.deliveries ++ event.toRegistrations call called ∧
        population.Walks call event o.deliveries position [] called := by
    have hturn : o.registered[turn]? = none := List.getElem?_eq_none (List.drop_eq_nil_iff.1 hahead)
    exact ⟨o, [], by rw [Observers.emitFrom, hturn], by simp [Event.toRegistrations], .nil⟩
  -- induction on the patience: who is called either stays, and the walk goes on behind it, or leaves, and
  -- the walk goes on behind the next
  induction patience generalizing turn o ahead position with
  | zero =>
    obtain rfl := List.length_eq_zero_iff.1 (Nat.le_zero.1 henough)
    exact hnobody hahead
  | succ patience ih =>
    cases ahead with
    | nil => exact hnobody hahead
    | cons l rest =>
      have hturn : o.registered[turn]? = some l := by
        have hhead := congrArg (·[0]?) hahead
        simpa using hhead
      have hrest : o.registered.drop (turn + 1) = rest := by
        rw [← List.drop_drop, hahead]
        rfl
      have hlength : rest.length ≤ patience := Nat.le_of_succ_le_succ henough
      let o₁ := o.deliver population call event l
      have hemit : Observers.emitFrom population call event (patience + 1) turn o =
          Observers.emitFrom population call event patience (turn + 1) o₁ := by
        rw [Observers.emitFrom, hturn]
      have hdelivered : o₁.deliveries = o.deliveries ++ [⟨call, l, event⟩] := Observers.deliveries_deliver ..
      rw [hemit]
      by_cases hstays : (population.react o.deliveries l event).changes = []
      · have hahead' : o₁.registered.drop (turn + 1) = rest := by
          rw [h.registered_deliver, if_pos hstays, hrest]
        obtain ⟨o', called, hwalk, hdeliveries, hwalks⟩ := ih hahead' hlength (position + 1)
        rw [hdelivered] at hdeliveries hwalks
        refine ⟨o', (l, position) :: called, hwalk, ?_, hwalks.stay hstays⟩
        rw [hdeliveries, List.append_assoc]
        rfl
      · -- the registry is shorter by one, and the walk goes on one position further
        have hahead' : o₁.registered.drop (turn + 1) = rest.tail := by
          rw [h.registered_deliver, if_neg hstays, drop_erase hturn, ← hrest, List.tail_drop]
        obtain ⟨o', called, hwalk, hdeliveries, hwalks⟩ :=
          ih hahead' (by rw [List.length_tail]; omega) (position + 2)
        rw [hdelivered] at hdeliveries hwalks
        refine ⟨o', (l, position) :: called, hwalk, ?_, hwalks.leave hstays⟩
        rw [hdeliveries, List.append_assoc]
        rfl

end Population.OnlyWithdraws

/-- **Listeners that withdraw have the next passed over.** However often listeners are registered, and
whichever of them deregister themselves as they are called, an event ends; it calls registrations that were
there when it began, each at most once and in order. It misses a registration exactly if the one right
before it left as it was called. -/
theorem withdrawals_pass_over_the_next {population : Population} (h : population.OnlyWithdraws) (call : Nat)
    (event : Event) {o : Observers} (hpatience : o.registered.length ≤ population.patience) :
    ∃ o' called, Audience.live.emit population call event o = some o' ∧
      o'.deliveries = o.deliveries ++ event.toRegistrations call called ∧
      called.Sublist o.registered.zipIdx ∧
      ∀ r ∈ o.registered.zipIdx, r ∉ called ↔
        ∃ s ∈ called, r.2 = s.2 + 1 ∧ population.LeavesAt call event o.deliveries called s := by
  obtain ⟨o', called, hemit, hdeliveries, hwalks⟩ := h.exists_emitFrom call event List.drop_zero hpatience 0
  exact ⟨o', called, hemit, hdeliveries, hwalks.inOrder, hwalks.missed⟩

/-- A listener that deregisters itself whenever it is called, among others that only listen. -/
def Population.leaving : Population :=
  ⟨fun _ l _ => if l = "once" then ⟨[.deregister "once"], false⟩ else .quiet, 3⟩

def Event.begins : Event := ⟨.start, 0, some ⟨"http://member0:2379"⟩⟩

/-- Registered twice, such a listener has its own second registration passed over. -/
theorem withdrawals_pass_over_the_next_twice :
    Population.leaving.OnlyWithdraws ∧
      ∃ o' called, Audience.live.emit .leaving 0 .begins ⟨["once", "once", "log"], [], 0⟩ = some o' ∧
        o'.deliveries = Event.begins.toRegistrations 0 called ∧
        o'.deliveries.map Delivery.listener = ["once", "log"] ∧
        called.Sublist [("once", 0), ("once", 1), ("log", 2)] ∧
        (((Text.ofString "once", 1) : Registration) ∉ called ↔
          ∃ s ∈ called, 1 = s.2 + 1 ∧ Population.leaving.LeavesAt 0 .begins [] called s) := by
  have honly : Population.leaving.OnlyWithdraws := by
    intro told l event
    by_cases hl : l = "once"
    · exact .inr (by simp [Population.leaving, hl])
    · exact .inl (by simp [Population.leaving, hl, Reaction.quiet])
  have hcalled : (Audience.live.emit .leaving 0 .begins ⟨["once", "once", "log"], [], 0⟩).map
      (fun o => o.deliveries.map Delivery.listener) =
        some [Text.ofString "once", Text.ofString "log"] := by decide
  obtain ⟨o', called, hemit, hdeliveries, hinOrder, hmissed⟩ :=
    withdrawals_pass_over_the_next honly 0 .begins (o := ⟨["once", "once", "log"], [], 0⟩) (by decide)
  rw [hemit] at hcalled
  exact ⟨honly, o', called, hemit, hdeliveries, Option.some.inj hcalled, hinOrder, hmissed _ (by simp)⟩

/-- Who is registered all the time may still not be called. -/
theorem standing_registration_is_passed_over :
    (Audience.live.emit .leaving 0 .begins ⟨["once", "log"], [], 0⟩).map
        (fun o => (o.deliveries.map Delivery.listener, o.registered)) =
      some ([Text.ofString "once"], [Text.ofString "log"]) := by
  decide

end ClusterClient
