import Mathlib.Data.Fintype.Card
import Mathlib.Data.Fintype.Sets
import Mathlib.Logic.Hydra
import Mathlib.Tactic.Abel
import ClusterClient.Proofs.Failover.Settling

/-!
# Listeners that register others

An event walks along a live registry that its listeners shrink and grow under it. The number of registrations
says nothing about the end of the walk. But if no kind of event leads, from listener to registered listener,
back to where it came from, then each call takes one listener out of those still ahead and puts in only
listeners that come later.

## The architecture

* **`Population.IsTiered`**: the listeners are finitely many, and no kind of event leads back.
* **`IsTiered.wellFounded`**: so one listener after the other comes to an end, and with it the multisets of
  them (`WellFounded.cutExpand`).
* **`drop_deliver_sublist`**: what a call does to the registrations still ahead.
* **`IsTiered.exists_emitFrom`**, **`IsTiered.exists_emit`**: an event ends, after finitely many calls.
-/

namespace ClusterClient

namespace Population

/-- On an event of a kind, whatever has been told before, a listener may register another one. -/
def Registers (population : Population) (kind : Text) (l other : Listener) : Prop :=
  ∃ told event, event.kind.name = kind ∧ .register other ∈ (population.react told l event).changes

/-- A member may register the other listener on an event of a kind. -/
def ComesAfter (population : Population) (members : List Listener) (kind : Text)
    (other l : Listener) : Prop :=
  l ∈ members ∧ population.Registers kind l other

/-- These are all listeners that come in, and for no kind of event do the registrations made on it lead from
one of them back to itself. -/
structure IsTiered (population : Population) (members : List Listener) : Prop where
  closed : ∀ kind, ∀ l ∈ members, ∀ other, population.Registers kind l other → other ∈ members
  acyclic : ∀ kind, ∀ l ∈ members, ¬ Relation.TransGen (population.Registers kind) l l

variable {population : Population} {members : List Listener}

/-- **One listener after the other comes to an end**: there are finitely many, and none comes twice. On the
members alone the relation is transitive and irreflexive, and a finite type has no infinite descent in such a
relation; who is no member registers none. -/
theorem IsTiered.wellFounded (h : population.IsTiered members) (kind : Text) :
    WellFounded (population.ComesAfter members kind) := by
  -- among the members alone, and over any number of registrations
  let later (other l : {l // l ∈ members}) : Prop :=
    Relation.TransGen (fun a b => population.Registers kind b a) other.1 l.1
  have htrans : IsTrans _ later := ⟨fun _ _ _ hab hbc => Relation.TransGen.trans hab hbc⟩
  have hirrefl : Std.Irrefl later :=
    ⟨fun l hl => h.acyclic kind l.1 l.2 (Relation.transGen_swap.1 hl)⟩
  have hmembers : WellFounded later := Finite.wellFounded_of_trans_of_irrefl later
  refine ⟨fun l => ?_⟩
  by_cases hl : l ∈ members
  · -- all that comes after a member is a member again
    have hacc (l : {l // l ∈ members}) : Acc (population.ComesAfter members kind) l.1 := by
      induction l using hmembers.induction with
      | _ l ih =>
        refine ⟨l.1, fun other hother => ?_⟩
        have hin : other ∈ members := h.closed kind l.1 l.2 other hother.2
        exact ih ⟨other, hin⟩ (Relation.TransGen.single hother.2)
    exact hacc ⟨l, hl⟩
  · exact ⟨l, fun other hother => absurd hother.1 hl⟩

end Population

/-- The listeners that some changes register. -/
def newcomers (changes : List Change) : List Listener :=
  changes.filterMap fun
    | .register l => some l
    | .deregister _ => none

/-- Whoever is new has been registered by one of the changes. -/
theorem mem_newcomers {changes : List Change} {l : Listener} (h : l ∈ newcomers changes) :
    .register l ∈ changes := by
  obtain ⟨change, hmem, hl⟩ := List.mem_filterMap.1 h
  cases change with
  | register other => cases hl; exact hmem
  | deregister other => cases hl

namespace Observers

/-- From any position on, changes take registrations away and put newcomers behind them. Where one is taken away in
front of the position, those behind it move up, and one of them gets in front of it; none ever gets behind it again. -/
theorem drop_change_sublist (turn : Nat) (changes : List Change) (o : Observers) :
    ((changes.foldl change o).registered.drop turn).Sublist
      (o.registered.drop turn ++ newcomers changes) := by
  induction changes generalizing o with
  | nil => simp [newcomers]
  | cons c rest ih =>
    have hrest := ih (o.change c)
    cases c with
    | register l =>
      have hfirst : ((o.registered ++ [l]).drop turn).Sublist (o.registered.drop turn ++ [l]) := by
        rw [List.drop_append]
        exact List.Sublist.append_left (List.drop_sublist _ _) _
      have hall := hfirst.append_right (newcomers rest)
      rw [List.append_assoc] at hall
      exact hrest.trans hall
    | deregister l =>
      -- whether the registration taken away lies before the position or behind it
      have hfirst : ((o.registered.erase l).drop turn).Sublist (o.registered.drop turn) :=
        List.erase_sublist.drop turn
      exact hrest.trans (hfirst.append_right (newcomers rest))

/-- Changes of the registry are no deliveries. -/
theorem deliveries_change (changes : List Change) (o : Observers) :
    (changes.foldl change o).deliveries = o.deliveries := by
  induction changes generalizing o with
  | nil => rfl
  | cons c rest ih =>
    rw [List.foldl_cons, ih]
    cases c <;> rfl

/-- What a call does to the registrations still ahead: whoever is called may take some away and put newcomers
behind them. -/
theorem drop_deliver_sublist (population : Population) (call : Nat) (event : Event) (turn : Nat)
    (o : Observers) (l : Listener) :
    ((o.deliver population call event l).registered.drop turn).Sublist
      (o.registered.drop turn ++ newcomers (population.react o.deliveries l event).changes) :=
  drop_change_sublist turn (population.react o.deliveries l event).changes
    { o with deliveries := o.deliveries ++ [⟨call, l, event⟩] }

@[simp] theorem deliveries_deliver (population : Population) (call : Nat) (event : Event) (o : Observers)
    (l : Listener) :
    (o.deliver population call event l).deliveries = o.deliveries ++ [⟨call, l, event⟩] :=
  deliveries_change _ { o with deliveries := o.deliveries ++ [⟨call, l, event⟩] }

/-- Nobody is registered but members. -/
def Within (members : List Listener) (o : Observers) : Prop := ∀ l ∈ o.registered, l ∈ members

/-- Members register members only. -/
theorem Within.deliver {population : Population} {members : List Listener}
    (h : population.IsTiered members) {o : Observers} (ho : o.Within members) (call : Nat) (event : Event)
    {l : Listener} (hl : l ∈ members) : (o.deliver population call event l).Within members := by
  intro other hother
  have hmem := (drop_deliver_sublist population call event 0 o l).mem hother
  rcases List.mem_append.1 hmem with hold | hnew
  · exact ho other hold
  · exact h.closed _ l hl other ⟨o.deliveries, event, rfl, mem_newcomers hnew⟩

end Observers

/-- Of some listeners that include one, and more: when newcomers after it take its place, the others and the
newcomers are still included. This is one step down in the order of multisets. -/
theorem exists_cutExpand {after : Listener → Listener → Prop} {l : Listener}
    {others ahead news : Multiset Listener} (hahead : l ::ₘ others ≤ ahead)
    (hnews : ∀ other ∈ news, after other l) :
    ∃ left, Relation.CutExpand after left ahead ∧ others + news ≤ left := by
  obtain ⟨more, rfl⟩ := Multiset.le_iff_exists_add.1 hahead
  refine ⟨others + news + more, ⟨news, l, hnews, ?_⟩, Multiset.le_add_right _ _⟩
  rw [← Multiset.singleton_add]
  abel

namespace Population

variable {population : Population} {members : List Listener}

open Observers (emitFrom)

/-- The same listeners, and this much patience for an event. -/
def patient (population : Population) (patience : Nat) : Population := { population with patience }

/-- **The walk of an event ends**, after finitely many calls and whatever more patience there is. How many calls
it takes depends on what listeners do, and is not bounded by the number of registrations. -/
theorem IsTiered.exists_emitFrom (h : population.IsTiered members) (call : Nat) (event : Event)
    (ahead : Multiset Listener) {turn : Nat} {o : Observers} (ho : o.Within members)
    (hahead : (o.registered.drop turn : Multiset Listener) ≤ ahead) :
    ∃ enough o', o'.Within members ∧ o'.deliveries.length ≤ o.deliveries.length + enough ∧
      ∀ limit patience, enough ≤ patience →
        emitFrom (population.patient limit) call event patience turn o = some o' := by
  -- induction on listeners that include those still ahead: the one that is called goes, and those that it
  -- registers come later
  induction ahead using (h.wellFounded event.kind.name).cutExpand.induction generalizing turn o with
  | _ ahead ih =>
    cases hturn : o.registered[turn]? with
    | none =>
      refine ⟨0, o, ho, Nat.le_refl _, fun limit patience _ => ?_⟩
      cases patience with
      | zero => rw [emitFrom, hturn]
      | succ patience => rw [emitFrom, hturn]
    | some l =>
      obtain ⟨hlt, hget⟩ := List.getElem?_eq_some_iff.1 hturn
      have hl : l ∈ members := ho l (List.mem_of_getElem? hturn)
      let told := o.deliver population call event l
      let news := newcomers (population.react o.deliveries l event).changes
      -- those ahead are the one that is called, and the others
      have hcalled : o.registered.drop turn = l :: o.registered.drop (turn + 1) := by
        rw [List.drop_eq_getElem_cons hlt, hget]
      rw [hcalled, ← Multiset.cons_coe] at hahead
      have hlater : ∀ other ∈ (news : Multiset Listener),
          population.ComesAfter members event.kind.name other l :=
        fun other hother => ⟨hl, o.deliveries, event, rfl, mem_newcomers hother⟩
      obtain ⟨left, hcut, hleft⟩ := exists_cutExpand hahead hlater
      have hstill : (told.registered.drop (turn + 1) : Multiset Listener) ≤ left := by
        have hsublist := Observers.drop_deliver_sublist population call event (turn + 1) o l
        have hle := Multiset.coe_le.2 hsublist.subperm
        rw [← Multiset.coe_add] at hle
        exact hle.trans hleft
      obtain ⟨enough, o', ho', hcalls, hemit⟩ := ih left hcut (ho.deliver h call event hl) hstill
      refine ⟨enough + 1, o', ho', ?_, fun limit patience hpatience => ?_⟩
      · have hone : told.deliveries.length = o.deliveries.length + 1 := by simp [told]
        show o'.deliveries.length ≤ o.deliveries.length + (enough + 1)
        rw [hone] at hcalls
        omega
      · obtain ⟨patience, rfl⟩ : ∃ left, patience = left + 1 := ⟨patience - 1, by omega⟩
        rw [emitFrom, hturn]
        exact hemit limit patience (by omega)

end Population

/-- The audience is made up of members. -/
def Audience.Within (members : List Listener) : Audience → Prop
  | live => True
  | fixed listeners => ∀ l ∈ listeners, l ∈ members

namespace Population.IsTiered

variable {population : Population} {members : List Listener}

/-- A fixed audience is called once each, so its calls are counted. -/
theorem within_foldl_deliver (h : population.IsTiered members) (call : Nat) (event : Event)
    {listeners : List Listener} (hlisteners : ∀ l ∈ listeners, l ∈ members) {o : Observers}
    (ho : o.Within members) :
    let o' := listeners.foldl (Observers.deliver population call event) o
    o'.Within members ∧ o'.deliveries.length = o.deliveries.length + listeners.length := by
  induction listeners generalizing o with
  | nil => exact ⟨ho, rfl⟩
  | cons l rest ih =>
    obtain ⟨hwithin, hcalls⟩ := ih (fun l hl => hlisteners l (List.mem_cons_of_mem _ hl))
      (ho.deliver h call event (hlisteners l List.mem_cons_self))
    refine ⟨hwithin, hcalls.trans ?_⟩
    rw [Observers.deliveries_deliver, List.length_append, List.length_singleton, List.length_cons]
    omega

/-- **An event ends**, whoever hears it, and the same way for all patience that is enough. -/
theorem exists_emit (h : population.IsTiered members) (call : Nat) (event : Event) {audience : Audience}
    (haudience : audience.Within members) {o : Observers} (ho : o.Within members) :
    ∃ enough o', o'.Within members ∧ o'.deliveries.length ≤ o.deliveries.length + enough ∧
      ∀ patience, enough ≤ patience →
        audience.emit (population.patient patience) call event o = some o' := by
  cases audience with
  | live =>
    obtain ⟨enough, o', ho', hcalls, hemit⟩ :=
      h.exists_emitFrom call event (o.registered.drop 0) ho (le_refl _)
    exact ⟨enough, o', ho', hcalls, fun patience hpatience => hemit patience patience hpatience⟩
  | fixed listeners =>
    obtain ⟨ho', hcalls⟩ := h.within_foldl_deliver call event haudience ho
    exact ⟨listeners.length, _, ho', hcalls.le, fun patience _ => rfl⟩

end Population.IsTiered

end ClusterClient
