/-!
# Computations that may fail

Much of what is read or written goes through several steps, and the first step that fails decides. These are the facts
that take such a computation apart: what its success says about every step, and which step a failure comes from.

* **`Except.of_bind`**, **`Except.of_guard`**: two steps in a row, and a check in front of a step.
* **`Except.mapM_eq_ok_iff`**, **`Except.exists_of_mapM_eq_error`**: the same step for each item of a list.
-/

namespace ClusterClient

namespace Except

variable {ε α β : Type}

/-! ## Steps in a row -/

/-- A computation of two steps succeeds if both do. -/
theorem of_bind {x : Except ε α} {k : α → Except ε β} {b : β} (h : x >>= k = .ok b) :
    ∃ a, x = .ok a ∧ k a = .ok b := by
  cases x with
  | error e => cases h
  | ok a => exact ⟨a, rfl, h⟩

/-- Behind a check that passed, its condition does not hold. -/
theorem of_guard {p : Prop} [Decidable p] {e : ε} {k : PUnit → Except ε α} {a : α}
    (h : (if p then (do let r ← throw e; k r) else k ⟨⟩) = .ok a) : ¬p ∧ k ⟨⟩ = .ok a := by
  split at h
  · cases h
  · next hp => exact ⟨hp, h⟩

/-- A check that fails is at fault, or what follows it is. -/
theorem of_guard_error {p : Prop} [Decidable p] {e e' : ε} {k : PUnit → Except ε α}
    (h : (if p then (do let r ← throw e; k r) else k ⟨⟩) = .error e') : (p ∧ e' = e) ∨ (¬p ∧ k ⟨⟩ = .error e') := by
  split at h
  · next hp => exact .inl ⟨hp, (Except.error.inj h).symm⟩
  · next hp => exact .inr ⟨hp, h⟩

/-! ## Item by item -/

variable {f : α → Except ε β}

/-- **A list succeeds item by item**: each item gives what stands in its place. Both directions are by induction
on the list, and all that is said of what such a list gives comes of this. -/
theorem mapM_eq_ok_iff {xs : List α} {ys : List β} : xs.mapM f = .ok ys ↔ xs.map f = ys.map .ok := by
  induction xs generalizing ys with
  | nil =>
    rw [List.map_nil, eq_comm, eq_comm (a := []), List.map_eq_nil_iff]
    exact ⟨Except.ok.inj, congrArg Except.ok⟩
  | cons x xs ih =>
    rw [List.mapM_cons, List.map_cons]
    constructor
    · intro h
      obtain ⟨y, hy, h⟩ := of_bind h
      obtain ⟨rest, hrest, h⟩ := of_bind h
      obtain rfl := Except.ok.inj h
      rw [List.map_cons, hy, ih.1 hrest]
    · intro h
      obtain ⟨y, rest, rfl, hy, hrest⟩ := List.map_eq_cons_iff.1 h.symm
      rw [← hy, show xs.mapM f = .ok rest from ih.2 hrest.symm]
      rfl

/-- What stands in the result comes from an item. -/
theorem exists_of_mem_of_mapM {xs : List α} {ys : List β} (h : xs.mapM f = .ok ys) {y : β} (hy : y ∈ ys) :
    ∃ x ∈ xs, f x = .ok y := by
  have hmem : Except.ok y ∈ xs.map f := by
    rw [mapM_eq_ok_iff.1 h]
    exact List.mem_map_of_mem hy
  exact List.mem_map.1 hmem

/-- What takes each result back to its item takes the list of results back to the list. The two lists are
compared position by position: a result there comes from the item there, since the check went through for all of
them. -/
theorem map_of_mapM {xs : List α} {ys : List β} (h : xs.mapM f = .ok ys) {g : β → α}
    (hback : ∀ x y, f x = .ok y → g y = x) : ys.map g = xs := by
  have hitems := mapM_eq_ok_iff.1 h
  have hlength : ys.length = xs.length := by simpa using (congrArg List.length hitems).symm
  refine List.ext_getElem (by rw [List.length_map, hlength]) fun i hi hi' => ?_
  have hitem : (xs.map f)[i]? = (ys.map (Except.ok (ε := ε)))[i]? := by rw [hitems]
  rw [List.length_map] at hi
  rw [List.getElem?_map, List.getElem?_map, List.getElem?_eq_getElem hi, List.getElem?_eq_getElem hi'] at hitem
  rw [List.getElem_map]
  exact hback _ _ (Option.some.inj hitem)

/-- **A list that fails has a first item that does**, and fails as that item does. What stands behind this item
is not looked at, so that nothing is said of it. -/
theorem exists_of_mapM_eq_error {xs : List α} {e : ε} (h : xs.mapM f = .error e) :
    ∃ front x back, xs = front ++ x :: back ∧ (∀ y ∈ front, ∃ b, f y = .ok b) ∧ f x = .error e := by
  induction xs with
  | nil => cases h
  | cons x xs ih =>
    rw [List.mapM_cons] at h
    cases hx : f x with
    | error e' =>
      rw [hx] at h
      obtain rfl := Except.error.inj h
      -- the first item is at fault itself
      exact ⟨[], x, xs, rfl, fun y hy => absurd hy List.not_mem_nil, hx⟩
    | ok b =>
      rw [hx] at h
      cases hxs : xs.mapM f with
      | ok rest =>
        rw [hxs] at h
        cases h
      | error e' =>
        rw [hxs] at h
        obtain rfl := Except.error.inj h
        -- the fault lies further on, and the first item is one of those in front of it
        obtain ⟨front, y, back, rfl, hfront, hy⟩ := ih hxs
        exact ⟨x :: front, y, back, rfl, List.forall_mem_cons.2 ⟨⟨b, hx⟩, hfront⟩, hy⟩

end Except

end ClusterClient
