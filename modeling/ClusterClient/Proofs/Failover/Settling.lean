import ClusterClient.Failover.Observers

/-!
# Events that come to an end

Telling an event to a live registry walks along the registry while listeners change it, so a listener
that registers another one for every event keeps the walk going for ever. Whatever is said about a whole
run therefore needs an audience among whom every event ends.

## The architecture

* **`Audience.Settles`**: every sequence of events of a call ends, from these observers on.
* **`settles_of_preserved`**: the way to show it. A property of observers under which one event ends, and
  which that event keeps, is enough.
* **`settles_fixed`**, **`settles_of_registersNobody`**: a fixed audience always settles, and so does a
  live registry of listeners that may leave and fail but register nobody.
-/

namespace ClusterClient

namespace Audience

/-- Every sequence of events that a call tells the audience comes to an end. -/
def Settles (audience : Audience) (population : Population) (call : Nat) (o : Observers) : Prop :=
  ∀ events : List Event, ∃ o',
    events.foldlM (fun o event => audience.emit population call event o) o = some o'

/-- One event ends, and leaves observers from which every further sequence ends. -/
theorem Settles.emit {audience : Audience} {population : Population} {call : Nat} {o : Observers}
    (h : audience.Settles population call o) (event : Event) :
    ∃ o', audience.emit population call event o = some o' ∧ audience.Settles population call o' := by
  obtain ⟨_, hone⟩ := h [event]
  cases hemit : audience.emit population call event o with
  | none => simp [hemit] at hone
  | some o' =>
    refine ⟨o', rfl, fun events => ?_⟩
    obtain ⟨o'', hmore⟩ := h (event :: events)
    rw [List.foldlM_cons, hemit] at hmore
    exact ⟨o'', hmore⟩

/-- **The way to show that an audience settles:** a property of the registry that holds now, lets any event come
to its end, and still holds after it. -/
theorem settles_of_preserved {audience : Audience} {population : Population} {call : Nat}
    (keeps : Observers → Prop)
    (hemit : ∀ event o, keeps o → ∃ o', audience.emit population call event o = some o' ∧ keeps o')
    {o : Observers} (ho : keeps o) : audience.Settles population call o := by
  intro events
  -- induction on the events: the property holds before each of them
  induction events generalizing o with
  | nil => exact ⟨o, rfl⟩
  | cons event rest ih =>
    obtain ⟨o', hsome, ho'⟩ := hemit event o ho
    obtain ⟨o'', hrest⟩ := ih ho'
    refine ⟨o'', ?_⟩
    rw [List.foldlM_cons, hsome]
    exact hrest

/-- A fixed audience is walked along once, whatever the listeners do to the registry. -/
theorem settles_fixed (listeners : List Listener) (population : Population) (call : Nat)
    (o : Observers) : (fixed listeners).Settles population call o :=
  settles_of_preserved (fun _ => True) (fun _ _ _ => ⟨_, rfl, trivial⟩) trivial

end Audience

/-! ## Listeners that register nobody

Each listener that is called makes the walk one shorter, and none of them makes the registry longer. So
the walk over a registry ends after as many calls as there were registrations. -/

/-- No listener ever registers one while it handles an event. -/
def Population.RegistersNobody (population : Population) : Prop :=
  ∀ told listener event, ∀ change ∈ (population.react told listener event).changes,
    ∃ other, change = .deregister other

namespace Observers

theorem length_registered_change_le (o : Observers) (listener : Listener) :
    (o.change (.deregister listener)).registered.length ≤ o.registered.length :=
  List.length_erase_le

/-- What a listener does while it handles an event leaves no more registrations than there were, since all that
it does to the registry is to take some away. By induction on its changes. -/
theorem length_registered_deliver_le {population : Population} (h : population.RegistersNobody)
    (call : Nat) (event : Event) (o : Observers) (listener : Listener) :
    (o.deliver population call event listener).registered.length ≤ o.registered.length := by
  have hfold (changes : List Change) (hall : ∀ change ∈ changes, ∃ other, change = .deregister other)
      (o : Observers) : (changes.foldl change o).registered.length ≤ o.registered.length := by
    induction changes generalizing o with
    | nil => exact Nat.le_refl _
    | cons c rest ih =>
      obtain ⟨other, rfl⟩ := hall c (by simp)
      calc ((o.change (.deregister other) |> rest.foldl change).registered.length)
          ≤ (o.change (.deregister other)).registered.length :=
            ih (fun change hmem => hall change (by simp [hmem])) _
        _ ≤ o.registered.length := length_registered_change_le o other
  exact hfold _ (h _ _ _) { o with deliveries := o.deliveries ++ [⟨call, listener, event⟩] }

/-- The walk ends if there is patience for every registration that is still to be called. Each call is one step
along the registry, which gets no longer, as nobody registers. -/
theorem emitFrom_isSome {population : Population} (h : population.RegistersNobody) (call : Nat)
    (event : Event) (patience turn : Nat) (o : Observers)
    (henough : o.registered.length ≤ turn + patience) :
    ∃ o', emitFrom population call event patience turn o = some o' ∧
      o'.registered.length ≤ o.registered.length := by
  -- induction on the patience, which each call uses up by one
  induction patience generalizing turn o with
  | zero =>
    have hnone : o.registered[turn]? = none := List.getElem?_eq_none (by omega)
    exact ⟨o, by rw [emitFrom, hnone], Nat.le_refl _⟩
  | succ patience ih =>
    cases hturn : o.registered[turn]? with
    | none => exact ⟨o, by rw [emitFrom, hturn], Nat.le_refl _⟩
    | some listener =>
      have hfewer := length_registered_deliver_le h call event o listener
      obtain ⟨o', hwalk, hle⟩ := ih (turn + 1) (o.deliver population call event listener) (by omega)
      refine ⟨o', ?_, by omega⟩
      rw [emitFrom, hturn]
      exact hwalk

end Observers

/-- A live registry settles if its listeners register nobody. -/
theorem Audience.settles_of_registersNobody {population : Population} (h : population.RegistersNobody)
    (call : Nat) {o : Observers} (ho : o.registered.length ≤ population.patience) :
    live.Settles population call o := by
  refine settles_of_preserved (fun o => o.registered.length ≤ population.patience) ?_ ho
  intro event o ho
  obtain ⟨o', hwalk, hle⟩ :=
    Observers.emitFrom_isSome h call event population.patience 0 o (by omega)
  exact ⟨o', hwalk, by omega⟩

end ClusterClient
