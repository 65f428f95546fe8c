import ClusterClient.Client.Api
import ClusterClient.Proofs.Client.Uses

/-!
# Calls of a closed client

A call of a closed client is refused, by whichever of the four routes it comes: before members are tried, when
the first response of a call to all members is taken, or in a watch that its deadline surrounds. Only a watch
that has no time at all is over before its client is asked, and so is one whose time is more than a clock can be set to.

* **`watch_of_closed`** and its kin: each route, on a client that is closed.
* **`refuses_when_closed`**: every call of the library, whatever has happened to the client since it was
  closed.
-/

namespace ClusterClient

/-- A watch has no time at all. -/
def Watch.IsOverdue (w : Watch) : Prop := ∃ limit, w.limit = some limit ∧ limit.isNonPositive = true

/-- A watch has more time than a clock can be set to. -/
def Watch.IsBeyond (w : Watch) : Prop := ∃ n, w.limit = some (.whole n) ∧ Whole.firstTooLarge ≤ n

/-- A watch that its client is asked for. -/
def Watch.IsInTime (w : Watch) : Prop := ¬ w.IsOverdue ∧ ¬ w.IsBeyond

/-- A call to all members is made when its first response is taken, any other call at once. -/
def Route.IsTaken : Route → Prop
  | .atOnce _ limit => limit ≠ some 0
  | _ => True

namespace Client

variable {c c' : Client}

/-- Nothing is asked of anybody and nobody is told anything; at most, there is progress that no call uses. -/
structure Unmoved (c c' : Client) : Prop where
  transport : c'.transport = c.transport
  observers : c'.failover.observers = c.failover.observers
  runs : c'.failover.runs = c.failover.runs

theorem Unmoved.refl (c : Client) : c.Unmoved c := ⟨rfl, rfl, rfl⟩

theorem unmoved_addProgress (endpoints : List Endpoint) (c : Client) : c.Unmoved (c.addProgress endpoints) :=
  ⟨rfl, rfl, rfl⟩

/-! ## Each route -/

/-- A call with progress that is there already is refused like any other. -/
theorem performWith_of_closed (hclosed : c.transport.closed = true) (spec : RequestSpec) (slot : Nat)
    (timetable : Timetable) :
    c.performWith spec slot timetable = (c, some (.raised .clientClosed)) := by
  rw [performWith, executeWith, if_pos hclosed]
  rfl

/-- A call to all members is refused as soon as anything is wanted of it. -/
theorem gather_of_closed (hclosed : c.transport.closed = true) (spec : RequestSpec) {limit : Option Nat}
    (htaken : limit ≠ some 0) (timetable : Timetable) :
    c.gather spec limit timetable = (c, ⟨[], some (.raised .clientClosed)⟩) := by
  rw [gather, if_neg htaken, fanOut, if_pos hclosed]

/-- A watch that has time, or needs none, comes to the refusal. With a deadline ahead it makes its progress
first and is refused then; nothing else of it is left in the client. -/
theorem watch_of_closed (hclosed : c.transport.closed = true) {w : Watch} (hintime : w.IsInTime)
    (timetable : Timetable) :
    c.Unmoved (c.watch w timetable).1 ∧ (c.watch w timetable).2 = some (.raised .clientClosed) := by
  have hplain : c.Unmoved (c.perform w.request timetable).1 ∧
      (c.perform w.request timetable).2 = some (.raised .clientClosed) := by
    rw [perform_of_closed hclosed]
    exact ⟨.refl c, rfl⟩
  unfold watch
  cases hlimit : w.limit with
  | none => exact hplain
  | some limit =>
    have hpositive : limit.isNonPositive = false :=
      Bool.eq_false_iff.2 fun hoverdue => hintime.1 ⟨limit, hlimit, hoverdue⟩
    -- the deadline lies ahead, or there is none
    rcases Deadline.ofSeconds_of_positive hpositive with hnever | ⟨nanoseconds, hafter⟩ | ⟨n, rfl, hlarge, -⟩
    · simp only [hnever]
      exact hplain
    · simp only [hafter]
      rw [performWithin_of_closed hclosed]
      exact ⟨unmoved_addProgress c.endpoints c, rfl⟩
    · exact absurd ⟨n, hlimit, hlarge⟩ hintime.2

/-- A watch that has no time never gets to the client, be it closed or open. -/
theorem watch_of_overdue {w : Watch} {limit : Scalar} (hlimit : w.limit = some limit)
    (hoverdue : limit.isNonPositive = true) (timetable : Timetable) :
    c.watch w timetable = (c, some (.raised (.ofDeadline c.room limit []))) := by
  have hpassed : Deadline.ofSeconds limit = .passed := by
    unfold Deadline.ofSeconds
    rw [if_pos hoverdue]
  rw [watch, hlimit]
  simp only [hpassed]

/-- Nor does one that has more time than a clock can be set to. -/
theorem watch_of_beyond {w : Watch} {n : Int} (hlimit : w.limit = some (.whole n))
    (hlarge : Whole.firstTooLarge ≤ n) (timetable : Timetable) :
    c.watch w timetable = (c, some (.raised (.external .tooLarge))) := by
  have hpositive : (Scalar.whole n).isNonPositive = false := by
    have hzero : 0 < Whole.firstTooLarge := by decide +kernel
    simp only [Scalar.isNonPositive, decide_eq_false_iff_not]
    omega
  have hbeyond : Deadline.ofSeconds (.whole n) = .beyond := by
    unfold Deadline.ofSeconds
    rw [if_neg (Bool.eq_false_iff.1 hpositive)]
    exact if_neg (Int.not_lt.2 hlarge)
  rw [watch, hlimit]
  simp only [hbeyond]

/-- A route that no watch takes unless its client is asked for it. All four routes ask whether the client is
open before they do anything, and a call to all members does so when its first item is asked for. -/
theorem takeRoute_of_closed (hclosed : c.transport.closed = true) {route : Route} (htaken : route.IsTaken)
    (hintime : ∀ w, route = .watching w → w.IsInTime) (timetable : Timetable) :
    c.Unmoved (c.takeRoute route timetable).1 ∧
      (c.takeRoute route timetable).2 = ⟨[], some (.raised .clientClosed)⟩ := by
  unfold takeRoute
  cases route with
  | inTurn spec =>
    simp only [perform_of_closed hclosed]
    exact ⟨.refl c, rfl⟩
  | inTurnWith spec slot =>
    simp only [performWith_of_closed hclosed]
    exact ⟨.refl c, rfl⟩
  | watching w =>
    -- a watch whose time has come, or never can, would not get as far as the client
    obtain ⟨hunmoved, hrefused⟩ := watch_of_closed hclosed (hintime w rfl) timetable
    refine ⟨hunmoved, ?_⟩
    show Given.ofResult (c.watch w timetable).2 = _
    rw [hrefused]
    rfl
  | atOnce spec limit =>
    have hlimit : limit ≠ some 0 := htaken
    simp only [gather_of_closed hclosed spec hlimit]
    exact ⟨.refl c, rfl⟩

/-! ## Every call -/

end Client

/-- A call that watches is a watch. -/
theorem ApiCall.eq_watch {call : ApiCall} {w : Watch} (h : call.route = .ok (.watching w)) :
    call = .watch w := by
  cases call with
  | watch w' => cases h; rfl
  | key call =>
    rw [route] at h
    cases hspec : call.spec with
    | error f => rw [hspec] at h; cases h
    | ok spec => rw [hspec] at h; cases h
  | _ => cases h

namespace Client

/-- A client stays closed, whatever happens afterwards. -/
theorem closed_after_closing (c : Client) (later : List Action) :
    ((c.step .close).steps later).transport.closed = true :=
  ((used_steps (c.step .close) later).of_closed (closed_close c)).1

/-- **A closed client refuses every call** whose arguments are valid, whatever has happened since it was
closed: no request is handed over, nobody is told of an event, and the call fails because the client is
closed. There are two exceptions, and in both nothing at all has been done. A watch that has no time fails at its
deadline, with no errors; and a watch that has more time than a clock can be set to fails with that. -/
theorem refuses_when_closed (c : Client) (later : List Action) {call : ApiCall} {route : Route}
    (hvalid : call.route = .ok route) (htaken : route.IsTaken) (timetable : Timetable) :
    let closed := (c.step .close).steps later
    let served := closed.serve call timetable
    served.1.transport.requests = closed.transport.requests ∧
    served.1.failover.observers = closed.failover.observers ∧ served.2.responses = [] ∧
    ((∀ w, call = .watch w → w.IsInTime) → served.2.ending = some (.raised .clientClosed)) ∧
    (∀ w limit, call = .watch w → w.limit = some limit → limit.isNonPositive = true →
      served.1 = closed ∧ served.2.ending = some (.raised (.ofDeadline closed.room limit []))) ∧
    ∀ w n, call = .watch w → w.limit = some (.whole n) → Whole.firstTooLarge ≤ n →
      served.1 = closed ∧ served.2.ending = some (.raised (.external .tooLarge)) := by
  intro closed served
  have hclosed : closed.transport.closed = true := closed_after_closing c later
  have hserved : served = closed.takeRoute route timetable := by
    show closed.serve call timetable = _
    rw [serve, hvalid]
  -- what a watch comes to when its client is not asked
  have hwatched {w : Watch} {f : Failure} (hcall : call = .watch w)
      (hfails : closed.watch w timetable = (closed, some (.raised f))) :
      served = (closed, ⟨[], some (.raised f)⟩) := by
    rw [hcall] at hvalid
    obtain rfl : Route.watching w = route := Except.ok.inj hvalid
    rw [hserved, takeRoute, hfails]
    rfl
  have hoverdue {w : Watch} {limit : Scalar} (hcall : call = .watch w) (hlimit : w.limit = some limit)
      (hnone : limit.isNonPositive = true) := hwatched hcall (watch_of_overdue hlimit hnone timetable)
  have hbeyond {w : Watch} {n : Int} (hcall : call = .watch w) (hlimit : w.limit = some (.whole n))
      (hlarge : Whole.firstTooLarge ≤ n) := hwatched hcall (watch_of_beyond hlimit hlarge timetable)
  by_cases hunasked : ∃ w, call = .watch w ∧ (w.IsOverdue ∨ w.IsBeyond)
  · -- a watch whose client is not asked does nothing at all, for the one reason or the other
    have hnothing : served.1 = closed ∧ served.2.responses = [] := by
      obtain ⟨w, hcall, ⟨limit, hlimit, hnone⟩ | ⟨n, hlimit, hlarge⟩⟩ := hunasked
      · rw [hoverdue hcall hlimit hnone]
        exact ⟨rfl, rfl⟩
      · rw [hbeyond hcall hlimit hlarge]
        exact ⟨rfl, rfl⟩
    refine ⟨by rw [hnothing.1], by rw [hnothing.1], hnothing.2, fun hintime => ?_, ?_, ?_⟩
    · obtain ⟨w, hcall, hlate | hfar⟩ := hunasked
      · exact absurd hlate (hintime w hcall).1
      · exact absurd hfar (hintime w hcall).2
    · intro w limit hcall hlimit hnone
      rw [hoverdue hcall hlimit hnone]
      exact ⟨rfl, rfl⟩
    · intro w n hcall hlimit hlarge
      rw [hbeyond hcall hlimit hlarge]
      exact ⟨rfl, rfl⟩
  · have hintime (w : Watch) (hcall : call = .watch w) : w.IsInTime :=
      ⟨fun hlate => hunasked ⟨w, hcall, .inl hlate⟩, fun hfar => hunasked ⟨w, hcall, .inr hfar⟩⟩
    have hroute (w : Watch) (h : route = .watching w) : w.IsInTime := by
      rw [h] at hvalid
      exact hintime w (ApiCall.eq_watch hvalid)
    obtain ⟨hunmoved, hrefused⟩ := takeRoute_of_closed hclosed htaken hroute timetable
    rw [← hserved] at hunmoved hrefused
    refine ⟨congrArg Transport.requests hunmoved.transport, hunmoved.observers, by rw [hrefused],
      fun _ => by rw [hrefused], ?_, ?_⟩
    · intro w limit hcall hlimit hnone
      exact absurd ⟨limit, hlimit, hnone⟩ (hintime w hcall).1
    · intro w n hcall hlimit hlarge
      exact absurd ⟨n, hlimit, hlarge⟩ (hintime w hcall).2

/-- A watch of one second on a client that has been closed: its time has not come, so that it is the client that
refuses it. -/
theorem refuses_when_closed_watch :
    let w : Watch := ⟨"k", some 7, true, some (.whole 1)⟩
    let closed := ofTwo.step .close
    (ApiCall.watch w).route = .ok (.watching w) ∧ (Route.watching w).IsTaken ∧ w.IsInTime ∧
      (closed.serve (.watch w) fun _ => .never).1.transport.requests = [] ∧
      (closed.serve (.watch w) fun _ => .never).2.ending = some (.raised .clientClosed) := by
  intro w closed
  -- a second is positive, and few enough nanoseconds for a clock
  have hintime : w.IsInTime := by
    constructor
    · rintro ⟨limit, hlimit, hnone⟩
      cases hlimit
      cases hnone
    · have hsmall : 1 < Whole.firstTooLarge := by decide +kernel
      rintro ⟨n, hlimit, hlarge⟩
      cases hlimit
      exact absurd hsmall (Int.not_lt.2 hlarge)
  have hvalid : (ApiCall.watch w).route = .ok (.watching w) := rfl
  have htaken : (Route.watching w).IsTaken := trivial
  have hnothing : closed.transport.requests = [] := rfl
  have hsteps : (ofTwo.step .close).steps [] = closed := rfl
  obtain ⟨hrequests, -, -, hrefused, -, -⟩ := refuses_when_closed ofTwo [] hvalid htaken fun _ => .never
  rw [hsteps, hnothing] at hrequests
  rw [hsteps] at hrefused
  refine ⟨hvalid, htaken, hintime, hrequests, hrefused ?_⟩
  rintro w' hsame
  cases hsame
  exact hintime

/-- A watch without time is not told that its client is closed. -/
theorem overdue_watch_not_refused :
    ¬ ∀ (c : Client) (call : ApiCall) (route : Route) (timetable : Timetable), c.Reachable →
        call.route = .ok route → route.IsTaken →
        ((c.step .close).serve call timetable).2.ending = some (.raised .clientClosed) := by
  intro hallRefused
  let w : Watch := ⟨"k", none, false, some (.whole 0)⟩
  have hrefused := hallRefused ofTwo (.watch w) (.watching w) (fun _ => .never) reachable_ofTwo rfl trivial
  have hlate : (ofTwo.step .close).watch w (fun _ => .never) = _ := watch_of_overdue rfl rfl _
  have hshown : (Value.scalar (.whole 0)).whyUnshown? (ofTwo.step .close).room.shown = none := by decide +kernel
  rw [Failure.ofDeadline_of_shown hshown] at hlate
  rw [serve] at hrefused
  simp only [ApiCall.route, takeRoute, hlate] at hrefused
  cases hrefused

end Client

end ClusterClient
