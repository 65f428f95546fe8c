import ClusterClient.Proofs.Client.Asking
import ClusterClient.Proofs.Failover.Following

/-!
# What a call says by itself

A client makes many calls through one transport, and prints and counts the requests of all of them. What a
call asks a member for, and what it makes of the answer, depends on none of this: the settings decide it, and the room
that there is. So a call can be played by itself, from one answer to the next, without any client at all.

## The architecture

* **`Transport.Alike`**: transports with the same settings and the same room, whatever they have done so far.
* **`Transport.asks`**, **`Transport.answers`**: what an attempt asks for, and how its answer ends it. On every
  open transport it is the same (**`map_request_dispatch`**, **`snd_conclude`**).
* **`Conversation`**: a call by itself, that is where its run stands and the request that waits.
  **`Conversation.hear`** is what becomes of it when its caller or a member speaks.
-/

namespace ClusterClient

namespace Transport

variable {t t' : Transport}

/-! ## Transports of the same settings -/

/-- Two transports with the same settings and the same room. They may have made different requests and printed
different things, and one may be closed. -/
structure Alike (t t' : Transport) : Prop where
  settings : t'.settings = t.settings
  room : t'.room = t.room

/-- What is printed can be shown on both transports or on neither. -/
theorem snd_print (h : Alike t t') (trace : Console.Printed) : (t'.print trace).2 = (t.print trace).2 := by
  unfold print
  rw [h.settings]
  split
  · cases trace.stopped <;> rfl
  · rfl

/-- To take an answer comes to the same on both transports. The answer is judged alike wherever it is taken;
only printing could differ, and it depends on the settings and the room, which the two share. -/
theorem snd_receive (h : Alike t t') (r : Request) (a : Answer) : (t'.receive r a).2 = (t.receive r a).2 := by
  cases a with
  | reply reply =>
    -- printing is all that can fail here, and it fails on both transports or on neither
    have hprint := snd_print h (Console.Trace.response t.room consoleWidth r.url reply.status reply.headers reply.body)
    simp only [receive, h.room]
    generalize t.print _ = first at hprint ⊢
    generalize t'.print _ = second at hprint ⊢
    obtain ⟨_, printed⟩ := first
    obtain ⟨_, _⟩ := second
    cases hprint
    cases printed <;> rfl
  | fails f =>
    cases f with
    | external e =>
      have hprint := snd_print h (Console.Trace.error consoleWidth r.method r.url e.kind.name e.message)
      simp only [receive]
      split
      · generalize t.print _ = first at hprint ⊢
        generalize t'.print _ = second at hprint ⊢
        obtain ⟨_, printed⟩ := first
        obtain ⟨_, _⟩ := second
        cases hprint
        cases printed <;> rfl
      · rfl
    | mute kind why =>
      simp only [receive]
      split <;> rfl
    | _ => rfl
  | cancelled => rfl

/-- How an answer ends an attempt depends on the settings and the room only. -/
theorem snd_conclude (h : Alike t t') (spec : RequestSpec) (e : Endpoint) (r : Request) (a : Answer) :
    (t'.conclude spec e r a).2 = (t.conclude spec e r a).2 := by
  have hreceive := snd_receive h r a
  unfold conclude
  generalize t.receive r a = first at hreceive ⊢
  generalize t'.receive r a = second at hreceive ⊢
  obtain ⟨_, result⟩ := first
  obtain ⟨_, _⟩ := second
  cases hreceive
  cases result with
  | returned reply => dsimp only; split <;> rfl
  | raised f => rfl
  | cancelled => rfl

/-- To hand a request over leaves it as it is, wherever it then stands. -/
theorem map_request_hand (t : Transport) (r : Request) :
    (t.hand r).2.map Pending.request = r.check.map fun _ => r := by
  unfold hand
  cases r.check <;> rfl

/-- The request that is built of the same parts is the same. Its number is not, for the transports may have
handed over different requests before, and this is why the requests are compared without their numbers. -/
theorem map_request_issue (h : Alike t t') (hclosed : t'.closed = t.closed)
    (method url : Text) (headers : Headers) (content : Content) (longPoll : Bool) :
    (t'.issue method url headers content longPoll).2.map Pending.request =
      (t.issue method url headers content longPoll).2.map Pending.request := by
  unfold issue
  rw [h.settings, hclosed]
  split
  · rfl
  · split
    · rfl
    · next headers _ =>
      split
      · rfl
      · next body _ =>
        -- headers and body are the same on both, and so is what is printed
        have hprint := snd_print h (Console.Trace.request t.room consoleWidth method url headers (body.getD []))
        rw [h.room]
        generalize t.print _ = first at hprint ⊢
        generalize t'.print _ = second at hprint ⊢
        obtain ⟨_, printed⟩ := first
        obtain ⟨_, _⟩ := second
        cases hprint
        cases printed with
        | ok _ => simp only [map_request_hand]
        | error f => rfl

/-- What an attempt asks for, or why it cannot ask, depends on the settings, the room and on being open only.
Address and body are made from the specification in the same room, and what they fail with is put down to the
same member. -/
theorem map_request_dispatch (h : Alike t t') (hclosed : t'.closed = t.closed)
    (spec : RequestSpec) (e : Endpoint) :
    (t'.dispatch spec e).2.map Pending.request = (t.dispatch spec e).2.map Pending.request := by
  -- the member is added to a failure before or after the number is forgotten
  have hmap (result : Except Failure Pending) :
      (result.mapError (Failure.against e)).map Pending.request =
        (result.map Pending.request).mapError (Failure.against e) := by
    cases result <;> rfl
  cases haddress : spec.address t.room e with
  | error f =>
    have haddress' : spec.address t'.room e = .error f := by rw [h.room, haddress]
    rw [dispatch_of_address_error haddress, dispatch_of_address_error haddress']
  | ok url =>
    have haddress' : spec.address t'.room e = .ok url := by rw [h.room, haddress]
    cases hbody : spec.body t.room with
    | error f =>
      have hbody' : spec.body t'.room = .error f := by rw [h.room, hbody]
      rw [dispatch_of_body_error haddress hbody, dispatch_of_body_error haddress' hbody']
    | ok body =>
      have hbody' : spec.body t'.room = .ok body := by rw [h.room, hbody]
      rw [dispatch_eq_issue haddress hbody, dispatch_eq_issue haddress' hbody', hmap, hmap,
        map_request_issue h hclosed]

/-- What an attempt against a member asks for, on an open transport with these settings. -/
def asks (room : Room) (settings : ResolvedSettings) (spec : RequestSpec) (e : Endpoint) : Except Failure Request :=
  ((fresh room settings).dispatch spec e).2.map Pending.request

/-- How an answer ends an attempt against a member, on a transport with these settings. -/
def answers (room : Room) (settings : ResolvedSettings) (spec : RequestSpec) (e : Endpoint) (r : Request)
    (a : Answer) : Outcome Response :=
  ((fresh room settings).conclude spec e r a).2

theorem alike_fresh (t : Transport) : Alike (fresh t.room t.settings) t := ⟨rfl, rfl⟩

/-- An open transport asks what its settings and its room say, and what it has done before does not matter. -/
theorem map_request_eq_asks (hopen : t.closed = false) (spec : RequestSpec) (e : Endpoint) :
    (t.dispatch spec e).2.map Pending.request = asks t.room t.settings spec e :=
  map_request_dispatch t.alike_fresh hopen spec e

/-- Nor does it matter for what is made of an answer. -/
theorem snd_conclude_eq_answers (t : Transport) (spec : RequestSpec) (e : Endpoint) (r : Request)
    (a : Answer) : (t.conclude spec e r a).2 = answers t.room t.settings spec e r a :=
  snd_conclude t.alike_fresh spec e r a

end Transport

/-! ## A call by itself -/

/-- What a call hears: the answer to its request, or its caller who gives it up. -/
inductive Signal where
  | answer (a : Answer)
  | cancel

/-- A call by itself: where its run stands, and the request that waits for its answer. -/
structure Conversation where
  standing : Standing Response
  asked : Option Request

namespace Conversation

/-- The next request is made, if the call needs one. A request that cannot be made fails the attempt;
`patience` bounds how often. -/
def advance (room : Room) (settings : ResolvedSettings) (spec : RequestSpec) :
    Nat → Conversation → Conversation
  | patience, v =>
    match v.standing.phase, v.asked with
    | .attempting _ e, none =>
      match Transport.asks room settings spec e with
      | .ok r => { v with asked := some r }
      | .error f =>
        match patience with
        | 0 => v
        | patience + 1 => advance room settings spec patience ⟨v.standing.take (.raised f), none⟩
    | _, _ => v

/-- The call hears something. -/
def hear (room : Room) (settings : ResolvedSettings) (spec : RequestSpec) (v : Conversation) :
    Signal → Conversation
  | .answer a =>
    match v.standing.phase, v.asked with
    | .attempting _ e, some r =>
      advance room settings spec settings.endpoints.length
        ⟨v.standing.take (Transport.answers room settings spec e r a), none⟩
    | _, _ => v
  | .cancel =>
    match v.asked with
    | some _ => ⟨v.standing.take .cancelled, none⟩
    | none => v

/-- The call begins. -/
def begin (room : Room) (settings : ResolvedSettings) (spec : RequestSpec) : Conversation :=
  advance room settings spec settings.endpoints.length ⟨.onward (.start settings.endpoints), none⟩

end Conversation

namespace Client

variable {c : Client} {call slot : Nat} {spec : RequestSpec} {listeners : List Listener}
  {v : Conversation}

/-- A client carries a call that stands so. -/
structure Carries (c : Client) (call : Nat) (spec : RequestSpec) (listeners : List Listener)
    (slot : Nat) (v : Conversation) : Prop where
  isOpen : c.transport.closed = false
  follows : c.failover.Follows call c.endpoints (.fixed listeners) slot v.standing
  asks : ∃ pending : Option Pending,
    c.calls[call]? = some ⟨spec, pending⟩ ∧ pending.map Pending.request = v.asked

namespace Carries

theorem owns (h : c.Carries call spec listeners slot v) :
    c.failover.Owns call
      ⟨c.endpoints, .fixed listeners, slot, v.standing.phase, v.standing.progress.attempted⟩
      v.standing.progress :=
  h.follows.owns fun hlive => by cases hlive

/-- The call goes on in a client of the same settings. -/
theorem moving (h : c.Carries call spec listeners slot v) (c' : Client)
    (hsettings : c'.settings = c.settings) (hclosed : c'.transport.closed = c.transport.closed)
    {standing : Standing Response} {pending : Option Pending}
    (hfollows : c'.failover.Follows call c.endpoints (.fixed listeners) slot standing)
    (hcall : c'.calls[call]? = some ⟨spec, pending⟩) :
    c'.Carries call spec listeners slot ⟨standing, pending.map Pending.request⟩ where
  isOpen := hclosed.trans h.isOpen
  follows := by rwa [endpoints, hsettings]
  asks := ⟨pending, hcall, rfl⟩

theorem set_asks (h : c.Carries call spec listeners slot v) (pending : Option Pending) :
    (c.calls.set call ⟨spec, pending⟩)[call]? = some ⟨spec, pending⟩ := by
  obtain ⟨before, hcall, -⟩ := h.asks
  obtain ⟨hin, -⟩ := List.getElem?_eq_some_iff.1 hcall
  simp [hin]

/-- The next request of the call is made. The induction is on the patience: each request that cannot be made
fails its attempt, in the client and in the call by itself, and takes one unit from both. -/
theorem advance (h : c.Carries call spec listeners slot v) (patience : Nat) :
    (c.advance call patience).Carries call spec listeners slot
      (v.advance c.room c.settings spec patience) := by
  -- induction on the patience: as long as requests cannot be made, the client and the call by itself go on
  -- together
  induction patience using Nat.strongRecOn generalizing c v with
  | ind patience ih =>
    obtain ⟨⟨p, phase⟩, asked⟩ := v
    have hthere := h.owns.there
    obtain ⟨pending, hcall, rfl⟩ := h.asks
    unfold Client.advance Conversation.advance
    cases phase with
    | ended _ | stuck =>
      rw [show c.failover.awaited? call = none by simp [World.awaited?, hthere]]
      exact h
    | attempting attempt e =>
      rw [show c.failover.awaited? call = some (attempt, e) by simp [World.awaited?, hthere], hcall]
      cases pending with
      | some pending => exact h
      | none =>
        have hasks := Transport.map_request_eq_asks h.isOpen spec e
        have hsettings := Transport.settings_dispatch c.transport spec e
        have hroom := Transport.room_dispatch c.transport spec e
        have hclosed := Transport.closed_dispatch c.transport spec e
        rw [show c.transport.settings = c.settings from rfl, show c.transport.room = c.room from rfl] at hasks
        -- the client makes the request that the call asks for by itself, or neither can
        dsimp only [Option.map_none]
        rw [← hasks]
        generalize c.transport.dispatch spec e = made at hsettings hroom hclosed ⊢
        obtain ⟨t, result⟩ := made
        cases result with
        | ok pending =>
          exact h.moving ⟨t, c.failover, c.calls.set call ⟨spec, some pending⟩, c.fans⟩ hsettings hclosed
            h.follows (h.set_asks (some pending))
        | error f =>
          dsimp only [Except.map]
          cases patience with
          | zero => exact h.moving ⟨t, c.failover, c.calls, c.fans⟩ hsettings hclosed h.follows hcall
          | succ patience =>
            -- the attempt has failed at once, and both go on to the next member
            let failed : Client := ⟨t, c.failover.resume call (.raised f), c.calls, c.fans⟩
            have hfailed := h.moving failed hsettings hclosed (h.follows.resume (.raised f)) hcall
            have hrest := ih patience (Nat.lt_succ_self patience) hfailed
            rwa [show failed.settings = c.settings from hsettings, show failed.room = c.room from hroom] at hrest

/-- **The call hears something**, and goes on in the client as it does by itself. The answer is concluded from
in the same way, the run takes the same outcome, and the requests that follow are those of `advance`. -/
theorem answer (h : c.Carries call spec listeners slot v) (a : Answer) :
    (c.answer call a).Carries call spec listeners slot (v.hear c.room c.settings spec (.answer a)) := by
  obtain ⟨⟨p, phase⟩, asked⟩ := v
  have hthere := h.owns.there
  obtain ⟨pending, hcall, rfl⟩ := h.asks
  cases phase with
  | ended _ | stuck =>
    unfold Client.answer
    rw [show c.failover.awaited? call = none by simp [World.awaited?, hthere]]
    exact h
  | attempting attempt e =>
    have hawaited : c.failover.awaited? call = some (attempt, e) := by simp [World.awaited?, hthere]
    cases pending with
    | none =>
      unfold Client.answer
      rw [hawaited, hcall]
      exact h
    | some pending =>
      have hsame := Transport.sameConnection_conclude c.transport spec e pending.request a
      rw [answer_eq hawaited hcall, Transport.snd_conclude_eq_answers]
      -- the client after the answer, and before it makes the next request
      let heard : Client :=
        ⟨(c.transport.conclude spec e pending.request a).1,
          c.failover.resume call (Transport.answers c.room c.settings spec e pending.request a),
          c.calls.set call ⟨spec, none⟩, c.fans⟩
      have hheard := h.moving heard hsame.settings hsame.closed (h.follows.resume _) (h.set_asks none)
      have hrest := hheard.advance c.endpoints.length
      rwa [show heard.settings = c.settings from hsame.settings, show heard.room = c.room from hsame.room] at hrest

/-- A call that is given up hears that it is, and stands where that brings it. -/
theorem cancel (h : c.Carries call spec listeners slot v) :
    (c.cancel call).Carries call spec listeners slot (v.hear c.room c.settings spec .cancel) := by
  obtain ⟨⟨p, phase⟩, asked⟩ := v
  obtain ⟨pending, hcall, rfl⟩ := h.asks
  cases pending with
  | none =>
    unfold Client.cancel
    rw [hcall]
    exact h
  | some pending =>
    rw [cancel_eq hcall]
    exact h.moving ⟨c.transport.withdraw pending.number, c.failover.resume call .cancelled,
      c.calls.set call ⟨spec, none⟩, c.fans⟩ rfl rfl (h.follows.resume .cancelled) (h.set_asks none)

end Carries

end Client

end ClusterClient
