import ClusterClient.Exchange.Transport

/-!
# What an attempt does to the transport

An attempt against one member hands over one request at most, and leaves the settings of the transport
and whether it is closed as they are. What it prints is the only other trace it leaves, and a transport
that does not print is left by an answer as it was.

## The architecture

* **`Handover`**: what the making of one request does to a transport, whatever fails on the way.
  **`handover_dispatch`** says that an attempt against a member is one, and of which request.
* **`SameConnection`**: two transports that differ in what they have printed only; taking an answer
  (**`sameConnection_conclude`**) does no more than that.
* **`IsPlain.transport_dispatch`**: on an open transport that does not print, exactly which request an
  attempt hands over, as `RequestSpec.requestTo?` describes it.
* **`isAgainst_of_dispatch`**, **`isAgainst_of_conclude`**: whom a failed attempt is put down to.
-/

namespace ClusterClient

/-- Headers that cannot be made are never needed: they fail the attempt. -/
def ResolvedSettings.headersOrNone (settings : ResolvedSettings) (call : Headers) : Headers :=
  (settings.headersFor call).toOption.getD []

/-- The request of a call to a member. There is none if its address or its body cannot be made, be it for want of
room. -/
def RequestSpec.requestTo? (room : Room) (settings : ResolvedSettings) (spec : RequestSpec) (e : Endpoint) :
    Option Request :=
  match spec.address room e, spec.body room with
  | .ok url, .ok body =>
    some ⟨spec.method, url, settings.headersOrNone body.headers, body.content, spec.longPoll⟩
  | _, _ => none

/-- A request carries a call to a member: it has the member's address, and the method and the body of the
call. -/
structure RequestSpec.Asks (room : Room) (spec : RequestSpec) (e : Endpoint) (r : Request) : Prop where
  method : r.method = spec.method
  address : spec.address room e = .ok r.url
  body : ∃ body, spec.body room = .ok body ∧ r.body = body.content

namespace Transport

/-- A transport that has handed some requests over besides. -/
def handing (t : Transport) (requests : List Request) : Transport :=
  { t with issued := t.issued ++ requests.map (⟨·, false⟩) }

@[simp] theorem handing_nil (t : Transport) : t.handing [] = t := by
  simp [handing]

theorem handing_handing (t : Transport) (first second : List Request) :
    (t.handing first).handing second = t.handing (first ++ second) := by
  simp [handing]

/-! ## Transports that differ in what they have printed -/

/-- Two transports with the same settings, the same room and the same requests, both open or both closed. -/
structure SameConnection (t t' : Transport) : Prop where
  settings : t'.settings = t.settings
  room : t'.room = t.room
  closed : t'.closed = t.closed
  issued : t'.issued = t.issued

theorem SameConnection.refl (t : Transport) : SameConnection t t := ⟨rfl, rfl, rfl, rfl⟩

/-- Printing changes nothing but the console. -/
theorem sameConnection_print (t : Transport) (trace : Console.Printed) : SameConnection t (t.print trace).1 := by
  unfold print
  split
  · dsimp only
    split <;> exact ⟨rfl, rfl, rfl, rfl⟩
  · exact .refl t

/-- Taking an answer changes nothing but the console: a reply and an error of the network are printed if there
is tracing, and anything else is passed on. -/
theorem sameConnection_receive (t : Transport) (r : Request) (a : Answer) :
    SameConnection t (t.receive r a).1 := by
  cases a with
  | reply reply =>
    have h := sameConnection_print t
      (Console.Trace.response t.room consoleWidth r.url reply.status reply.headers reply.body)
    simp only [receive]
    split <;> next heq => rw [heq] at h; exact h
  | fails f =>
    cases f with
    | external e =>
      have h := sameConnection_print t
        (Console.Trace.error consoleWidth r.method r.url e.kind.name e.message)
      simp only [receive]
      split
      · split <;> next heq => rw [heq] at h; exact h
      · exact .refl t
    | mute kind why =>
      simp only [receive]
      split <;> exact .refl t
    | _ => exact .refl t
  | cancelled => exact .refl t

/-- To draw a conclusion from an answer does no more than to take it. -/
theorem sameConnection_conclude (t : Transport) (spec : RequestSpec) (e : Endpoint) (r : Request)
    (a : Answer) : SameConnection t (t.conclude spec e r a).1 := by
  have h := sameConnection_receive t r a
  unfold conclude
  split
  · next heq =>
    rw [heq] at h
    split <;> exact h
  · next heq => rw [heq] at h; exact h
  · next heq => rw [heq] at h; exact h

/-! ## Making a request -/

/-- What the making of a request does to a transport: none is handed over, or one as it is asked for, which
then waits for its answer or has failed at once. -/
inductive Handover (asked : Request → Prop) (t : Transport) :
    Transport → Except Failure Pending → Prop where
  | none {t' : Transport} (same : SameConnection t t') (f : Failure) : Handover asked t t' (.error f)
  | refused {t' : Transport} (same : SameConnection t t') {r : Request} (hr : asked r) (f : Failure) :
      Handover asked t (t'.handing [r]) (.error f)
  | waiting {t' : Transport} (same : SameConnection t t') {r : Request} (hr : asked r) :
      Handover asked t (t'.handing [r]) (.ok ⟨t.issued.length, r⟩)

/-- To hand a request over is one handover, after a transport has printed. -/
theorem handover_hand {asked : Request → Prop} {t t' : Transport} (same : SameConnection t t')
    {r : Request} (hr : asked r) : Handover asked t (t'.hand r).1 (t'.hand r).2 := by
  unfold hand
  rw [show t'.issued.length = t.issued.length by rw [same.issued]]
  split
  · exact .waiting same hr
  · exact .refused same hr _

/-- A request that is built from its parts carries these parts. It is handed over only when the transport is
open, the headers and the body have been made, and the trace of the request has been printed. -/
theorem handover_issue (t : Transport) (method url : Text) (headers : Headers) (content : Content)
    (longPoll : Bool) :
    Handover (fun r => r.method = method ∧ r.url = url ∧ content.encoded = .ok r.body) t
      (t.issue method url headers content longPoll).1
      (t.issue method url headers content longPoll).2 := by
  unfold issue
  split
  · exact .none (.refl t) _
  · split
    · exact .none (.refl t) _
    · next headers _ =>
      split
      · exact .none (.refl t) _
      · next body hbody =>
        have h := sameConnection_print t
          (Console.Trace.request t.room consoleWidth method url headers (body.getD []))
        split
        · next heq => rw [heq] at h; exact .none h _
        · next heq => rw [heq] at h; exact handover_hand h ⟨rfl, rfl, hbody⟩

/-- The requests that have been handed over between two moments. -/
def handedOver (before after : Transport) : List Request :=
  (after.issued.drop before.issued.length).map Issued.request

theorem handedOver_of_length_eq {t t' : Transport} (h : t'.issued.length = t.issued.length) :
    t.handedOver t' = [] := by
  simp [handedOver, ← h]

/-- What is handed over is asked for, and it is the request that then waits. At most one is handed over at a
time, and a request that is refused there does not wait. -/
theorem Handover.handedOver {asked : Request → Prop} {t t' : Transport}
    {result : Except Failure Pending} (h : Handover asked t t' result) :
    ∃ request : Option Request, t.handedOver t' = request.toList ∧ (∀ r ∈ request, asked r) ∧
      ∀ pending, result = .ok pending → request = some pending.request := by
  have hone {t' : Transport} (same : SameConnection t t') (r : Request) :
      t.handedOver (t'.handing [r]) = [r] := by
    simp [Transport.handedOver, handing, same.issued]
  cases h with
  | none same fault =>
    exact ⟨.none, handedOver_of_length_eq (congrArg List.length same.issued), by simp, by simp⟩
  | refused same hr fault => exact ⟨some _, hone same _, by simpa using hr, by simp⟩
  | waiting same hr =>
    refine ⟨some _, hone same _, by simpa using hr, ?_⟩
    intro pending hpending
    rw [← Except.ok.inj hpending]

/-- What is sent of a body. -/
def sentContent (body : Body) : Content :=
  match body.content with
  | none => .nothing
  | some octets => .octets octets

@[simp] theorem encoded_sentContent (body : Body) : (sentContent body).encoded = .ok body.content := by
  unfold sentContent
  split
  · next h => rw [h]; rfl
  · next octets h => rw [h]; rfl

/-- An attempt whose address and body can be made issues a request, and puts its failure down to the
member. -/
theorem dispatch_eq_issue {t : Transport} {spec : RequestSpec} {e : Endpoint} {url : Text} {body : Body}
    (haddress : spec.address t.room e = .ok url) (hbody : spec.body t.room = .ok body) :
    t.dispatch spec e =
      ((t.issue spec.method url body.headers (sentContent body) spec.longPoll).1,
        (t.issue spec.method url body.headers (sentContent body) spec.longPoll).2.mapError
          (Failure.against e)) := by
  unfold dispatch sentContent
  rw [haddress, hbody]
  dsimp only
  cases body.content with
  | none =>
    dsimp only
    split <;> next heq => rw [heq]; rfl
  | some octets =>
    dsimp only
    split <;> next heq => rw [heq]; rfl

/-- Without an address nothing is done. -/
theorem dispatch_of_address_error {t : Transport} {spec : RequestSpec} {e : Endpoint} {f : Failure}
    (haddress : spec.address t.room e = .error f) : t.dispatch spec e = (t, .error (f.against e)) := by
  unfold dispatch
  rw [haddress]

/-- Without a body nothing is done. -/
theorem dispatch_of_body_error {t : Transport} {spec : RequestSpec} {e : Endpoint} {url : Text}
    {f : Failure} (haddress : spec.address t.room e = .ok url) (hbody : spec.body t.room = .error f) :
    t.dispatch spec e = (t, .error (f.against e)) := by
  unfold dispatch
  rw [haddress, hbody]

/-- **An attempt against a member hands over one request at most**, with the address of the member and
with the method and the body of the call. -/
theorem handover_dispatch (t : Transport) (spec : RequestSpec) (e : Endpoint) :
    Handover (spec.Asks t.room e) t (t.dispatch spec e).1 (t.dispatch spec e).2 := by
  cases haddress : spec.address t.room e with
  | error f =>
    rw [dispatch_of_address_error haddress]
    exact .none (.refl t) _
  | ok url =>
    cases hbody : spec.body t.room with
    | error f =>
      rw [dispatch_of_body_error haddress hbody]
      exact .none (.refl t) _
    | ok body =>
      rw [dispatch_eq_issue haddress hbody]
      have h := handover_issue t spec.method url body.headers (sentContent body) spec.longPoll
      generalize t.issue spec.method url body.headers (sentContent body) spec.longPoll = issued at h
      obtain ⟨t', result⟩ := issued
      -- what the transport hands over is what the call asks for
      have hasks {r : Request}
          (hr : r.method = spec.method ∧ r.url = url ∧ (sentContent body).encoded = .ok r.body) :
          spec.Asks t.room e r := by
        obtain ⟨hmethod, rfl, hcontent⟩ := hr
        rw [encoded_sentContent] at hcontent
        exact ⟨hmethod, haddress, body, hbody, (Except.ok.inj hcontent).symm⟩
      cases h with
      | none same f => exact .none same _
      | refused same hr f => exact .refused same (hasks hr) _
      | waiting same hr => exact .waiting same (hasks hr)

/-- Whatever becomes of a request, the transport keeps its settings and its room, and is as open as it was. -/
theorem Handover.keeps {asked : Request → Prop} {t t' : Transport} {result : Except Failure Pending}
    (h : Handover asked t t' result) : t'.settings = t.settings ∧ t'.room = t.room ∧ t'.closed = t.closed := by
  cases h with
  | none same _ => exact ⟨same.settings, same.room, same.closed⟩
  | refused same _ _ => exact ⟨same.settings, same.room, same.closed⟩
  | waiting same _ => exact ⟨same.settings, same.room, same.closed⟩

theorem settings_dispatch (t : Transport) (spec : RequestSpec) (e : Endpoint) :
    (t.dispatch spec e).1.settings = t.settings := (handover_dispatch t spec e).keeps.1

theorem room_dispatch (t : Transport) (spec : RequestSpec) (e : Endpoint) :
    (t.dispatch spec e).1.room = t.room := (handover_dispatch t spec e).keeps.2.1

theorem closed_dispatch (t : Transport) (spec : RequestSpec) (e : Endpoint) :
    (t.dispatch spec e).1.closed = t.closed := (handover_dispatch t spec e).keeps.2.2

/-! ## Without a trace

On an open transport that prints nothing and whose headers can be made, an attempt hands over the request
that `RequestSpec.requestTo?` names, whether or not that request is then refused. -/

/-- A transport that hands over every request it is asked for: it is open, prints nothing, and can make the
headers of every call. -/
structure IsPlain (t : Transport) : Prop where
  isOpen : t.closed = false
  untraced : t.settings.trace = false
  headers : ∀ call, ∃ headers, t.settings.headersFor call = .ok headers

theorem IsPlain.handing {t : Transport} (h : t.IsPlain) (requests : List Request) :
    (t.handing requests).IsPlain := ⟨h.isOpen, h.untraced, h.headers⟩

/-- Credentials without surrogates can be written, and nothing else in the headers of a request has to be: the
headers themselves are put into octets only when the request is handed over. -/
theorem headersFor_of_credentials {settings : ResolvedSettings}
    (h : ∀ credentials ∈ settings.credentials,
      ∀ p ∈ credentials.username ++ credentials.password, p.isSurrogate = false)
    (call : Headers) : ∃ headers, settings.headersFor call = .ok headers := by
  unfold ResolvedSettings.headersFor
  cases hcredentials : settings.credentials with
  | none => exact ⟨_, rfl⟩
  | some credentials =>
    -- only surrogates have no octets, and the colon in between is none
    have hjoined : ∀ p ∈ credentials.joined, Codec.utf8.lacks p = false := by
      intro p hp
      simp only [Credentials.joined, List.mem_append] at hp
      rcases hp with (hname | hcolon) | hpassword
      · exact h credentials hcredentials p (List.mem_append_left _ hname)
      · obtain rfl : p = CodePoint.ofChar ':' := List.mem_singleton.1 hcolon
        decide
      · exact h credentials hcredentials p (List.mem_append_right _ hpassword)
    have hheader : ∃ value, credentials.header = .ok value := by
      rw [Credentials.header, Text.encode_of_forall hjoined]
      exact ⟨_, rfl⟩
    obtain ⟨value, hvalue⟩ := hheader
    simp only [hvalue]
    exact ⟨_, rfl⟩

namespace IsPlain

variable {t : Transport}

theorem print_eq (h : t.IsPlain) (trace : Console.Printed) : t.print trace = (t, .ok ()) := by
  simp [print, h.untraced]

/-- A plain transport hands over the request with exactly the parts that it is given. -/
theorem issue_eq (h : t.IsPlain) (method url : Text) (headers : Headers) (body : Body)
    (longPoll : Bool) :
    t.issue method url headers (sentContent body) longPoll =
      t.hand ⟨method, url, t.settings.headersOrNone headers, body.content, longPoll⟩ := by
  obtain ⟨made, hmade⟩ := h.headers headers
  have horNone : t.settings.headersOrNone headers = made := by
    simp [ResolvedSettings.headersOrNone, hmade, Except.toOption]
  simp [issue, h.isOpen, hmade, horNone, h.print_eq]

/-- The transport after an attempt has handed over the member's request, and no other. -/
theorem transport_dispatch (h : t.IsPlain) (spec : RequestSpec) (e : Endpoint) :
    (t.dispatch spec e).1 = t.handing (spec.requestTo? t.room t.settings e).toList := by
  unfold RequestSpec.requestTo?
  cases haddress : spec.address t.room e with
  | error f => simp [dispatch_of_address_error haddress]
  | ok url =>
    cases hbody : spec.body t.room with
    | error f => simp [dispatch_of_body_error haddress hbody]
    | ok body =>
      rw [dispatch_eq_issue haddress hbody, h.issue_eq, hand]
      split <;> rfl

/-- A request that waits after an attempt is the member's, at the next position. An attempt comes to that point
only with an address and a body, and on a plain transport nothing else is in the way. -/
theorem requestTo?_of_dispatch (h : t.IsPlain) {spec : RequestSpec} {e : Endpoint} {pending : Pending}
    (hwaits : (t.dispatch spec e).2 = .ok pending) :
    spec.requestTo? t.room t.settings e = some pending.request ∧ pending.number = t.issued.length := by
  unfold RequestSpec.requestTo?
  cases haddress : spec.address t.room e with
  | error f => simp [dispatch_of_address_error haddress] at hwaits
  | ok url =>
    cases hbody : spec.body t.room with
    | error f => simp [dispatch_of_body_error haddress hbody] at hwaits
    | ok body =>
      rw [dispatch_eq_issue haddress hbody, h.issue_eq, hand] at hwaits
      split at hwaits
      · obtain rfl := Except.ok.inj hwaits
        exact ⟨rfl, rfl⟩
      · cases hwaits

/-- Taking an answer leaves a plain transport as it is. -/
theorem transport_receive (h : t.IsPlain) (r : Request) (a : Answer) : (t.receive r a).1 = t := by
  cases a with
  | reply reply => simp [receive, h.print_eq]
  | fails f =>
    cases f with
    | external e =>
      simp only [receive, h.print_eq]
      split <;> rfl
    | mute kind why =>
      simp only [receive]
      split <;> rfl
    | _ => rfl
  | cancelled => rfl

/-- Drawing a conclusion from an answer leaves a plain transport as it is. -/
theorem transport_conclude (h : t.IsPlain) (spec : RequestSpec) (e : Endpoint) (r : Request)
    (a : Answer) : (t.conclude spec e r a).1 = t := by
  have hreceive := h.transport_receive r a
  unfold conclude
  split
  · next heq =>
    rw [heq] at hreceive
    split <;> exact hreceive
  · next heq => rw [heq] at hreceive; exact hreceive
  · next heq => rw [heq] at hreceive; exact hreceive

end IsPlain

end Transport

/-! ## Whom a failure is put down to

A failure of an attempt that belongs to a member names the member that was tried. It may have started
anywhere: without a member, with the right one, or outside of this library. -/

/-- If a failure is put down to a member at all, then to this one. -/
def Failure.IsAgainst (e : Endpoint) (f : Failure) : Prop :=
  ∀ fault member, f = .endpoint fault member → member = some e

/-- A failure that is put down to no member yet. -/
def Failure.IsUnattributed (f : Failure) : Prop := ∀ fault e, f ≠ .endpoint fault (some e)

/-- A failure that is put down to nobody can be put down to any member. -/
theorem Failure.IsUnattributed.against {f : Failure} (h : f.IsUnattributed) (e : Endpoint) :
    (f.against e).IsAgainst e := by
  intro fault member heq
  cases f with
  | endpoint fault' member' =>
    cases member' with
    | none => cases heq; rfl
    | some e' => exact absurd rfl (h fault' e')
  | _ => cases heq

/-- A failure that is against a member has been put down to it already, if to anybody. -/
theorem Failure.IsAgainst.against_eq {f : Failure} {e : Endpoint} (h : f.IsAgainst e) : f.against e = f := by
  cases f with
  | endpoint fault member =>
    obtain rfl := h fault member rfl
    rfl
  | _ => rfl

/-- A failure that is put down to a member is left as it is. -/
theorem Failure.IsAgainst.against {f : Failure} {e : Endpoint} (h : f.IsAgainst e) :
    (f.against e).IsAgainst e := by
  rw [h.against_eq]
  exact h

/-- What stands behind a failure that cannot be shown: what showing it fails with, or showing that in turn. -/
inductive Failure.Hides : Failure → Failure → Prop
  | once {f why : Failure} (hwhy : f.whyMute? = some why) : Hides f why
  | again {f g why : Failure} (hg : f.whyMute? = some g) (hides : Hides g why) : Hides f why

/-- What a member can make of a request: it replies, or the exchange fails. Whoever hands requests over
knows no members, so that a failure is not put down to one yet, nor is what it fails with when it is asked for its
message; and nobody cancels the exchange. -/
def Answer.IsGenuine : Answer → Prop
  | .reply _ => True
  | .fails f => f.IsUnattributed ∧ ∀ why, f.whyMute? = some why → why.IsUnattributed
  | .cancelled => False

/-- An error from outside that can be shown is genuine. -/
theorem Answer.isGenuine_external (e : External) : (Answer.fails (.external e)).IsGenuine := by
  constructor
  · intro fault member heq
    cases heq
  · intro why hwhy
    cases hwhy

/-- A failure before anything has been handed over: it can be shown, and it is put down to no member yet. -/
structure Failure.IsEarly (f : Failure) : Prop where
  speaks : f.Speaks
  unattributed : f.IsUnattributed

theorem Failure.isEarly_of_ne {f : Failure} (hspeaks : f.Speaks) (hendpoint : ∀ fault member, f ≠ .endpoint fault member) :
    f.IsEarly := ⟨hspeaks, fun fault e => hendpoint fault (some e)⟩

namespace RequestSpec

/-- The failure of an address that is no URL is put down to the member. -/
theorem isAgainst_noAddress (e : Endpoint) (path : Text) (why : Option UrlFault) :
    (noAddress e path why).IsAgainst e := by
  intro fault member heq
  cases heq
  rfl

/-- Parameters that cannot be shown are put down to the member, or to nobody. -/
theorem isAgainst_noParameters (e : Endpoint) (path : Text) (why : External) :
    (noParameters e path why).IsAgainst e ∧ (noParameters e path why).Speaks := by
  unfold noParameters
  split
  · exact ⟨isAgainst_noAddress e path _, rfl⟩
  · split
    · exact ⟨isAgainst_noAddress e path _, rfl⟩
    · exact ⟨fun _ _ heq => (by cases heq), rfl⟩

/-- Whatever keeps an address from being made can be shown, and is put down to the member or to nobody. Only a
host that does not decode and a parameter that cannot be shown may name nobody. -/
theorem isAgainst_of_address {room : Room} {spec : RequestSpec} {e : Endpoint} {f : Failure}
    (h : spec.address room e = .error f) : f.IsAgainst e ∧ f.Speaks := by
  unfold address addressOf at h
  -- the parameters, the URL, its scheme and its host are looked at in turn
  split at h
  · obtain rfl := Except.error.inj h
    exact isAgainst_noParameters e _ _
  · split at h
    · obtain rfl := Except.error.inj h
      exact ⟨isAgainst_noAddress e _ _, rfl⟩
    · split at h
      · obtain rfl := Except.error.inj h
        exact ⟨isAgainst_noAddress e _ _, rfl⟩
      · split at h
        · obtain rfl := Except.error.inj h
          exact ⟨fun _ _ heq => (by cases heq), rfl⟩
        · split at h
          · obtain rfl := Except.error.inj h
            exact ⟨isAgainst_noAddress e _ _, rfl⟩
          · cases h

/-- A value of a form that is not written fails early: its name, the value as a text, or its octets. -/
theorem isEarly_of_writeField {room : Room} {field : Text × Value} {f : Failure}
    (h : writeField room field = .error f) : f.IsEarly := by
  unfold writeField at h
  split at h
  · obtain rfl := Except.error.inj h
    exact Failure.isEarly_of_ne rfl nofun
  · split at h
    · obtain rfl := Except.error.inj h
      exact Failure.isEarly_of_ne rfl nofun
    · split at h
      · obtain rfl := Except.error.inj h
        exact Failure.isEarly_of_ne rfl nofun
      · cases h

/-- A form that is not written has a value that is not. -/
theorem isEarly_of_writeForm {room : Room} {form : List (Text × Value)} {f : Failure}
    (h : writeForm room form = .error f) : f.IsEarly := by
  unfold writeForm at h
  cases hfields : form.mapM (writeField room) with
  | ok fields =>
    rw [hfields] at h
    cases h
  | error f' =>
    rw [hfields] at h
    obtain rfl := Except.error.inj h
    obtain ⟨-, field, -, -, -, hfield⟩ := Except.exists_of_mapM_eq_error hfields
    exact isEarly_of_writeField hfield

/-- Whatever keeps a body from being made fails early, which is to say before there is an answer that it could
name a member for. -/
theorem isEarly_of_body {room : Room} {spec : RequestSpec} {f : Failure} (h : spec.body room = .error f) :
    f.IsEarly := by
  unfold body at h
  split at h
  · split at h
    · cases h
    · next hform =>
      obtain rfl := Except.error.inj h
      exact isEarly_of_writeForm hform
  · split at h
    · cases h
    · next why _ =>
      obtain rfl := Except.error.inj h
      cases why with
      -- a document that is too deep fails with an error of its own kind, and all others for what cannot be
      -- written
      | depth => exact Failure.isEarly_of_ne rfl nofun
      | _ => exact ⟨rfl, fun _ _ heq => by cases heq⟩
  · cases h

end RequestSpec

namespace Transport

/-- What is wrong with a request itself fails early. -/
theorem isEarly_of_check {r : Request} {f : Failure} (h : r.check = .error f) : f.IsEarly := by
  unfold Request.check at h
  split at h
  · obtain rfl := Except.error.inj h
    exact Failure.isEarly_of_ne rfl nofun
  · split at h
    · obtain rfl := Except.error.inj h
      exact Failure.isEarly_of_ne rfl nofun
    · cases h

/-- What stops a trace is a fault of what is printed. -/
theorem isEarly_of_print {t : Transport} {trace : Console.Printed}
    {f : Failure} (h : (t.print trace).2 = .error f) : f.IsEarly := by
  unfold print at h
  split at h
  · dsimp only at h
    split at h
    · cases h
    · next why _ =>
      obtain rfl := Except.error.inj h
      cases why <;> exact Failure.isEarly_of_ne rfl nofun
  · cases h

/-- Whatever keeps a request from being handed over, or has it refused then, fails early: the transport is
closed, the headers or the body cannot be written, or the trace of the request cannot be shown. -/
theorem isEarly_of_issue {t : Transport} {method url : Text} {headers : Headers}
    {content : Content} {longPoll : Bool} {f : Failure}
    (h : (t.issue method url headers content longPoll).2 = .error f) : f.IsEarly := by
  unfold issue at h
  split at h
  · obtain rfl := Except.error.inj h
    exact Failure.isEarly_of_ne rfl nofun
  · split at h
    · obtain rfl := Except.error.inj h
      exact Failure.isEarly_of_ne rfl nofun
    · next headers _ =>
      split at h
      · obtain rfl := Except.error.inj h
        exact Failure.isEarly_of_ne rfl nofun
      · next body _ =>
        split at h
        · next heq =>
          obtain rfl := Except.error.inj h
          -- what cannot be printed fails before anything is handed over
          exact isEarly_of_print (congrArg Prod.snd heq)
        · unfold hand at h
          split at h
          · cases h
          · next hcheck =>
            obtain rfl := Except.error.inj h
            exact isEarly_of_check hcheck

/-- **An attempt that fails before its request waits is put down to the member it was made against**, or to nobody, and
its failure can be shown. -/
theorem isAgainst_of_dispatch {t : Transport} {spec : RequestSpec} {e : Endpoint} {f : Failure}
    (h : (t.dispatch spec e).2 = .error f) : f.IsAgainst e ∧ f.Speaks := by
  -- naming the member takes no failure its message
  have hspeaks {f' : Failure} (hf' : f'.Speaks) : (f'.against e).Speaks := (Failure.whyMute?_against e f').trans hf'
  cases haddress : spec.address t.room e with
  | error f' =>
    rw [dispatch_of_address_error haddress] at h
    obtain rfl := Except.error.inj h
    obtain ⟨hagainst, hf'⟩ := RequestSpec.isAgainst_of_address haddress
    exact ⟨hagainst.against, hspeaks hf'⟩
  | ok url =>
    cases hbody : spec.body t.room with
    | error f' =>
      rw [dispatch_of_body_error haddress hbody] at h
      obtain rfl := Except.error.inj h
      have hearly := RequestSpec.isEarly_of_body hbody
      exact ⟨hearly.unattributed.against e, hspeaks hearly.speaks⟩
    | ok body =>
      rw [dispatch_eq_issue haddress hbody] at h
      cases hissue : (t.issue spec.method url body.headers (sentContent body) spec.longPoll).2 with
      | ok pending =>
        simp only [hissue] at h
        cases h
      | error f' =>
        simp only [hissue] at h
        obtain rfl := Except.error.inj h
        have hearly := isEarly_of_issue hissue
        exact ⟨hearly.unattributed.against e, hspeaks hearly.speaks⟩

/-- A genuine answer leads to no failure that is put down to a member yet. What the exchange fails with names
nobody, and neither does a trace that cannot be shown. -/
theorem isUnattributed_of_receive {t : Transport} {r : Request} {a : Answer} {f : Failure}
    (ha : a.IsGenuine) (h : (t.receive r a).2 = .raised f) : f.IsUnattributed := by
  cases a with
  | reply reply =>
    simp only [receive] at h
    split at h
    · cases h
    · next heq =>
      cases h
      exact (isEarly_of_print (congrArg Prod.snd heq)).unattributed
  | fails f' =>
    cases f' with
    | external e =>
      simp only [receive] at h
      split at h
      · split at h
        · cases h; exact fun _ _ heq => by cases heq
        · next heq =>
          cases h
          exact (isEarly_of_print (congrArg Prod.snd heq)).unattributed
      · cases h; exact fun _ _ heq => by cases heq
    | mute kind why =>
      simp only [receive] at h
      -- an error of the network has been asked for its message, and another one has not
      split at h
      · cases h; exact ha.2 _ rfl
      · cases h; exact ha.1
    | _ => cases h; exact ha.1
  | cancelled => cases h

/-- What taking an answer fails with can be shown, unless it comes from the exchange. An error of the network
whose message cannot be shown has been asked for it once, and what that has failed with may hide its own message
in turn. -/
theorem hides_of_receive {t : Transport} {r : Request} {a : Answer} {f why : Failure}
    (h : (t.receive r a).2 = .raised f) (hwhy : f.whyMute? = some why) : ∃ g, a = .fails g ∧ g.Hides why := by
  cases a with
  | reply reply =>
    simp only [receive] at h
    split at h
    · cases h
    · next heq =>
      obtain rfl := Outcome.raised.inj h
      exact absurd hwhy ((isEarly_of_print (congrArg Prod.snd heq)).speaks.whyMute?_ne why)
  | fails f' =>
    cases f' with
    | external e =>
      simp only [receive] at h
      split at h
      · split at h
        · obtain rfl := Outcome.raised.inj h
          cases hwhy
        · next heq =>
          obtain rfl := Outcome.raised.inj h
          exact absurd hwhy ((isEarly_of_print (congrArg Prod.snd heq)).speaks.whyMute?_ne why)
      · obtain rfl := Outcome.raised.inj h
        cases hwhy
    | mute kind next =>
      simp only [receive] at h
      -- an error of the network has been asked for its message already
      split at h
      · obtain rfl := Outcome.raised.inj h
        exact ⟨_, rfl, .again rfl (.once hwhy)⟩
      · obtain rfl := Outcome.raised.inj h
        exact ⟨_, rfl, .once hwhy⟩
    | _ =>
      obtain rfl := Outcome.raised.inj h
      cases hwhy
  | cancelled => cases h

/-- **An attempt that fails with its answer is put down to the member it was made against.** A reply that is no
success is judged with the member at hand, and a failure of the exchange is given the member when it names none.
-/
theorem isAgainst_of_conclude {t : Transport} {spec : RequestSpec} {e : Endpoint} {r : Request}
    {a : Answer} {f : Failure} (ha : a.IsGenuine) (h : (t.conclude spec e r a).2 = .raised f) :
    f.IsAgainst e := by
  unfold conclude at h
  split at h
  · split at h
    · cases h
    · next heq =>
      cases h
      unfold Reply.classify at heq
      split at heq
      · cases heq
      · cases heq
        intro fault member hmember
        cases hmember
        rfl
  · next heq =>
    cases h
    -- a failure of the exchange names nobody until the member is added
    exact (isUnattributed_of_receive ha (congrArg Prod.snd heq)).against e
  · cases h

/-- A failure of an attempt that cannot be shown comes from the exchange, and what showing it fails with stands behind
the failure of the exchange. -/
theorem hides_of_conclude {t : Transport} {spec : RequestSpec} {e : Endpoint} {r : Request} {a : Answer}
    {f why : Failure} (h : (t.conclude spec e r a).2 = .raised f) (hwhy : f.whyMute? = some why) :
    ∃ g, a = .fails g ∧ g.Hides why := by
  unfold conclude at h
  split at h
  · split at h
    · cases h
    · next f' hclassify =>
      -- the reading of a reply has faults of its own alone
      obtain rfl := Outcome.raised.inj h
      unfold Reply.classify at hclassify
      split at hclassify
      · cases hclassify
      · obtain rfl := Except.error.inj hclassify
        cases hwhy
  · next hreceive =>
    obtain rfl := Outcome.raised.inj h
    rw [Failure.whyMute?_against] at hwhy
    exact hides_of_receive (congrArg Prod.snd hreceive) hwhy
  · cases h

/-- A response is made of the member's own reply, and names the member. Nothing but a reply is received as one,
and classifying it is all that happens to it. -/
theorem reply_of_conclude {t : Transport} {spec : RequestSpec} {e : Endpoint} {r : Request}
    {a : Answer} {response : Response} (h : (t.conclude spec e r a).2 = .returned response) :
    ∃ reply, a = .reply reply ∧ reply.classify spec e = .ok response ∧ response.endpoint = e := by
  -- only a reply is received as one
  have hreply (reply : Reply) (hreceive : (t.receive r a).2 = .returned reply) : a = .reply reply := by
    cases a with
    | reply reply' =>
      simp only [receive] at hreceive
      split at hreceive
      · cases hreceive; rfl
      · cases hreceive
    | fails f =>
      cases f with
      | external e =>
        simp only [receive] at hreceive
        split at hreceive
        · split at hreceive <;> cases hreceive
        · cases hreceive
      | mute kind why =>
        simp only [receive] at hreceive
        split at hreceive <;> cases hreceive
      | _ => cases hreceive
    | cancelled => cases hreceive
  unfold conclude at h
  split at h
  · next reply heq =>
    split at h
    · next response' hclassify =>
      cases h
      refine ⟨reply, hreply reply (congrArg Prod.snd heq), hclassify, ?_⟩
      unfold Reply.classify at hclassify
      split at hclassify
      · cases hclassify; rfl
      · cases hclassify
    · cases h
  · cases h
  · cases h

/-- Only a cancelled exchange cancels an attempt: neither a reply nor a failure is taken for a cancellation. -/
theorem cancelled_of_conclude {t : Transport} {spec : RequestSpec} {e : Endpoint} {r : Request}
    {a : Answer} (h : (t.conclude spec e r a).2 = .cancelled) : a = .cancelled := by
  -- no failure is received as a cancellation
  have hreceive (hcancelled : (t.receive r a).2 = .cancelled) : a = .cancelled := by
    cases a with
    | reply reply =>
      simp only [receive] at hcancelled
      split at hcancelled <;> cases hcancelled
    | fails f =>
      cases f with
      | external e =>
        simp only [receive] at hcancelled
        split at hcancelled
        · split at hcancelled <;> cases hcancelled
        · cases hcancelled
      | mute kind why =>
        simp only [receive] at hcancelled
        split at hcancelled <;> cases hcancelled
      | _ => cases hcancelled
    | cancelled => rfl
  unfold conclude at h
  split at h
  · split at h <;> cases h
  · cases h
  · next heq => exact hreceive (congrArg Prod.snd heq)

end Transport

end ClusterClient
