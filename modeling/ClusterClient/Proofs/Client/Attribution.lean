import ClusterClient.Client.Watch
import ClusterClient.Proofs.Client.Steps
import ClusterClient.Proofs.Endpoint.Address
import ClusterClient.Proofs.Exchange.Dispatch

/-!
# What comes out of one call against one member

A call against one member returns a response of that member or raises a failure that is put down to it. A
few failures are put down to nobody: values that cannot be shown or that no octets stand for, a document that goes
too deep, a request that is refused when it is handed over, and errors of an exchange that are no errors of the
network or that have no message.

## The architecture

* **`Escapes`**: those failures, one constructor for each place where one starts, with all that has to
  go well before.
* **`escapes_of_dispatch`**, **`surfaces_of_conclude`**: a failure that is not put down to the member started in
  one of these places, before its request waits or with its answer.
* **`dispatch_outcome`**: the headline. The response, the failures that are put down to the member, and the
  others, by an equivalence.
-/

namespace ClusterClient

namespace Failure

/-- A failure of an exchange that is neither one of the network nor one of a member. -/
def IsForeign : Failure → Prop
  | external error => error.kind.isNetwork = false
  | mute kind _ => kind.isNetwork = false
  | endpoint _ _ => False
  | _ => True

/-- How a failure of an exchange leaves a call when it is put down to nobody: as it is, or, when it is an error of the
network without a message, as what it fails with when it is asked for one. -/
inductive SurfacesAs : Failure → Failure → Prop
  | itself {f : Failure} (hforeign : f.IsForeign) : SurfacesAs f f
  | asked {kind : ExternalKind} {why : Failure} (hnetwork : kind.isNetwork = true)
      (hnone : ∀ fault member, why ≠ endpoint fault member) : SurfacesAs (mute kind why) why

/-- A failure that is put down to a member. -/
def IsPutDownTo (e : Endpoint) (f : Failure) : Prop := ∃ fault, f = endpoint fault (some e)

/-- Only failures of attempts are put down to a member. -/
theorem against_of_ne {f : Failure} (h : ∀ fault member, f ≠ endpoint fault member) (e : Endpoint) :
    f.against e = f := by
  cases f with
  | endpoint fault member => exact absurd rfl (h fault member)
  | _ => rfl

/-- What surfaces is no failure of an attempt. -/
theorem SurfacesAs.ne_endpoint {f g : Failure} (h : SurfacesAs f g) (fault : EndpointFault)
    (member : Option Endpoint) : g ≠ endpoint fault member := by
  cases h with
  | itself hforeign =>
    rintro rfl
    cases hforeign
  | asked hnetwork hnone => exact hnone fault member

/-- Once it is put down to a member, a failure that nobody has put down to one is the member's, or it is no failure of
an attempt and stays as it is. -/
theorem IsUnattributed.isPutDownTo_or {f : Failure} (h : f.IsUnattributed) (e : Endpoint) :
    (f.against e).IsPutDownTo e ∨ ((∀ fault member, f ≠ endpoint fault member) ∧ f.against e = f) := by
  cases f with
  | endpoint fault member =>
    cases member with
    | none => exact .inl ⟨fault, rfl⟩
    | some e' => exact absurd rfl (h fault e')
  | _ => exact .inr ⟨nofun, rfl⟩

end Failure

/-- The failures of a call against one member that nobody attributes. -/
inductive Escapes (t : Transport) (spec : RequestSpec) (e : Endpoint) (timetable : Timetable) : Failure → Prop
  /-- A value of the query cannot be shown, and not because it is a wrong argument. -/
  | query {why : External} {url : Url} (hquery : RequestSpec.parametersOf t.room spec.query = .error why)
      (hurl : RequestSpec.addressUrl e spec.path [] = .ok url) (hkind : why.kind.isAboutArgument = false) :
      Escapes t spec e timetable (.external why)
  /-- A name of the form, or the text of a value, has no octets. -/
  | formText {url : Text} {form : List (Text × Value)} {why : Unencodable}
      (haddress : spec.address t.room e = .ok url) (hform : spec.form = some form)
      (hwhy : RequestSpec.writeForm t.room form = .error (.unencodable why)) :
      Escapes t spec e timetable (.unencodable why)
  /-- A value of the form cannot be shown. -/
  | formValue {url : Text} {form : List (Text × Value)} {why : External}
      (haddress : spec.address t.room e = .ok url) (hform : spec.form = some form)
      (hwhy : RequestSpec.writeForm t.room form = .error (.external why)) :
      Escapes t spec e timetable (.external why)
  /-- The document goes too deep to be written. -/
  | document {url : Text} {document : Value} (haddress : spec.address t.room e = .ok url)
      (hform : spec.form = none) (hdocument : spec.document = some document)
      (hdeep : document.toJson t.room.sent = .error .depth) :
      Escapes t spec e timetable (.external Unwritable.depth.external)
  /-- The credentials have no octets. -/
  | credentials {url : Text} {body : Body} {why : Unencodable} (haddress : spec.address t.room e = .ok url)
      (hbody : spec.body t.room = .ok body) (hwhy : t.settings.headersFor body.headers = .error why) :
      Escapes t spec e timetable (.unencodable why)
  /-- The parameters have made the address too long to be handed over. -/
  | tooLong {url : Text} {body : Body} {headers : Headers} (haddress : spec.address t.room e = .ok url)
      (hbody : spec.body t.room = .ok body) (hheaders : t.settings.headersFor body.headers = .ok headers)
      (hlong : Url.maxLength < url.length) :
      Escapes t spec e timetable (.url .tooLong)
  /-- A header is not ASCII. -/
  | header {url : Text} {body : Body} {headers : Headers} {why : Unencodable}
      (haddress : spec.address t.room e = .ok url) (hbody : spec.body t.room = .ok body)
      (hheaders : t.settings.headersFor body.headers = .ok headers) (hshort : url.length ≤ Url.maxLength)
      (hwhy : headers.encodable = .error why) :
      Escapes t spec e timetable (.unencodable why)
  /-- The exchange fails, and neither the network nor a member answers for it. -/
  | exchange {pending : Pending} {time : Nat} {f g : Failure} (hwaits : (t.dispatch spec e).2 = .ok pending)
      (hends : timetable pending.number = .ends time (.fails f)) (hsurfaces : f.SurfacesAs g) :
      Escapes t spec e timetable g

namespace RequestSpec

variable {room : Room} {spec : RequestSpec}

/-- A value of a form is not written because a text has no octets, or because it cannot be shown. -/
theorem of_writeField_eq_error {field : Text × Value} {f : Failure} (h : writeField room field = .error f) :
    (∃ why, f = .unencodable why) ∨ ∃ why, f = .external why := by
  unfold writeField at h
  split at h
  · exact .inl ⟨_, (Except.error.inj h).symm⟩
  · split at h
    · exact .inr ⟨_, (Except.error.inj h).symm⟩
    · split at h
      · exact .inl ⟨_, (Except.error.inj h).symm⟩
      · cases h

/-- A form is not written because one of its values is not. -/
theorem of_writeForm_eq_error {form : List (Text × Value)} {f : Failure} (h : writeForm room form = .error f) :
    (∃ why, f = .unencodable why) ∨ ∃ why, f = .external why := by
  unfold writeForm at h
  cases hfields : form.mapM (writeField room) with
  | ok fields =>
    rw [hfields] at h
    cases h
  | error f' =>
    rw [hfields] at h
    obtain rfl := Except.error.inj h
    obtain ⟨-, field, -, -, -, hfield⟩ := Except.exists_of_mapM_eq_error hfields
    exact of_writeField_eq_error hfield

/-- A form that is not written is the failure of the body. -/
theorem body_of_writeForm_eq_error {form : List (Text × Value)} {f : Failure} (hform : spec.form = some form)
    (h : writeForm room form = .error f) : spec.body room = .error f := by
  rw [body, hform]
  dsimp only
  rw [h]

/-- A document that is not written is the failure of the body, if there is no form. -/
theorem body_of_toJson_eq_error {document : Value} {why : Unwritable} (hform : spec.form = none)
    (hdocument : spec.document = some document) (h : document.toJson room.sent = .error why) :
    spec.body room = .error (unwritten why) := by
  rw [body, hform, hdocument]
  dsimp only
  rw [h]

/-- **Why a body cannot be made**: its form is not written, or there is none and its document is not written. A
form takes precedence over a document, so the second way is open only to a request without a form. -/
theorem of_body_eq_error {f : Failure} (h : spec.body room = .error f) :
    (∃ form, spec.form = some form ∧ writeForm room form = .error f) ∨
      ∃ document why, spec.form = none ∧ spec.document = some document ∧
        document.toJson room.sent = .error why ∧ f = unwritten why := by
  unfold body at h
  split at h
  · next form hform =>
    split at h
    · cases h
    · next f' hwrite =>
      obtain rfl := Except.error.inj h
      exact .inl ⟨form, hform, hwrite⟩
  · next document hform hdocument =>
    split at h
    · cases h
    · next why hwhy => exact .inr ⟨document, why, hform, hdocument, hwhy, (Except.error.inj h).symm⟩
  · cases h

/-- There being no room for a document is put down to nobody; any other fault of a document is one of the attempt. -/
theorem unwritten_of_ne {why : Unwritable} (h : why ≠ .depth) :
    unwritten why = .endpoint (.body (.found (.request why))) none := by
  cases why with
  | depth => exact absurd rfl h
  | _ => rfl

end RequestSpec

namespace Transport

variable {t : Transport} {spec : RequestSpec} {e : Endpoint}

/-! ## Before the request waits -/

/-- Without tracing, a request is handed over once its headers are there. -/
theorem issue_of_untraced (hopen : t.closed = false) (huntraced : t.settings.trace = false) {method url : Text}
    {body : Body} {headers : Headers} (hheaders : t.settings.headersFor body.headers = .ok headers)
    (longPoll : Bool) :
    t.issue method url body.headers (sentContent body) longPoll =
      t.hand ⟨method, url, headers, body.content, longPoll⟩ := by
  have hprint (trace : Console.Printed) : t.print trace = (t, .ok ()) := by
    simp [print, huntraced]
  simp [issue, hopen, hheaders, hprint]

/-- An address was made of a URL that reading leaves as it is: the request is refused for its length, or
for its headers. -/
theorem check_of_address {room : Room} {value : Value} (hread : Endpoint.read room value = .ok e) {r : Request}
    (haddress : spec.address t.room e = .ok r.url) :
    r.check =
      if Url.maxLength < r.url.length then .error (.url .tooLong)
      else
        match r.headers.encodable with
        | .error why => .error (.unencodable why)
        | .ok () => .ok () := by
  obtain ⟨-, u, -, -, hkeeps⟩ := Endpoint.exists_keeps_of_read hread
  obtain ⟨w, hw, htext⟩ := RequestSpec.of_addressOf haddress
  -- the address has been settled, so that reading it again can fail by its length alone
  obtain ⟨-, -, -, -, hsettled, -⟩ := hkeeps.of_addressUrl hw
  have hurl := hsettled.read_toText
  unfold Request.check
  by_cases hlong : Url.maxLength < w.toText.length
  · rw [if_pos hlong] at hurl
    rw [htext, hurl]
    exact (if_pos hlong).symm
  · rw [if_neg hlong] at hurl
    rw [htext, hurl]
    refine Eq.trans ?_ (if_neg hlong).symm
    cases r.headers.encodable <;> rfl

/-- How a request that has its address and its body fares. The address was put together from an endpoint that
was read, so that all that can still be wrong with it is its length; the headers may hold what has no octets.
Otherwise the request waits under the next number. -/
theorem snd_dispatch_of_headers {room : Room} {value : Value} (hread : Endpoint.read room value = .ok e)
    (hopen : t.closed = false) (huntraced : t.settings.trace = false) {url : Text} {body : Body}
    {headers : Headers} (haddress : spec.address t.room e = .ok url) (hbody : spec.body t.room = .ok body)
    (hheaders : t.settings.headersFor body.headers = .ok headers) :
    (t.dispatch spec e).2 =
      if Url.maxLength < url.length then .error (.url .tooLong)
      else
        match headers.encodable with
        | .error why => .error (.unencodable why)
        | .ok () => .ok ⟨t.issued.length, ⟨spec.method, url, headers, body.content, spec.longPoll⟩⟩ := by
  have hcheck := check_of_address (r := ⟨spec.method, url, headers, body.content, spec.longPoll⟩) hread haddress
  rw [dispatch_eq_issue haddress hbody, issue_of_untraced hopen huntraced hheaders, hand, hcheck]
  dsimp only
  by_cases hlong : Url.maxLength < url.length
  · rw [if_pos hlong, if_pos hlong]
    rfl
  · rw [if_neg hlong, if_neg hlong]
    cases headers.encodable <;> rfl

/-- Parameters that cannot be shown are put down to the member, or they escape. -/
theorem escapes_of_noParameters {why : External} (hquery : RequestSpec.parametersOf t.room spec.query = .error why)
    (timetable : Timetable) :
    (RequestSpec.noParameters e spec.path why).IsPutDownTo e ∨
      Escapes t spec e timetable (RequestSpec.noParameters e spec.path why) := by
  unfold RequestSpec.noParameters
  split
  · exact .inl ⟨_, rfl⟩
  · next url hurl =>
    split
    · exact .inl ⟨_, rfl⟩
    · next hkind => exact .inr (.query hquery hurl (Bool.eq_false_iff.2 hkind))

/-- A body that cannot be made is put down to the member, or its failure escapes as it is. -/
theorem escapes_of_body {url : Text} (haddress : spec.address t.room e = .ok url) {f : Failure}
    (hbody : spec.body t.room = .error f) (timetable : Timetable) :
    (f.against e).IsPutDownTo e ∨ Escapes t spec e timetable (f.against e) := by
  rcases RequestSpec.of_body_eq_error hbody with ⟨form, hform, hwrite⟩ | ⟨document, why, hform, hdocument, hwhy, rfl⟩
  · rcases RequestSpec.of_writeForm_eq_error hwrite with ⟨why, rfl⟩ | ⟨why, rfl⟩
    · exact .inr (.formText haddress hform hwrite)
    · exact .inr (.formValue haddress hform hwrite)
  · by_cases hdeep : why = .depth
    · subst hdeep
      exact .inr (.document haddress hform hdocument hwhy)
    · rw [RequestSpec.unwritten_of_ne hdeep]
      exact .inl ⟨_, rfl⟩

/-- **A failure before the request waits is put down to the member, or it escapes.** The request is made in
stages, and each stage has its own way to fail: the address, the body, the headers, and then the length and the
encoding of what is handed over. Only an address that is refused as such is put down to the member. -/
theorem escapes_of_dispatch {room : Room} {value : Value} (hread : Endpoint.read room value = .ok e)
    (hopen : t.closed = false) (huntraced : t.settings.trace = false) {f : Failure}
    (hf : (t.dispatch spec e).2 = .error f) (timetable : Timetable) :
    f.IsPutDownTo e ∨ Escapes t spec e timetable f := by
  -- the address, the body and the headers are made in turn, and then the request is handed over
  cases haddress : spec.address t.room e with
  | error f' =>
    rw [dispatch_of_address_error haddress] at hf
    obtain rfl := Except.error.inj hf
    obtain ⟨-, u, -, -, hkeeps⟩ := Endpoint.exists_keeps_of_read hread
    rcases hkeeps.fault_of_addressOf haddress with ⟨why, hquery, rfl⟩ | ⟨-, why, -, -, rfl⟩
    · have hagainst := (RequestSpec.isAgainst_noParameters e spec.path why).1.against_eq
      rw [hagainst]
      exact escapes_of_noParameters hquery timetable
    · exact .inl ⟨_, rfl⟩
  | ok url =>
    cases hbody : spec.body t.room with
    | error f' =>
      rw [dispatch_of_body_error haddress hbody] at hf
      obtain rfl := Except.error.inj hf
      exact escapes_of_body haddress hbody timetable
    | ok body =>
      cases hheaders : t.settings.headersFor body.headers with
      | error why =>
        rw [dispatch_eq_issue haddress hbody] at hf
        simp only [issue, hopen, hheaders, Bool.false_eq_true, if_false] at hf
        obtain rfl := Except.error.inj hf
        exact .inr (.credentials haddress hbody hheaders)
      | ok headers =>
        rw [snd_dispatch_of_headers hread hopen huntraced haddress hbody hheaders] at hf
        split at hf
        · next hlong =>
          obtain rfl := Except.error.inj hf
          exact .inr (.tooLong haddress hbody hheaders hlong)
        · next hshort =>
          split at hf
          · next why hwhy =>
            obtain rfl := Except.error.inj hf
            exact .inr (.header haddress hbody hheaders (Nat.not_lt.1 hshort) hwhy)
          · cases hf

/-! ## With the answer -/

/-- What an answer fails with is put down to the member, or it is how the failure of the exchange surfaces. A
reply is judged by its status and its payload, and these failures name the member. A failure of the network does
so as well, unless its message cannot be shown; any other failure is passed on as it is. -/
theorem surfaces_of_conclude (huntraced : t.settings.trace = false) {r : Request} {a : Answer}
    (ha : a.IsGenuine) {f : Failure} (hf : (t.conclude spec e r a).2 = .raised f) :
    f.IsPutDownTo e ∨ ∃ g, a = .fails g ∧ g.SurfacesAs f := by
  have hprint (trace : Console.Printed) : t.print trace = (t, .ok ()) := by
    simp [print, huntraced]
  cases a with
  | reply reply =>
    simp only [conclude, receive, hprint] at hf
    unfold Reply.classify at hf
    cases hpayload : reply.payload spec e with
    | ok payload =>
      rw [hpayload] at hf
      cases hf
    | error fault =>
      rw [hpayload] at hf
      cases hf
      exact .inl ⟨_, rfl⟩
  | fails f' =>
    cases f' with
    | external error =>
      simp only [conclude, receive, hprint] at hf
      -- an error of the network is put down to the member, and any other one is passed on
      by_cases hnetwork : error.kind.isNetwork = true
      · rw [if_pos hnetwork] at hf
        cases hf
        exact .inl ⟨_, rfl⟩
      · rw [if_neg hnetwork] at hf
        cases hf
        exact .inr ⟨_, rfl, .itself (Bool.eq_false_iff.2 hnetwork)⟩
    | mute kind why =>
      simp only [conclude, receive] at hf
      by_cases hnetwork : kind.isNetwork = true
      · -- the message is asked for, and what that fails with is put down to the member if it can be
        rw [if_pos hnetwork] at hf
        obtain rfl := Outcome.raised.inj hf
        rcases (ha.2 why rfl).isPutDownTo_or e with hput | ⟨hnone, hsame⟩
        · exact .inl hput
        · rw [hsame]
          exact .inr ⟨_, rfl, .asked hnetwork hnone⟩
      · rw [if_neg hnetwork] at hf
        cases hf
        exact .inr ⟨_, rfl, .itself (Bool.eq_false_iff.2 hnetwork)⟩
    | endpoint fault member =>
      cases member with
      | none =>
        cases hf
        exact .inl ⟨_, rfl⟩
      | some e' => exact absurd rfl (ha.1 fault e')
    | _ =>
      cases hf
      exact .inr ⟨_, rfl, .itself trivial⟩
  | cancelled => cases ha

/-- What surfaces of an exchange is what its call fails with: the failure itself, if it is none of the network,
and otherwise what asking for its message has failed with. -/
theorem conclude_of_surfacesAs {r : Request} {f g : Failure} (h : f.SurfacesAs g) :
    (t.conclude spec e r (.fails f)).2 = .raised g := by
  cases h with
  | itself hforeign =>
    cases f with
    | external error =>
      have hnetwork : error.kind.isNetwork = false := hforeign
      simp only [conclude, receive, hnetwork, Bool.false_eq_true, if_false]
      rfl
    | mute kind why =>
      have hnetwork : kind.isNetwork = false := hforeign
      simp only [conclude, receive, hnetwork, Bool.false_eq_true, if_false]
      rfl
    | endpoint fault member => cases hforeign
    | _ => rfl
  | asked hnetwork hnone =>
    simp only [conclude, receive, hnetwork, if_true, Failure.against_of_ne hnone]

end Transport

/-! ## One call -/

namespace Escapes

variable {t : Transport} {spec : RequestSpec} {e : Endpoint} {timetable : Timetable} {f : Failure}

theorem not_isPutDownTo (h : Escapes t spec e timetable f) : ¬f.IsPutDownTo e := by
  rintro ⟨fault, rfl⟩
  cases h with
  | exchange hwaits hends hsurfaces => exact hsurfaces.ne_endpoint _ _ rfl

/-- What escapes has kept the request from waiting, or has come of its exchange. There is one case for each way
to escape, and all but the last come before anything is handed over; for these the stages of the request are
retraced up to the one that fails. -/
theorem raised (h : Escapes t spec e timetable f) {room : Room} {value : Value}
    (hread : Endpoint.read room value = .ok e) (hopen : t.closed = false) (huntraced : t.settings.trace = false) :
    (t.dispatch spec e).2 = .error f ∨
      ∃ pending time g, (t.dispatch spec e).2 = .ok pending ∧ timetable pending.number = .ends time (.fails g) ∧
        g.SurfacesAs f := by
  cases h with
  | @query why url hquery hurl hkind =>
    refine .inl ?_
    have haddress : spec.address t.room e = .error (.external why) := by
      rw [RequestSpec.address, RequestSpec.addressOf, hquery]
      dsimp only
      rw [RequestSpec.noParameters, hurl]
      dsimp only
      rw [if_neg (Bool.eq_false_iff.1 hkind)]
    rw [Transport.dispatch_of_address_error haddress]
    rfl
  | formText haddress hform hwhy =>
    refine .inl ?_
    rw [Transport.dispatch_of_body_error haddress (RequestSpec.body_of_writeForm_eq_error hform hwhy)]
    rfl
  | formValue haddress hform hwhy =>
    refine .inl ?_
    rw [Transport.dispatch_of_body_error haddress (RequestSpec.body_of_writeForm_eq_error hform hwhy)]
    rfl
  | document haddress hform hdocument hdeep =>
    refine .inl ?_
    rw [Transport.dispatch_of_body_error haddress (RequestSpec.body_of_toJson_eq_error hform hdocument hdeep)]
    rfl
  | credentials haddress hbody hwhy =>
    refine .inl ?_
    rw [Transport.dispatch_eq_issue haddress hbody]
    simp only [Transport.issue, hopen, hwhy, Bool.false_eq_true, if_false]
    rfl
  | tooLong haddress hbody hheaders hlong =>
    refine .inl ?_
    rw [Transport.snd_dispatch_of_headers hread hopen huntraced haddress hbody hheaders, if_pos hlong]
  | header haddress hbody hheaders hshort hwhy =>
    refine .inl ?_
    rw [Transport.snd_dispatch_of_headers hread hopen huntraced haddress hbody hheaders,
      if_neg (Nat.not_lt.2 hshort), hwhy]
  -- all other ways come before anything is handed over
  | exchange hwaits hends hsurfaces => exact .inr ⟨_, _, _, hwaits, hends, hsurfaces⟩

end Escapes

namespace Client

variable {c : Client} {spec : RequestSpec} {e : Endpoint} {timetable : Timetable}

theorem dispatchOne_of_error {f : Failure} (h : (c.transport.dispatch spec e).2 = .error f) :
    (c.dispatchOne spec e timetable).2 = some (.raised f) := by
  unfold dispatchOne
  generalize c.transport.dispatch spec e = made at h
  obtain ⟨t, result⟩ := made
  subst h
  rfl

theorem dispatchOne_of_never {pending : Pending} (h : (c.transport.dispatch spec e).2 = .ok pending)
    (hnever : timetable pending.number = .never) : (c.dispatchOne spec e timetable).2 = none := by
  unfold dispatchOne
  generalize c.transport.dispatch spec e = made at h
  obtain ⟨t, result⟩ := made
  subst h
  dsimp only
  rw [hnever]

theorem dispatchOne_of_ends {pending : Pending} (h : (c.transport.dispatch spec e).2 = .ok pending) {time : Nat}
    {a : Answer} (hends : timetable pending.number = .ends time a) :
    (c.dispatchOne spec e timetable).2 =
      some ((c.transport.dispatch spec e).1.conclude spec e pending.request a).2 := by
  unfold dispatchOne
  generalize c.transport.dispatch spec e = made at h
  obtain ⟨t, result⟩ := made
  subst h
  dsimp only
  rw [hends]

/-- A call has failed before its request waited, has no answer, or has taken one. Nothing else happens to a call
to a single member: there is no other member to turn to, and nobody who hears of it. -/
theorem dispatchOne_cases (c : Client) (spec : RequestSpec) (e : Endpoint) (timetable : Timetable) :
    (∃ f, (c.transport.dispatch spec e).2 = .error f ∧ (c.dispatchOne spec e timetable).2 = some (.raised f)) ∨
      ∃ pending, (c.transport.dispatch spec e).2 = .ok pending ∧
        ((timetable pending.number = .never ∧ (c.dispatchOne spec e timetable).2 = none) ∨
          ∃ time a, timetable pending.number = .ends time a ∧
            (c.dispatchOne spec e timetable).2 =
              some ((c.transport.dispatch spec e).1.conclude spec e pending.request a).2) := by
  cases h : (c.transport.dispatch spec e).2 with
  | error f => exact .inl ⟨f, rfl, dispatchOne_of_error h⟩
  | ok pending =>
    refine .inr ⟨pending, rfl, ?_⟩
    cases hcourse : timetable pending.number with
    | never => exact .inl ⟨rfl, dispatchOne_of_never h hcourse⟩
    | ends time a => exact .inr ⟨time, a, rfl, dispatchOne_of_ends h hcourse⟩

/-- A call that does not end has a request that is never answered. -/
theorem pending_of_dispatchOne_eq_none (h : (c.dispatchOne spec e timetable).2 = none) :
    ∃ pending, (c.transport.dispatch spec e).2 = .ok pending ∧ timetable pending.number = .never := by
  rcases c.dispatchOne_cases spec e timetable with
    ⟨f, -, hresult⟩ | ⟨pending, hwaits, ⟨hnever, -⟩ | ⟨time, a, -, hresult⟩⟩
  · rw [hresult] at h
    cases h
  · exact ⟨pending, hwaits, hnever⟩
  · rw [hresult] at h
    cases h

/-- What is no failure has come of an answer. -/
theorem conclude_of_dispatchOne {outcome : Outcome Response}
    (h : (c.dispatchOne spec e timetable).2 = some outcome) (hnot : ∀ f, outcome ≠ .raised f) :
    ∃ (pending : Pending) (time : Nat) (a : Answer), timetable pending.number = .ends time a ∧
      ((c.transport.dispatch spec e).1.conclude spec e pending.request a).2 = outcome := by
  rcases c.dispatchOne_cases spec e timetable with
    ⟨f, -, hresult⟩ | ⟨pending, -, ⟨-, hresult⟩ | ⟨time, a, hends, hresult⟩⟩
  · rw [hresult] at h
    exact absurd (Option.some.inj h).symm (hnot f)
  · rw [hresult] at h
    cases h
  · rw [hresult] at h
    exact ⟨pending, time, a, hends, Option.some.inj h⟩

/-- A document that cannot be written is put down to the member, unless it goes too deep. -/
theorem dispatchOne_of_unwritable {url : Text} {document : Value} {why : Unwritable}
    (haddress : spec.address c.room e = .ok url) (hform : spec.form = none) (hdocument : spec.document = some document)
    (hwhy : document.toJson c.room.sent = .error why) (hdepth : why ≠ .depth) :
    (c.dispatchOne spec e timetable).2 =
      some (.raised (.endpoint (.body (.found (.request why))) (some e))) := by
  have hbody := RequestSpec.body_of_toJson_eq_error hform hdocument hwhy
  rw [RequestSpec.unwritten_of_ne hdepth] at hbody
  have hfails : (c.transport.dispatch spec e).2 =
      .error (.endpoint (.body (.found (.request why))) (some e)) := by
    rw [Transport.dispatch_of_body_error haddress hbody]
    rfl
  exact dispatchOne_of_error hfails

end Client

/-- What an exchange comes to, if it comes to an end, is a reply or a failure of its own. -/
def Timetable.IsGenuine (timetable : Timetable) : Prop :=
  ∀ n time a, timetable n = .ends time a → a.IsGenuine

section Outcome

variable {room : Room} {value : Value} {e : Endpoint} {c : Client} {spec : RequestSpec} {timetable : Timetable}

/-- **A failure is put down to the member or escapes**, and each way to escape is one of those that are listed.
The cases follow the attempt: its request, and what is made of its answer. -/
theorem escapes_of_dispatchOne (hread : Endpoint.read room value = .ok e) (hopen : c.transport.closed = false)
    (huntraced : c.transport.settings.trace = false) (hgenuine : timetable.IsGenuine) {f : Failure}
    (hf : (c.dispatchOne spec e timetable).2 = some (.raised f)) :
    f.IsPutDownTo e ∨ Escapes c.transport spec e timetable f := by
  rcases c.dispatchOne_cases spec e timetable with
    ⟨f', hfails, hresult⟩ | ⟨pending, hwaits, ⟨-, hresult⟩ | ⟨time, a, hends, hresult⟩⟩
  · rw [hresult] at hf
    cases hf
    exact Transport.escapes_of_dispatch hread hopen huntraced hfails timetable
  · rw [hresult] at hf
    cases hf
  · rw [hresult] at hf
    have hsettings : (c.transport.dispatch spec e).1.settings.trace = false := by
      rw [Transport.settings_dispatch, huntraced]
    rcases Transport.surfaces_of_conclude hsettings (hgenuine _ _ _ hends) (Option.some.inj hf) with
      hput | ⟨g, rfl, hsurfaces⟩
    · exact .inl hput
    · exact .inr (.exchange hwaits hends hsurfaces)

/-- **Whatever is listed escapes**: each of those ways is how the attempt fails. -/
theorem dispatchOne_of_escapes (hread : Endpoint.read room value = .ok e) (hopen : c.transport.closed = false)
    (huntraced : c.transport.settings.trace = false) {f : Failure}
    (hf : Escapes c.transport spec e timetable f) :
    (c.dispatchOne spec e timetable).2 = some (.raised f) := by
  rcases hf.raised hread hopen huntraced with hfails | ⟨pending, time, g, hwaits, hends, hsurfaces⟩
  · exact Client.dispatchOne_of_error hfails
  · rw [Client.dispatchOne_of_ends hwaits hends, Transport.conclude_of_surfacesAs hsurfaces]

/-- **What comes out of a call against a member**: nothing as long as the exchange has not ended; a response,
which names the member; or a failure. A failure is put down to the member unless it is one of those that
`Escapes` lists, and these are raised as they are. A document that cannot be written is the member's, unless it goes
too deep. -/
theorem dispatch_outcome (hread : Endpoint.read room value = .ok e) (hopen : c.transport.closed = false)
    (huntraced : c.transport.settings.trace = false) (hgenuine : timetable.IsGenuine) :
    ((c.dispatchOne spec e timetable).2 = none →
        ∃ pending, (c.transport.dispatch spec e).2 = .ok pending ∧ timetable pending.number = .never) ∧
      (c.dispatchOne spec e timetable).2 ≠ some .cancelled ∧
      (∀ response, (c.dispatchOne spec e timetable).2 = some (.returned response) → response.endpoint = e) ∧
      (∀ f, (c.dispatchOne spec e timetable).2 = some (.raised f) ∧ ¬f.IsPutDownTo e ↔
        Escapes c.transport spec e timetable f) ∧
      (∀ url document why, spec.address c.room e = .ok url → spec.form = none → spec.document = some document →
        document.toJson c.room.sent = .error why → why ≠ .depth →
          (c.dispatchOne spec e timetable).2 =
            some (.raised (.endpoint (.body (.found (.request why))) (some e)))) := by
  refine ⟨Client.pending_of_dispatchOne_eq_none, fun hcancelled => ?_, fun response hreturned => ?_,
    fun f => ⟨fun ⟨hraised, hnot⟩ => ?_, fun hf => ?_⟩, ?_⟩
  · obtain ⟨pending, time, a, hends, hconcluded⟩ := Client.conclude_of_dispatchOne hcancelled nofun
    obtain rfl := Transport.cancelled_of_conclude hconcluded
    exact hgenuine _ _ _ hends
  · obtain ⟨pending, time, a, -, hconcluded⟩ := Client.conclude_of_dispatchOne hreturned nofun
    obtain ⟨-, -, -, hendpoint⟩ := Transport.reply_of_conclude hconcluded
    exact hendpoint
  · exact (escapes_of_dispatchOne hread hopen huntraced hgenuine hraised).resolve_left hnot
  · exact ⟨dispatchOne_of_escapes hread hopen huntraced hf, hf.not_isPutDownTo⟩
  · intro url document why haddress hform hdocument hwhy hdepth
    exact Client.dispatchOne_of_unwritable haddress hform hdocument hwhy hdepth

end Outcome

/-- A member that answers at once, and whose answer is returned: the reply has a good status and nothing is
expected of its body. -/
theorem dispatch_outcome_answered :
    Endpoint.read .usual (.text "http://etcd1:2379") = .ok ⟨"http://etcd1:2379"⟩ ∧
      Client.ofTwo.transport.closed = false ∧ Client.ofTwo.transport.settings.trace = false ∧
      Timetable.IsGenuine (fun _ => .ends 0 (.reply ⟨200, [], []⟩)) ∧
      ∃ response, (Client.ofTwo.dispatchOne (.get "/version") ⟨"http://etcd1:2379"⟩
        fun _ => .ends 0 (.reply ⟨200, [], []⟩)).2 = some (.returned response) ∧
          response.endpoint = ⟨"http://etcd1:2379"⟩ := by
  have hread : Endpoint.read .usual (.text "http://etcd1:2379") = .ok ⟨"http://etcd1:2379"⟩ := by rfl
  have hgenuine : Timetable.IsGenuine (fun _ => .ends 0 (.reply ⟨200, [], []⟩)) := by
    intro n time a ha
    cases ha
    trivial
  have hreturned : (Client.ofTwo.dispatchOne (.get "/version") ⟨"http://etcd1:2379"⟩
      fun _ => .ends 0 (.reply ⟨200, [], []⟩)).2 =
      some (.returned ⟨.nothing, ClusterInfo.ofHeaders [], ⟨"http://etcd1:2379"⟩⟩) := by rfl
  have hopen : Client.ofTwo.transport.closed = false := rfl
  have huntraced : Client.ofTwo.transport.settings.trace = false := rfl
  refine ⟨hread, hopen, huntraced, hgenuine, _, hreturned, ?_⟩
  exact (dispatch_outcome hread hopen huntraced hgenuine).2.2.1 _ hreturned

/-- A value that has no octets is put down to nobody. -/
theorem surrogate_in_form_escapes :
    (Client.ofTwo.dispatchOne
        { RequestSpec.get "v2/keys/foo" with
          method := "PUT", form := some [(Text.ofString "value", .text [0xD800])] }
        ⟨"http://etcd1:2379"⟩ fun _ => .never).2 =
      some (.raised (.unencodable ⟨.utf8, 0, [0xD800]⟩)) := by
  rfl

end ClusterClient
