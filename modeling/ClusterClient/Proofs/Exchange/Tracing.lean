import ClusterClient.Proofs.Console.Showing
import ClusterClient.Proofs.Exchange.Dispatch

/-!
# What tracing changes

A transport that prints hands over the same requests and gives the same outcomes as one that does not, as
long as everything that it prints can be shown. Addresses, methods and messages are printed as markup, and bodies are
laid out for which there has to be room. The first part that cannot be shown fails the request in place of its outcome,
and may keep it from being handed over.

## The architecture

* **`Exchange`**, **`Transport.exchange`**: a request from its making to its outcome.
* **`Transport.prepare`**: a request as it is made, before it is printed and handed over (**`issue_eq`**).
* **`Request.concludes`**: what comes of an answer by itself. A transport that prints gives the same, unless
  the trace of the answer cannot be shown (**`receive_cases`**).
* **`Exchange.shownBy`**: the parts of all that is printed, in order. **`tracing_changes_nothing_that_is_shown`**
  is the law.
-/

namespace ClusterClient

open Console (Part firstFault)
open Console.Markup (isTagless)

/-- A request, and what comes back for it. -/
structure Exchange where
  method : Text
  url : Text
  headers : Headers
  content : Content
  longPoll : Bool
  answer : Answer

/-- What comes of an answer to a request. -/
def Request.concludes (r : Request) : Answer → Outcome Reply
  | .reply reply => .returned reply
  | .fails (.external e) => .raised (if e.kind.isNetwork then Transport.networkFault r e else .external e)
  | .fails (.mute kind why) => .raised (if kind.isNetwork then why else .mute kind why)
  | .fails f => .raised f
  | .cancelled => .cancelled

/-- The parts of a trace of an answer that are in doubt. -/
def Request.answerParts (r : Request) : Answer → List Part
  | .reply reply => Console.Trace.responseParts r.url reply.body
  | .fails (.external e) =>
    if e.kind.isNetwork then Console.Trace.errorParts r.method r.url e.kind.name e.message else []
  | _ => []

/-- This failure comes back, or stands behind an error that comes back and has no message. -/
def Answer.Brings (a : Answer) (f : Failure) : Prop := a = .fails f ∨ ∃ kind, a = .fails (.mute kind f)

namespace Transport

/-- A request is made and handed over, and its answer is taken. -/
def exchange (t : Transport) (x : Exchange) : Transport × Outcome Reply :=
  match t.issue x.method x.url x.headers x.content x.longPoll with
  | (t, .error f) => (t, .raised f)
  | (t, .ok pending) => t.receive pending.request x.answer

/-- The transport as it would be without tracing. -/
def silent (t : Transport) : Transport := { t with settings := { t.settings with trace := false } }

/-- A request as it is made, if it can be. -/
def prepare (t : Transport) (x : Exchange) : Except Failure Request :=
  if t.closed then .error .transportClosed
  else
    match t.settings.headersFor x.headers with
    | .error e => .error (.unencodable e)
    | .ok headers =>
      match x.content.encoded with
      | .error e => .error (.unencodable e)
      | .ok body => .ok ⟨x.method, x.url, headers, body, x.longPoll⟩

/-- A request is made with the method and the address of the exchange, and with the octets of its content. -/
theorem of_prepare {t : Transport} {x : Exchange} {r : Request} (h : t.prepare x = .ok r) :
    r.method = x.method ∧ r.url = x.url ∧ x.content.encoded = .ok r.body := by
  unfold prepare at h
  split at h
  · cases h
  · split at h
    · cases h
    · split at h
      · cases h
      · next body hbody =>
        obtain rfl := Except.ok.inj h
        exact ⟨rfl, rfl, hbody⟩

/-- The transport after these lines have been printed. -/
def printing (t : Transport) (lines : List Text) : Transport := { t with console := t.console ++ lines }

/-- What is printed of a request. -/
def requestTrace (room : Room) (r : Request) : Console.Printed :=
  Console.Trace.request room consoleWidth r.method r.url r.headers (r.body.getD [])

variable {t : Transport} {x : Exchange} {r : Request}

/-- A request is issued in three steps: it is made, printed, and handed over. `Transport.issue` takes them in
one go. -/
theorem issue_eq (t : Transport) (x : Exchange) :
    t.issue x.method x.url x.headers x.content x.longPoll =
      match t.prepare x with
      | .error f => (t, .error f)
      | .ok r =>
        match t.print (requestTrace t.room r) with
        | (t, .error f) => (t, .error f)
        | (t, .ok ()) => t.hand r := by
  unfold issue prepare
  cases t.closed with
  | true => rfl
  | false =>
    cases t.settings.headersFor x.headers with
    | error e => rfl
    | ok headers =>
      cases x.content.encoded with
      | error e => rfl
      | ok body => rfl

/-- A trace is printed to its end, or as far as what stops it. What was printed before it stopped stays printed.
-/
theorem print_cases (htrace : t.settings.trace = true) (trace : Console.Printed) :
    (trace.stopped = none ∧ t.print trace = (t.printing trace.lines, .ok ())) ∨
      ∃ why, trace.stopped = some why ∧ t.print trace = (t.printing trace.lines, .error why.failure) := by
  rw [print, if_pos htrace]
  cases trace.stopped with
  | none => exact .inl ⟨rfl, rfl⟩
  | some why => exact .inr ⟨why, rfl, rfl⟩

theorem print_silent (t : Transport) (trace : Console.Printed) : t.silent.print trace = (t.silent, .ok ()) := rfl

/-- **An answer comes to what it comes to by itself**, unless its trace cannot be shown. What has been printed of it by
then stays printed. -/
theorem receive_cases (htrace : t.settings.trace = true) (r : Request) (a : Answer) :
    ∃ shown,
      (firstFault t.room (r.answerParts a) = none ∧ t.receive r a = (t.printing shown, r.concludes a)) ∨
        ∃ why, firstFault t.room (r.answerParts a) = some why ∧
          t.receive r a = (t.printing shown, .raised why.failure) := by
  -- an answer of which nothing is printed
  have hsame {a : Answer} (hparts : r.answerParts a = []) (hreceive : t.receive r a = (t, r.concludes a)) :
      ∃ shown, (firstFault t.room (r.answerParts a) = none ∧ t.receive r a = (t.printing shown, r.concludes a)) ∨
        ∃ why, firstFault t.room (r.answerParts a) = some why ∧
          t.receive r a = (t.printing shown, .raised why.failure) :=
    ⟨[], .inl ⟨by rw [hparts]; rfl, by rw [hreceive, printing, List.append_nil]⟩⟩
  cases a with
  | reply reply =>
    have hstopped := Console.Trace.stopped_response t.room consoleWidth r.url reply.status reply.headers
      reply.body
    obtain ⟨hnone, hprint⟩ | ⟨why, hsome, hprint⟩ := print_cases htrace
      (Console.Trace.response t.room consoleWidth r.url reply.status reply.headers reply.body)
    · exact ⟨_, .inl ⟨hstopped.symm.trans hnone, by rw [receive, hprint]; rfl⟩⟩
    · exact ⟨_, .inr ⟨why, hstopped.symm.trans hsome, by rw [receive, hprint]⟩⟩
  | cancelled => exact hsame rfl rfl
  | fails f =>
    cases f with
    | external e =>
      cases hnetwork : e.kind.isNetwork with
      | false => exact hsame (by simp [Request.answerParts, hnetwork]) (by simp [receive, Request.concludes, hnetwork])
      | true =>
        have hparts : r.answerParts (.fails (.external e)) =
            Console.Trace.errorParts r.method r.url e.kind.name e.message := by
          simp [Request.answerParts, hnetwork]
        have hconcludes : r.concludes (.fails (.external e)) = .raised (networkFault r e) := by
          simp [Request.concludes, hnetwork]
        have hstopped := Console.Trace.stopped_error t.room consoleWidth r.method r.url e.kind.name e.message
        rw [hparts, hconcludes, ← hstopped]
        obtain ⟨hnone, hprint⟩ | ⟨why, hsome, hprint⟩ := print_cases htrace
          (Console.Trace.error consoleWidth r.method r.url e.kind.name e.message)
        · exact ⟨_, .inl ⟨hnone, by rw [receive, if_pos hnetwork, hprint]⟩⟩
        · exact ⟨_, .inr ⟨why, hsome, by rw [receive, if_pos hnetwork, hprint]⟩⟩
    | mute kind why =>
      refine hsame rfl ?_
      cases hnetwork : kind.isNetwork <;> simp [receive, Request.concludes, hnetwork]
    | _ => exact hsame rfl rfl

/-- **Without tracing an answer comes to what it comes to by itself.** -/
theorem receive_silent (t : Transport) (r : Request) (a : Answer) :
    t.silent.receive r a = (t.silent, r.concludes a) := by
  cases a with
  | fails f =>
    cases f with
    | external e =>
      cases hnetwork : e.kind.isNetwork <;> simp [receive, Request.concludes, hnetwork, print_silent]
    | mute kind why => cases hnetwork : kind.isNetwork <;> simp [receive, Request.concludes, hnetwork]
    | _ => rfl
  | _ => rfl

end Transport

/-- What is in doubt of all that is printed of an exchange, in order: the parts of the request if it can be made, and
those of its answer if it can be sent. -/
def Exchange.shownBy (x : Exchange) (t : Transport) : List Part :=
  match t.prepare x with
  | .error _ => []
  | .ok r =>
    Console.Trace.requestParts r.method r.url (r.body.getD []) ++
      match r.check with
      | .error _ => []
      | .ok () => r.answerParts x.answer

namespace Transport

variable {t : Transport} {x : Exchange} {r : Request}

/-- A request that cannot be made fails with that, and nothing has been printed. -/
theorem exchange_of_error {f : Failure} (h : t.prepare x = .error f) : t.exchange x = (t, .raised f) := by
  rw [exchange, issue_eq, h]

/-- What comes of a request that has been handed over, and of its answer. -/
def outcomeOf (r : Request) (a : Answer) : Outcome Reply :=
  match r.check with
  | .error f => .raised f
  | .ok () => r.concludes a

/-- Without tracing, every request that can be made is handed over. -/
theorem exchange_silent (h : t.prepare x = .ok r) :
    t.silent.exchange x = (t.silent.handing [r], outcomeOf r x.answer) := by
  have hprepare : t.silent.prepare x = .ok r := h
  rw [exchange, issue_eq, hprepare]
  simp only [print_silent, hand, outcomeOf]
  cases r.check with
  | error f => rfl
  | ok _ => exact receive_silent (t.handing [r]) r x.answer

/-- **With tracing, a request that can be made has the same outcome**, unless something that is printed of
it cannot be shown. The request is printed first, and its answer after it has been handed over. -/
theorem exchange_traced (htrace : t.settings.trace = true) (h : t.prepare x = .ok r) :
    (∃ shown, firstFault t.room (x.shownBy t) = none ∧
        t.exchange x = ((t.handing [r]).printing shown, outcomeOf r x.answer)) ∨
      ∃ why, firstFault t.room (x.shownBy t) = some why ∧ (t.exchange x).2 = .raised why.failure := by
  have hrequest : (requestTrace t.room r).stopped = firstFault t.room _ := Console.Trace.stopped_request _ _ _ _ _ _
  rw [exchange, issue_eq, Exchange.shownBy, h]
  simp only [Console.firstFault_append, ← hrequest, outcomeOf, hand]
  -- a request that cannot be shown is never handed over
  obtain ⟨hnone, hprint⟩ | ⟨why, hsome, hprint⟩ := print_cases htrace (requestTrace t.room r)
  · rw [hprint, hnone]
    cases hcheck : r.check with
    | error f => exact .inl ⟨(requestTrace t.room r).lines, rfl, rfl⟩
    | ok _ =>
      have htrace' : ((t.handing [r]).printing (requestTrace t.room r).lines).settings.trace = true := htrace
      obtain ⟨more, ⟨hnone, hreceive⟩ | ⟨why, hsome, hreceive⟩⟩ := receive_cases htrace' r x.answer
      · refine .inl ⟨(requestTrace t.room r).lines ++ more, hnone, hreceive.trans ?_⟩
        simp only [printing, List.append_assoc]
      · exact .inr ⟨why, hsome, congrArg Prod.snd hreceive⟩
  · rw [hprint, hsome]
    exact .inr ⟨why, rfl, rfl⟩

/-- By itself, no request comes to what stops a trace, unless that is what comes back for it. Of the failures
that a request can come to, none is a fault of markup or of room. -/
theorem outcomeOf_ne_failure {a : Answer} {why : Console.Unprintable} (ha : ¬a.Brings why.failure) :
    outcomeOf r a ≠ .raised why.failure := by
  -- a request that is refused is so for its address
  have hcheck {f : Failure} (h : r.check = .error f) : f ≠ why.failure := by
    unfold Request.check at h
    split at h
    · cases h
      cases why <;> exact nofun
    · split at h
      · cases h
        cases why <;> exact nofun
      · cases h
  unfold outcomeOf
  cases h : r.check with
  | error f => exact fun heq => hcheck h (Outcome.raised.inj heq)
  | ok _ =>
    intro hraised
    cases a with
    | fails f =>
      cases f with
      | external e =>
        cases hnetwork : e.kind.isNetwork with
        | false =>
          simp only [Request.concludes, hnetwork] at hraised
          exact ha (.inl (congrArg Answer.fails (Outcome.raised.inj hraised)))
        | true =>
          simp only [Request.concludes, hnetwork, networkFault] at hraised
          cases why <;> cases hraised
      | mute kind behind =>
        cases hnetwork : kind.isNetwork with
        | false =>
          simp only [Request.concludes, hnetwork] at hraised
          cases why <;> cases hraised
        | true =>
          simp only [Request.concludes, hnetwork] at hraised
          exact ha (.inr ⟨kind, by rw [← Outcome.raised.inj hraised]; rfl⟩)
      | _ => exact ha (.inl (congrArg Answer.fails (Outcome.raised.inj hraised)))
    | _ => cases hraised

end Transport

/-! ## Exchanges that can be shown -/

/-- The name of no kind of error holds a tag. -/
theorem ExternalKind.isTagless_name (kind : ExternalKind) : isTagless kind.name := by
  cases kind <;> decide

/-- Neither the method nor the address nor the message of an error holds a tag. -/
def Exchange.IsTagless (x : Exchange) : Prop :=
  isTagless x.method ∧ isTagless x.url ∧
    ∀ e : External, x.answer = .fails (.external e) → isTagless e.message

/-- A body that is a text has the room that it takes to show it. -/
def Octets.HasRoom (room : Room) (body : Octets) : Prop :=
  ∀ t, Text.ofUtf8? body = some t → Console.BodyText.IsWithin room t

/-- There is room for what is sent and for what comes back. -/
structure Exchange.HasRoom (x : Exchange) (room : Room) : Prop where
  content : ∀ body, x.content.encoded = .ok (some body) → Octets.HasRoom room body
  reply : ∀ reply, x.answer = .reply reply → Octets.HasRoom room reply.body

theorem Octets.hasRoom_nil (room : Room) : Octets.HasRoom room [] := by
  intro t ht
  obtain rfl : [] = t := Option.some.inj ht
  exact ⟨rfl, fun document hdocument => nomatch hdocument⟩

/-- Everything that is printed of an answer can be shown, if no tag stands in it and there is room for its body.
-/
theorem Request.firstFault_answerParts {r : Request} {a : Answer} {room : Room} (hmethod : isTagless r.method)
    (hurl : isTagless r.url) (hmessage : ∀ e : External, a = .fails (.external e) → isTagless e.message)
    (hreply : ∀ reply, a = .reply reply → Octets.HasRoom room reply.body) :
    firstFault room (r.answerParts a) = none := by
  have hnothing : firstFault room [] = none := rfl
  unfold answerParts
  split
  · next reply => exact Console.Trace.firstFault_responseParts hurl (hreply reply rfl)
  · next e =>
    split
    · exact Console.Trace.firstFault_errorParts hmethod hurl e.kind.isTagless_name (hmessage e rfl)
    · exact hnothing
  · exact hnothing

/-- **Everything that is printed of such an exchange can be shown**: no tag stands in it, and there is room for its
bodies. -/
theorem Exchange.IsTagless.firstFault_shownBy {x : Exchange} (h : x.IsTagless) {t : Transport}
    (hroom : x.HasRoom t.room) : firstFault t.room (x.shownBy t) = none := by
  obtain ⟨hmethod, hurl, hmessage⟩ := h
  unfold shownBy
  cases hprepare : t.prepare x with
  | error f => rfl
  | ok r =>
    obtain ⟨hmethod', hurl', hcontent⟩ := Transport.of_prepare hprepare
    rw [← hmethod'] at hmethod
    rw [← hurl'] at hurl
    have hbody : Octets.HasRoom t.room (r.body.getD []) := by
      cases hoctets : r.body with
      | none => exact Octets.hasRoom_nil t.room
      | some body => exact hroom.content body (hcontent.trans (congrArg Except.ok hoctets))
    -- a request that is refused has no answer to be shown
    have hanswer : firstFault t.room
        (match r.check with | .error _ => [] | .ok () => r.answerParts x.answer) = none := by
      split
      · rfl
      · exact Request.firstFault_answerParts hmethod hurl hmessage hroom.reply
    refine (Console.firstFault_append _ _ _).trans ?_
    rw [Console.Trace.firstFault_requestParts hmethod hurl hbody, hanswer]
    rfl

/-- **Tracing changes nothing that can be shown.** If everything that is printed of an exchange can be shown, its texts
in markup and its bodies, a transport that prints does the same as one that does not: its requests, their outcomes and
its state differ in what is printed only. Otherwise the request fails by the first part that cannot be shown, which it
never does without tracing, unless that very failure comes back for it. Everything can be shown if neither the method
nor the address nor the message of an error holds a tag, and if there is room for what is sent and for what comes
back. -/
theorem tracing_changes_nothing_that_is_shown (t : Transport) (x : Exchange)
    (htrace : t.settings.trace = true) :
    (firstFault t.room (x.shownBy t) = none → ∃ lines, t.exchange x =
      ({ (t.silent.exchange x).1 with settings := t.settings, console := t.console ++ lines },
        (t.silent.exchange x).2)) ∧
    (∀ why, firstFault t.room (x.shownBy t) = some why → (t.exchange x).2 = .raised why.failure ∧
      (¬x.answer.Brings why.failure → (t.silent.exchange x).2 ≠ .raised why.failure)) ∧
    (x.IsTagless → x.HasRoom t.room → firstFault t.room (x.shownBy t) = none) := by
  refine ⟨fun hnone => ?_, fun why hsome => ?_, fun h hroom => h.firstFault_shownBy hroom⟩
  · cases hprepare : t.prepare x with
    | error f =>
      -- nothing is printed of a request that cannot be made
      have hsilent : t.silent.prepare x = .error f := hprepare
      refine ⟨[], ?_⟩
      rw [Transport.exchange_of_error hprepare, Transport.exchange_of_error hsilent, List.append_nil]
      rfl
    | ok r =>
      obtain ⟨lines, -, hexchange⟩ | ⟨why, hsome, -⟩ := Transport.exchange_traced htrace hprepare
      · exact ⟨lines, by rw [hexchange, Transport.exchange_silent hprepare]; rfl⟩
      · rw [hnone] at hsome
        cases hsome
  · cases hprepare : t.prepare x with
    | error f =>
      rw [Exchange.shownBy, hprepare] at hsome
      cases hsome
    | ok r =>
      obtain ⟨lines, hnone, -⟩ | ⟨why', hsome', hraised⟩ := Transport.exchange_traced htrace hprepare
      · rw [hsome] at hnone
        cases hnone
      · obtain rfl := Option.some.inj (hsome.symm.trans hsome')
        refine ⟨hraised, fun hanswer => ?_⟩
        rw [Transport.exchange_silent hprepare]
        exact Transport.outcomeOf_ne_failure hanswer

def Transport.tracing : Transport := .fresh .usual ⟨[⟨"http://etcd1:2379"⟩], none, .standard, [], true, true⟩

/-- A request for which no connection is made, for the reason that is given. -/
def Exchange.unconnected (why : Text) : Exchange :=
  ⟨"GET", "http://etcd1:2379/v2/keys/foo", [], .nothing, false, .fails (.external ⟨.connectError, why⟩)⟩

def Request.unconnected : Request :=
  ⟨"GET", "http://etcd1:2379/v2/keys/foo", [("accept", "application/json")], none, false⟩

theorem Transport.prepare_unconnected (why : Text) :
    tracing.prepare (.unconnected why) = .ok .unconnected := rfl

theorem Request.check_unconnected : unconnected.check = .ok () :=
  Console.Markup.eq_ok_of_toOption (by decide +kernel : unconnected.check.toOption = some ())

/-- It has no body, and nor has what comes back for it. -/
theorem Exchange.hasRoom_unconnected (why : Text) (room : Room) : (unconnected why).HasRoom room where
  content _ hbody := nomatch hbody
  reply _ hreply := nomatch hreply

/-- A closing tag in the message of the error has nothing to close. -/
theorem firstFault_unconnected :
    firstFault .usual ((Exchange.unconnected "lost [/]").shownBy .tracing) = some (.markup (.nothingOpen 39)) := by
  decide +kernel

/-- A request that fails as it would without tracing, and one that does not: the messages of the two errors
differ in that the second has a closing tag in it, with nothing to close. -/
theorem tracing_changes_nothing_that_is_shown_unconnected :
    Transport.tracing.settings.trace = true ∧ (Exchange.unconnected "refused").IsTagless ∧
      (Exchange.unconnected "refused").HasRoom Transport.tracing.room ∧
      (Transport.tracing.exchange (.unconnected "refused")).2 =
        (Transport.tracing.silent.exchange (.unconnected "refused")).2 ∧
      firstFault .usual ((Exchange.unconnected "lost [/]").shownBy .tracing) = some (.markup (.nothingOpen 39)) ∧
      (Transport.tracing.exchange (.unconnected "lost [/]")).2 = .raised (.markup (.nothingOpen 39)) := by
  have htagless : (Exchange.unconnected "refused").IsTagless := by
    refine ⟨by decide, by decide, fun e he => ?_⟩
    cases he
    decide
  have hroom := Exchange.hasRoom_unconnected "refused" Transport.tracing.room
  obtain ⟨hshown, -, hnone⟩ :=
    tracing_changes_nothing_that_is_shown .tracing (.unconnected "refused") rfl
  obtain ⟨lines, hexchange⟩ := hshown (hnone htagless hroom)
  obtain ⟨-, hraised, -⟩ := tracing_changes_nothing_that_is_shown .tracing (.unconnected "lost [/]") rfl
  exact ⟨rfl, htagless, hroom, by rw [hexchange], firstFault_unconnected, (hraised _ firstFault_unconnected).1⟩

/-- With tracing, a message with a tag in it hides that no connection was made. The call fails with the error of
the console, which is not a failure of an endpoint, and without tracing it would have failed with that of the
transport. -/
theorem tracing_hides_failure :
    (Transport.tracing.exchange (.unconnected "lost [/]")).2 = .raised (.markup (.nothingOpen 39)) ∧
      (Transport.tracing.silent.exchange (.unconnected "lost [/]")).2 =
        .raised (Transport.networkFault .unconnected ⟨.connectError, "lost [/]"⟩) := by
  have hprepare := Transport.prepare_unconnected "lost [/]"
  have hfault : firstFault Transport.tracing.room _ = _ := firstFault_unconnected
  refine ⟨?_, ?_⟩
  · obtain ⟨lines, hnone, -⟩ | ⟨why, hsome, hraised⟩ := Transport.exchange_traced rfl hprepare
    · rw [hfault] at hnone
      cases hnone
    · obtain rfl := Option.some.inj (hfault.symm.trans hsome)
      exact hraised
  · rw [Transport.exchange_silent hprepare, Transport.outcomeOf, Request.check_unconnected]
    rfl

end ClusterClient
