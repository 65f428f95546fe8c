import ClusterClient.Client.Api
import ClusterClient.Proofs.Client.Sending
import ClusterClient.Proofs.Endpoint.Parameters

/-!
# What calls to the key space send

A call to the key space is told by its arguments. Every request that is handed over for it, to whichever
member, is read as these arguments: each one that was given and no other, with its own text.

## The architecture

* **`KeyCall.arguments`**: the arguments of a call, told apart by their names and not by the kind of the call;
  **`prescribed`** keeps those that are given. This is the other side of `KeyCall.fields`
  (**`texts_fields`**).
* **`Request.fields?`**: what a server reads from a request, be it a form or the query of the address.
* **`fields_of_asks`**: a request of a call is read as the call prescribes.
* **`sends_prescribed`**: so are all requests of a whole call, and a call without a condition that it
  needs sends none.
-/

namespace ClusterClient

/-! ## Arguments -/

namespace KeyCall

/-- The value that is written. -/
def value? : KeyCall → Option Text
  | create _ value _ | createInOrder _ value _ | set _ value _ | update _ value _
  | compareAndSwap _ value _ _ => some value
  | _ => none

/-- How many seconds a key or a directory is to live. -/
def ttl? : KeyCall → Option Int
  | create _ _ ttl | createDir _ ttl | createInOrder _ _ ttl | set _ _ ttl | setDir _ ttl | update _ _ ttl
  | updateDir _ ttl | compareAndSwap _ _ ttl _ => ttl
  | _ => none

/-- Whether what lies below is meant as well. -/
def recursive? : KeyCall → Option Bool
  | get _ options => some options.recursive
  | delete _ recursive => recursive
  | watch _ _ recursive => some recursive
  | _ => none

/-- Whether what is read comes in order. -/
def sorted? : KeyCall → Option Bool
  | get _ options => options.sort
  | _ => none

/-- Whether the members agree before one answers. -/
def asksQuorum : KeyCall → Bool
  | get _ options => options.strongConsistency
  | _ => false

/-- Whether the answer waits for a change. -/
def waits : KeyCall → Bool
  | watch .. => true
  | _ => false

/-- The change that is waited for. -/
def waitIndex? : KeyCall → Option Int
  | watch _ index _ => index
  | _ => none

/-- Whether a directory is meant. -/
def isAboutDir : KeyCall → Bool
  | createDir .. | setDir .. | updateDir .. | deleteDir .. => true
  | _ => false

/-- Whether the key must be there before, if it matters. -/
def prevExist? : KeyCall → Option Bool
  | create .. | createDir .. => some false
  | update .. | updateDir .. => some true
  | _ => none

/-- A truth value as it is sent. -/
def shown (b : Bool) : Text := if b then "true" else "false"

/-- A truth value that is sent only if it holds. -/
def shownIf (b : Bool) : Option Text := if b then some (shown true) else none

/-- The arguments of a kind of call, by name; an argument without a text is not given. -/
abbrev Arguments := List (Text × Option Text)

/-- Those that are given. -/
def Arguments.given (arguments : Arguments) : List (Text × Text) :=
  arguments.filterMap fun argument => argument.2.map fun t => (argument.1, t)

/-- The conditions as arguments. -/
def conditionArguments (conditions : Conditions) : Arguments :=
  [("prevIndex", conditions.modifiedIndex.map Whole.toText), ("prevValue", conditions.value)]

/-- The arguments besides conditions, in the order in which they are sent. -/
def settings (call : KeyCall) : Arguments :=
  [("value", call.value?),
    ("ttl", call.ttl?.map Whole.toText),
    ("recursive", call.recursive?.map shown),
    ("sorted", call.sorted?.map shown),
    ("quorum", shownIf call.asksQuorum),
    ("wait", shownIf call.waits),
    ("waitIndex", call.waitIndex?.map Whole.toText),
    ("dir", shownIf call.isAboutDir),
    ("prevExist", call.prevExist?.map shown)]

/-- All arguments; the conditions come last. -/
def arguments (call : KeyCall) : Arguments :=
  call.settings ++ conditionArguments (call.conditions?.getD ⟨none, none⟩)

/-- What a call is to send, in order. -/
def prescribed (call : KeyCall) : List (Text × Text) := call.arguments.given

/-- The names of the arguments besides conditions. -/
def settingNames : List Text :=
  ["value", "ttl", "recursive", "sorted", "quorum", "wait", "waitIndex", "dir", "prevExist"]

/-- The names of conditions. -/
def conditionNames : List Text := ["prevIndex", "prevValue"]

def isCondition (name : Text) : Bool := conditionNames.contains name

theorem names_settings (call : KeyCall) : call.settings.map Prod.fst = settingNames := rfl

/-- Every call has arguments of the same names in the same order: the settings first, and then the conditions.
-/
theorem names_arguments (call : KeyCall) : call.arguments.map Prod.fst = settingNames ++ conditionNames := rfl

/-- **What a call sends is what its arguments prescribe**, in a query and, if it is a write, in a form: a
form has truth values in words. -/
theorem texts_fields (call : KeyCall) :
    call.fields.map (fun field => (field.1, field.2.toQueryText)) = call.prescribed ∧
      (call.isWrite = true → call.fields.map (fun field => (field.1, field.2.toText)) = call.prescribed) := by
  -- one case for each kind of call, and in it one for each argument that need not be given
  cases call with
  | create key value ttl => cases ttl <;> exact ⟨rfl, fun _ => rfl⟩
  | createDir key ttl => cases ttl <;> exact ⟨rfl, fun _ => rfl⟩
  | createInOrder key value ttl => cases ttl <;> exact ⟨rfl, fun _ => rfl⟩
  | set key value ttl => cases ttl <;> exact ⟨rfl, fun _ => rfl⟩
  | setDir key ttl => cases ttl <;> exact ⟨rfl, fun _ => rfl⟩
  | update key value ttl => cases ttl <;> exact ⟨rfl, fun _ => rfl⟩
  | updateDir key ttl => cases ttl <;> exact ⟨rfl, fun _ => rfl⟩
  | compareAndSwap key value ttl conditions =>
    obtain ⟨value', index⟩ := conditions
    cases ttl <;> cases value' <;> cases index <;> exact ⟨rfl, fun _ => rfl⟩
  | get key options =>
    obtain ⟨recursive, sort, strong⟩ := options
    refine ⟨?_, nofun⟩
    cases recursive <;> cases strong <;> rcases sort with _ | _ | _ <;> rfl
  | delete key recursive => rcases recursive with _ | _ | _ <;> exact ⟨rfl, nofun⟩
  | deleteDir key => exact ⟨rfl, nofun⟩
  | compareAndDelete key conditions =>
    obtain ⟨value, index⟩ := conditions
    cases value <;> cases index <;> exact ⟨rfl, nofun⟩
  | watch key index recursive =>
    refine ⟨?_, nofun⟩
    cases index <;> cases recursive <;> rfl

theorem names_given (arguments : Arguments) :
    (arguments.given.map Prod.fst).Sublist (arguments.map Prod.fst) := by
  induction arguments with
  | nil => exact .slnil
  | cons argument rest ih =>
    obtain ⟨name, _ | t⟩ := argument
    · exact ih.cons name
    · exact ih.cons_cons name

/-- No name is sent twice. -/
theorem nodup_names_fields (call : KeyCall) : (call.fields.map Prod.fst).Nodup := by
  have hnames : call.fields.map Prod.fst = call.prescribed.map Prod.fst := by
    rw [← (texts_fields call).1, List.map_map]
    rfl
  have hsublist := names_given call.arguments
  rw [names_arguments] at hsublist
  rw [hnames]
  exact hsublist.nodup (by decide)

/-- It does not matter whether arguments are picked by name before or after those that are not given are left
out. -/
theorem filter_given (p : Text → Bool) (arguments : Arguments) :
    arguments.given.filter (fun field => p field.1) =
      Arguments.given (arguments.filter fun argument => p argument.1) := by
  induction arguments with
  | nil => rfl
  | cons argument rest ih =>
    obtain ⟨name, t⟩ := argument
    unfold Arguments.given at ih ⊢
    cases hname : p name with
    | true => cases t <;> simp [hname, ih]
    | false => cases t <;> simp [hname, ih]

/-- The conditions that a conditional call prescribes are those it is given, all of them and no other. -/
theorem conditions_prescribed {call : KeyCall} {conditions : Conditions}
    (h : call.conditions? = some conditions) :
    call.prescribed.filter (fun field => isCondition field.1) = (conditionArguments conditions).given := by
  rw [prescribed, filter_given, arguments, h, List.filter_append]
  -- no other argument has the name of a condition, whatever the call
  have hsettings : call.settings.filter (fun argument => isCondition argument.1) = [] := by
    rw [List.filter_eq_nil_iff]
    intro argument hargument
    have hname : argument.1 ∈ settingNames := names_settings call ▸ List.mem_map_of_mem hargument
    have hapart : ∀ name ∈ settingNames, ¬isCondition name = true := by decide
    exact hapart argument.1 hname
  rw [hsettings]
  rfl

end KeyCall

/-! ## Requests as they are read -/

/-- The fields that a server reads from a request: those of the form that is its body, or those of the query
of its address if there is no body. There are none if the body is no text. -/
def Request.fields? (r : Request) : Option (List (Text × Text)) :=
  match r.body with
  | some octets => (Text.ofUtf8? octets).map Form.read
  | none => some (Form.read ((UrlParts.ofText r.url).query.getD []))

/-- The conditions among them. -/
def Request.conditions? (r : Request) : Option (List (Text × Text)) :=
  r.fields?.map fun fields => fields.filter fun field => KeyCall.isCondition field.1

namespace RequestSpec

variable {room : Room}

/-- A value of a form that is written at all is written as its text. The name, the text and its escapes may each
fail, one after the other; past all three the pair is the one of the plain form. -/
theorem writePair_of_writeField {field : Text × Value} {written : Text} (h : writeField room field = .ok written) :
    Form.writePair (field.1, field.2.toText) = .ok written := by
  unfold writeField at h
  split at h
  · cases h
  · next name hname =>
    split at h
    · cases h
    · next t ht =>
      obtain ⟨-, rfl⟩ := Value.text?_eq_ok_iff.1 ht
      split at h
      · cases h
      · next value hvalue =>
        rw [Form.writePair, hname, hvalue]
        exact congrArg Except.ok (Except.ok.inj h)

/-- So is the whole form: the texts of its values are all that there is room to say, or nothing is written. The
parts are joined afterwards in the same way. -/
theorem write_of_writeForm {form : List (Text × Value)} {written : Text} (h : writeForm room form = .ok written) :
    Form.write (form.map fun field => (field.1, field.2.toText)) = .ok written := by
  -- induction on the fields: a field that is written is written with the text of its value
  have hparts {form : List (Text × Value)} {parts : List Text} (h : form.mapM (writeField room) = .ok parts) :
      (form.map fun field => (field.1, field.2.toText)).mapM Form.writePair = .ok parts := by
    induction form generalizing parts with
    | nil =>
      obtain rfl := Except.ok.inj h
      rfl
    | cons field rest ih =>
      rw [List.mapM_cons] at h
      obtain ⟨part, hpart, h⟩ := Except.of_bind h
      obtain ⟨more, hmore, h⟩ := Except.of_bind h
      obtain rfl := Except.ok.inj h
      rw [List.map_cons, List.mapM_cons, writePair_of_writeField hpart, ih hmore]
      rfl
  unfold writeForm at h
  cases hfields : form.mapM (writeField room) with
  | error f =>
    rw [hfields] at h
    cases h
  | ok parts =>
    rw [hfields] at h
    obtain rfl := Except.ok.inj h
    rw [Form.write, hparts hfields]
    rfl

end RequestSpec

/-- The octets of a written form are read as it. Each code point of it is kept as it is, an escape or a
separator, and all of these are ASCII, so that none is half a surrogate pair. -/
theorem ofUtf8?_asciiOctets {pairs : List (Text × Text)} {written : Text}
    (h : Form.write pairs = .ok written) : Text.ofUtf8? (RequestSpec.asciiOctets written) = some written := by
  refine Text.ofUtf8?_utf8 fun c hc => ?_
  have hreach : c.val ≤ 0x7E := by
    rcases Form.isWritten_of_write h c hc with hkept | rfl | rfl
    · simp only [Form.isWritten, Bool.or_eq_true, decide_eq_true_eq] at hkept
      rcases hkept with (hunreserved | rfl) | rfl
      · exact (Percent.val_of_isUnreserved hunreserved).2
      · decide
      · decide
    · decide
    · decide
  rw [CodePoint.isSurrogate, Bool.and_eq_false_iff, decide_eq_false_iff_not]
  exact .inl (by omega)

namespace KeyCall

variable {room : Room} {call : KeyCall}

/-- A write is sent with a form of what the call prescribes. -/
theorem content_of_write (hwrite : call.isWrite = true) {body : Body} (h : call.request.body room = .ok body) :
    ∃ written, Form.write call.prescribed = .ok written ∧
      body.content = some (RequestSpec.asciiOctets written) := by
  have hform : call.request.form = some call.fields := if_pos hwrite
  rw [RequestSpec.body, hform] at h
  dsimp only at h
  split at h
  · next written hwritten =>
    obtain rfl := Except.ok.inj h
    refine ⟨written, ?_, rfl⟩
    rw [← (texts_fields call).2 hwrite]
    exact RequestSpec.write_of_writeForm hwritten
  · cases h

/-- A read is sent without a body. -/
theorem content_of_read (hread : call.isWrite = false) {body : Body} (h : call.request.body room = .ok body) :
    body.content = none := by
  have hform : call.request.form = none := if_neg (Bool.eq_false_iff.1 hread)
  have hdocument : call.request.document = none := rfl
  rw [RequestSpec.body, hform, hdocument] at h
  obtain rfl := Except.ok.inj h
  rfl

/-- Writes have a body, and nothing else has. -/
theorem isSome_body_of_asks {e : Endpoint} {r : Request} (h : call.request.Asks room e r) :
    r.body.isSome = call.isWrite := by
  obtain ⟨body, hbody, hcontent⟩ := h.body
  cases hwrite : call.isWrite with
  | true =>
    obtain ⟨written, -, hsent⟩ := content_of_write hwrite hbody
    rw [hcontent, hsent, Option.isSome_some]
  | false => rw [hcontent, content_of_read hwrite hbody, Option.isSome_none]

/-- **A request of a call is read as the call prescribes**, whoever it goes to. If it is not a write, the
address of the member must not have a mark of a query or a fragment in it. -/
theorem fields_of_asks {e : Endpoint} {r : Request} (h : call.request.Asks room e r)
    (hbare : call.isWrite = true ∨ e.IsBare) : r.fields? = some call.prescribed := by
  obtain ⟨body, hbody, hcontent⟩ := h.body
  cases hwrite : call.isWrite with
  | true =>
    obtain ⟨written, hwritten, hsent⟩ := content_of_write hwrite hbody
    simp only [Request.fields?, hcontent, hsent]
    rw [ofUtf8?_asciiOctets hwritten, Option.map_some, Form.read_of_write hwritten]
  | false =>
    have hread : ¬call.isWrite = true := Bool.eq_false_iff.1 hwrite
    have hquery : call.request.query = call.fields := if_neg hread
    have haddress : RequestSpec.addressOf room e call.request.path call.fields = .ok r.url := hquery ▸ h.address
    simp only [Request.fields?, hcontent, content_of_read hwrite hbody]
    rw [read_query_of_addressOf (hbare.resolve_left hread) (nodup_names_fields call) haddress,
      (texts_fields call).1]

/-- A request carries a call to a member: what is read from it is what the call prescribes. -/
structure CarriedBy (call : KeyCall) (room : Room) (e : Endpoint) (r : Request) : Prop where
  asks : call.request.Asks room e r
  body : r.body.isSome = call.isWrite
  fields : call.isWrite = true ∨ e.IsBare → r.fields? = some call.prescribed
  conditions : call.isWrite = true ∨ e.IsBare → ∀ conditions, call.conditions? = some conditions →
    r.conditions? = some (conditionArguments conditions).given

/-- A request that asks what the call asks carries its arguments. -/
theorem carriedBy_of_asks {e : Endpoint} {r : Request} (h : call.request.Asks room e r) :
    call.CarriedBy room e r where
  asks := h
  body := isSome_body_of_asks h
  fields := fields_of_asks h
  conditions hbare conditions hconditions := by
    rw [Request.conditions?, fields_of_asks h hbare, Option.map_some, conditions_prescribed hconditions]

/-- Without a condition that it needs, a call asks nothing of any member. -/
theorem spec_of_unconditioned (h : call.conditions? = some ⟨none, none⟩) :
    call.spec = .error .conditionsMissing := by
  rw [spec, h]
  rfl

/-- With a condition, or if it needs none, a call asks for what its arguments say. -/
theorem spec_of_conditioned (h : call.conditions? ≠ some ⟨none, none⟩) :
    call.spec = .ok call.request := by
  unfold spec
  split
  · next conditions hconditions =>
    refine if_neg fun hempty => h ?_
    obtain ⟨value, index⟩ := conditions
    simp only [Conditions.isEmpty, Bool.and_eq_true, Option.isNone_iff_eq_none] at hempty
    obtain ⟨rfl, rfl⟩ := hempty
    exact hconditions
  · rfl

end KeyCall

/-! ## Whole calls -/

/-- The call to the key space that a call is, if it is one. -/
def ApiCall.keyCall? : ApiCall → Option KeyCall
  | .key call => some call
  | .watch w => some (.watch w.key w.index w.recursive)
  | _ => none

namespace Client

open Transport (HandsOver)

variable {c : Client} {timetable : Timetable}

/-- The only way for a whole call that has been begun to fail for want of conditions: an exchange fails with what cannot
be shown, and showing it fails like that. -/
theorem FailsWith.hides_of_noConditions {f : Failure} (h : c.FailsWith timetable f) {message : Text}
    (hf : f = .noConditions message) : ∃ number delay g, timetable number = .ends delay (.fails g) ∧ g.Hides f := by
  cases h with
  | unshown hends hides => exact ⟨_, _, _, hends, hides⟩
  | late room limit errors =>
    unfold Failure.ofDeadline at hf
    split at hf <;> cases hf
  | _ => cases hf

/-- A call that ends by failing has failed with what it gives its caller. -/
theorem Given.raised_of_ofResult {result : Result} {f : Failure} (h : (Given.ofResult result).ending = some (.raised f)) :
    result = some (.raised f) := by
  rcases result with _ | response | f' | _
  · cases h
  · cases h
  · exact h
  · cases h

/-- A call that has the condition it needs goes like any whole call. Only a call that compares has conditions,
and it lacks them when it has neither a value nor an index to compare with. -/
theorem handsOver_keyCall (haligned : c.calls.length = c.failover.runs.length) {call : ApiCall} {k : KeyCall}
    (hcall : call.keyCall? = some k) (hconditions : k.conditions? ≠ some ⟨none, none⟩) (timetable : Timetable) :
    let done := c.serve call timetable
    HandsOver (fun r => ∃ e ∈ c.endpoints, k.request.Asks c.room e r) c.transport done.1.transport ∧
      ∀ f, done.2.ending = some (.raised f) → c.FailsWith timetable f := by
  cases call with
  | key call =>
    obtain rfl := Option.some.inj hcall
    have hroute : (ApiCall.key call).route = .ok (.inTurn call.request) := by
      rw [ApiCall.route, KeyCall.spec_of_conditioned hconditions]
      rfl
    rw [serve, hroute]
    exact ⟨handsOver_perform haligned _ timetable,
      fun f hf => failsWith_perform haligned (Given.raised_of_ofResult hf)⟩
  | watch w =>
    -- a watch has no conditions to check: it is a call of its own kind
    obtain rfl := Option.some.inj hcall
    exact ⟨handsOver_watch haligned w timetable,
      fun f hf => failsWith_watch haligned (Given.raised_of_ofResult hf)⟩
  | _ => cases hcall

/-- A call without a condition that it needs is refused before anything is done. -/
theorem serve_of_unconditioned {call : ApiCall} {k : KeyCall} (hcall : call.keyCall? = some k)
    (hconditions : k.conditions? = some ⟨none, none⟩) (timetable : Timetable) (c : Client) :
    c.serve call timetable = (c, ⟨[], some (.raised .conditionsMissing)⟩) := by
  cases call with
  | key call =>
    obtain rfl := Option.some.inj hcall
    rw [serve, ApiCall.route, KeyCall.spec_of_unconditioned hconditions]
    rfl
  | watch w =>
    obtain rfl := Option.some.inj hcall
    cases hconditions
  | _ => cases hcall

/-- **Every request of a call to the key space is read as the arguments of the call**: each argument that is
given and no other, in order, conditions among them. A call without a condition that it needs fails and
hands nothing over, and no other call fails like this, unless showing the error of an exchange does. -/
theorem sends_prescribed (hreachable : c.Reachable) {call : ApiCall} {k : KeyCall} (hcall : call.keyCall? = some k)
    (timetable : Timetable) :
    let done := c.serve call timetable
    (∀ r ∈ c.transport.handedOver done.1.transport, ∃ e ∈ c.endpoints, k.CarriedBy c.room e r) ∧
    (k.conditions? = some ⟨none, none⟩ → done = (c, ⟨[], some (.raised .conditionsMissing)⟩)) ∧
    (∀ message, done.2.ending = some (.raised (.noConditions message)) →
      k.conditions? = some ⟨none, none⟩ ∨
        ∃ number delay f, timetable number = .ends delay (.fails f) ∧ f.Hides (.noConditions message)) := by
  dsimp only
  by_cases hconditions : k.conditions? = some ⟨none, none⟩
  · have hserve := serve_of_unconditioned hcall hconditions timetable c
    refine ⟨fun r hr => ?_, fun _ => hserve, fun _ _ => .inl hconditions⟩
    rw [hserve, Transport.handedOver_of_length_eq rfl] at hr
    exact absurd hr List.not_mem_nil
  · obtain ⟨hsends, hfails⟩ := handsOver_keyCall hreachable.aligned hcall hconditions timetable
    refine ⟨fun r hr => ?_, fun h => absurd h hconditions, fun message hfailed => ?_⟩
    · obtain ⟨e, he, hasks⟩ := hsends.mem_handedOver r hr
      exact ⟨e, he, KeyCall.carriedBy_of_asks hasks⟩
    · exact .inr ((hfails _ hfailed).hides_of_noConditions rfl)

/-- A deletion under two conditions, one of them with marks of a query in its text. -/
def deletionOfTwo : KeyCall := .compareAndDelete "/k" ⟨some "a&b=c d", some 0⟩

/-- Both members are asked, and both requests are read as the two conditions. -/
theorem sends_prescribed_deletion :
    ofTwo.Reachable ∧ (ApiCall.key deletionOfTwo).keyCall? = some deletionOfTwo ∧
      let requests := ofTwo.transport.handedOver (ofTwo.serve (.key deletionOfTwo) refusedThenSilent).1.transport
      let fields : List (Text × Text) := [("prevIndex", "0"), ("prevValue", "a&b=c d")]
      requests.length = 2 ∧ ∀ r ∈ requests, r.fields? = some fields := by
  refine ⟨reachable_ofTwo, rfl, by decide +kernel, fun r hr => ?_⟩
  have hcall : (ApiCall.key deletionOfTwo).keyCall? = some deletionOfTwo := rfl
  obtain ⟨hsends, -⟩ := sends_prescribed reachable_ofTwo hcall refusedThenSilent
  obtain ⟨e, he, hcarried⟩ := hsends r hr
  have hbare : ∀ e ∈ ofTwo.endpoints, e.IsBare := by decide
  rw [hcarried.fields (.inr (hbare e he))]
  rfl

end Client

end ClusterClient
