import ClusterClient.Proofs.Client.Asking

/-!
# Which requests a call makes

A call goes through four layers before a request is made of it: an address, a body, the transport, and the
reading of the answer. Each of them may fail the attempt in its own way, and none of them makes the call
send a request twice or blames the wrong member.

## The architecture

* **`Transport.attempt?`**: one attempt by itself. A call is compared with the attempts it is made of.
* **`Transport.afterTrying`**: what attempts leave behind: one request for each member that can be addressed
  and given the body.
* **`Transport.Tried`**: what asking members comes to, in terms of single attempts. **`tried_ask`** proves
  it of the loop, by induction on the members.
* **`requests_of_perform`**: which requests a whole call makes, and whose answer or whose failures it ends
  with.
-/

namespace ClusterClient

/-- How the attempt has ended that ended the asking. -/
def Verdict.attempt? : Verdict → Option (Outcome Response)
  | decided outcome => some outcome
  | exhausted | interrupted | hanging => none

namespace Transport

/-- How an attempt against a member ends, if its answer comes. -/
def attempt? (t : Transport) (spec : RequestSpec) (timetable : Timetable) (e : Endpoint) :
    Option (Outcome Response) :=
  match t.dispatch spec e with
  | (_, .error f) => some (.raised f)
  | (t, .ok pending) =>
    match timetable pending.number with
    | .never => none
    | .ends _ a => some (t.conclude spec e pending.request a).2

/-- The transport when members have been tried: the request to each of them has been handed over, if there
is one. -/
def afterTrying (t : Transport) (spec : RequestSpec) (members : List Endpoint) : Transport :=
  t.handing (members.filterMap (spec.requestTo? t.room t.settings))

variable {t t' : Transport} {spec : RequestSpec} {timetable : Timetable} {e : Endpoint}
  {rest members : List Endpoint} {f : Failure} {pending : Pending}

@[simp] theorem afterTrying_nil (t : Transport) (spec : RequestSpec) : t.afterTrying spec [] = t := by
  simp [afterTrying]

/-- Trying members is trying the first and then the others. -/
theorem afterTrying_cons (t : Transport) (spec : RequestSpec) (e : Endpoint) (rest : List Endpoint) :
    t.afterTrying spec (e :: rest) = (t.afterTrying spec [e]).afterTrying spec rest := by
  have hsettings : (t.afterTrying spec [e]).settings = t.settings := rfl
  have hroom : (t.afterTrying spec [e]).room = t.room := rfl
  unfold afterTrying at hsettings hroom ⊢
  rw [hsettings, hroom, handing_handing, ← List.filterMap_append]
  rfl

theorem IsPlain.afterTrying (h : t.IsPlain) (spec : RequestSpec) (members : List Endpoint) :
    (t.afterTrying spec members).IsPlain := h.handing _

/-- An attempt leaves behind the transport when the member has been tried. -/
theorem IsPlain.dispatch_eq (h : t.IsPlain) (spec : RequestSpec) (e : Endpoint) :
    (t.dispatch spec e).1 = t.afterTrying spec [e] := by
  rw [h.transport_dispatch, Transport.afterTrying]
  cases hrequest : spec.requestTo? t.room t.settings e <;> simp [hrequest]

theorem attempt?_of_error (hdispatch : t.dispatch spec e = (t', .error f)) :
    t.attempt? spec timetable e = some (.raised f) := by
  simp only [attempt?, hdispatch]

theorem attempt?_of_never (hdispatch : t.dispatch spec e = (t', .ok pending))
    (hnever : timetable pending.number = .never) : t.attempt? spec timetable e = none := by
  simp only [attempt?, hdispatch, hnever]

theorem attempt?_of_ends {delay : Nat} {a : Answer} (hdispatch : t.dispatch spec e = (t', .ok pending))
    (hends : timetable pending.number = .ends delay a) :
    t.attempt? spec timetable e = some (t'.conclude spec e pending.request a).2 := by
  simp only [attempt?, hdispatch, hends]

/-! ## What an attempt by itself comes to -/

/-- A failed attempt is put down to nobody but the member that was tried. -/
theorem isAgainst_of_attempt (hgenuine : ∀ number delay a, timetable number = .ends delay a → a.IsGenuine)
    (h : t.attempt? spec timetable e = some (.raised f)) : f.IsAgainst e := by
  rcases hdispatch : t.dispatch spec e with ⟨t', f' | pending⟩
  · rw [attempt?_of_error hdispatch] at h
    cases h
    exact (isAgainst_of_dispatch (congrArg Prod.snd hdispatch)).1
  · cases hcourse : timetable pending.number with
    | never =>
      rw [attempt?_of_never hdispatch hcourse] at h
      cases h
    | ends delay a =>
      rw [attempt?_of_ends hdispatch hcourse] at h
      exact isAgainst_of_conclude (hgenuine _ _ _ hcourse) (Option.some.inj h)

/-- An attempt that gives a response has made its request, and the response is read from the reply to it. An
attempt that was refused, is never answered or fails gives none. -/
theorem IsPlain.reply_of_attempt (hplain : t.IsPlain) {response : Response}
    (h : t.attempt? spec timetable e = some (.returned response)) :
    ∃ request delay reply, spec.requestTo? t.room t.settings e = some request ∧
      timetable t.issued.length = .ends delay (.reply reply) ∧
      reply.classify spec e = .ok response ∧ response.endpoint = e := by
  rcases hdispatch : t.dispatch spec e with ⟨t', f | pending⟩
  · rw [attempt?_of_error hdispatch] at h
    cases h
  · obtain ⟨hrequest, hnumber⟩ := hplain.requestTo?_of_dispatch (congrArg Prod.snd hdispatch)
    cases hcourse : timetable pending.number with
    | never =>
      rw [attempt?_of_never hdispatch hcourse] at h
      cases h
    | ends delay a =>
      rw [attempt?_of_ends hdispatch hcourse] at h
      obtain ⟨reply, rfl, hclassify, hendpoint⟩ := reply_of_conclude (Option.some.inj h)
      rw [hnumber] at hcourse
      exact ⟨_, delay, reply, hrequest, hcourse, hclassify, hendpoint⟩

/-- An attempt is not cancelled if no exchange is. A request that is never handed over fails, one that is not
answered has no outcome, and an answer is taken for a cancellation only if it is one. -/
theorem attempt?_ne_cancelled
    (hgenuine : ∀ number delay a, timetable number = .ends delay a → a.IsGenuine) :
    t.attempt? spec timetable e ≠ some .cancelled := by
  intro h
  rcases hdispatch : t.dispatch spec e with ⟨t', f | pending⟩
  · rw [attempt?_of_error hdispatch] at h
    cases h
  · cases hcourse : timetable pending.number with
    | never =>
      rw [attempt?_of_never hdispatch hcourse] at h
      cases h
    | ends delay a =>
      rw [attempt?_of_ends hdispatch hcourse] at h
      obtain rfl := cancelled_of_conclude (Option.some.inj h)
      exact hgenuine _ _ _ hcourse

/-! ## Members that are asked one after the other -/

/-- What asking members comes to, in terms of single attempts against them: all but the last one fail with what can be
shown, and each of them is made with the transport that those before have left behind. -/
structure Tried (t : Transport) (spec : RequestSpec) (timetable : Timetable) (members : List Endpoint)
    (asked : Asked) : Prop where
  transport : asked.transport = t.afterTrying spec (members.take (asked.failures.length + 1))
  within : asked.failures.length ≤ members.length
  failed : ∀ i e p, members[i]? = some e → asked.failures[i]? = some p →
    p.2.Speaks ∧ (t.afterTrying spec (members.take i)).attempt? spec timetable e = some (.raised p.2)
  last : ∀ e, members[asked.failures.length]? = some e →
    (t.afterTrying spec (members.take asked.failures.length)).attempt? spec timetable e =
      asked.verdict.attempt?
  exhausted : asked.failures.length = members.length ↔ asked.verdict = .exhausted
  uninterrupted : asked.verdict ≠ .interrupted
  decided : ∀ outcome, asked.verdict = .decided outcome → outcome.passed? = none

/-- An attempt that does not fail is the last one: nobody behind the member is asked, nothing is collected, and
the verdict is the attempt's own. -/
theorem IsPlain.tried_last (hplain : t.IsPlain) {verdict : Verdict}
    (hattempt : t.attempt? spec timetable e = verdict.attempt?) (hexhausted : verdict ≠ .exhausted)
    (hinterrupted : verdict ≠ .interrupted) (hdecided : ∀ outcome, verdict = .decided outcome → outcome.passed? = none)
    (rest : List Endpoint) (time : Nat) :
    Tried t spec timetable (e :: rest) ⟨(t.dispatch spec e).1, [], time, verdict⟩ where
  transport := hplain.dispatch_eq spec e
  within := Nat.zero_le _
  failed := by simp
  last := by
    intro e' he'
    obtain rfl : e = e' := by simpa using he'
    simpa using hattempt
  exhausted := ⟨fun h => by simp at h, fun h => absurd h hexhausted⟩
  uninterrupted := hinterrupted
  decided := hdecided

/-- An attempt that fails is followed by what comes of the members left. What holds of them holds of all, with
the failure of the attempt in front, one position further on. -/
theorem Tried.after {asked : Asked}
    (h : (t.afterTrying spec [e]).Tried spec timetable rest asked) (hf : f.Speaks)
    (hattempt : t.attempt? spec timetable e = some (.raised f)) (time : Nat) :
    t.Tried spec timetable (e :: rest) (asked.after time f) where
  transport := by
    rw [Asked.after, List.length_cons, List.take_succ_cons, afterTrying_cons]
    exact h.transport
  within := by simpa [Asked.after] using h.within
  failed := by
    intro i e' p he' hp
    cases i with
    | zero =>
      obtain rfl : e = e' := by simpa using he'
      obtain rfl : (time, f) = p := by simpa [Asked.after] using hp
      exact ⟨hf, by simpa using hattempt⟩
    | succ i =>
      rw [List.take_succ_cons, afterTrying_cons]
      exact h.failed i e' p (by simpa using he') (by simpa [Asked.after] using hp)
  last := by
    intro e' he'
    rw [Asked.after, List.length_cons, List.take_succ_cons, afterTrying_cons]
    exact h.last e' (by simpa [Asked.after] using he')
  exhausted := by simpa [Asked.after] using h.exhausted
  uninterrupted := h.uninterrupted
  decided := h.decided

/-- **Asking members is made of single attempts.** The induction is on the members. The attempt against the
first of them may be passed over, and then the others are asked from the transport that it leaves behind; or it
decides the asking, and nobody else is asked. -/
theorem IsPlain.tried_ask (hplain : t.IsPlain) (spec : RequestSpec) (timetable : Timetable) (now : Nat)
    (members : List Endpoint) :
    t.Tried spec timetable members (t.ask spec timetable none now members) := by
  induction members generalizing t now with
  | nil =>
    refine ⟨by simp [ask], Nat.le_refl _, by simp, by simp, ?_, by simp [ask], by simp [ask]⟩
    simp [ask]
  | cons e rest ih =>
    have hleft := hplain.dispatch_eq spec e
    rcases hdispatch : t.dispatch spec e with ⟨t', f | pending⟩
    · rw [hdispatch] at hleft
      obtain rfl : t' = t.afterTrying spec [e] := hleft
      obtain ⟨-, hf⟩ := isAgainst_of_dispatch (congrArg Prod.snd hdispatch)
      rw [ask_of_error hdispatch]
      exact (ih (hplain.afterTrying spec [e]) now).after hf (attempt?_of_error hdispatch) now
    · rw [hdispatch] at hleft
      obtain rfl : t' = t.afterTrying spec [e] := hleft
      cases hcourse : timetable pending.number with
      | never =>
        rw [ask_of_never hdispatch hcourse]
        have hattempt : t.attempt? spec timetable e = Verdict.hanging.attempt? := attempt?_of_never hdispatch hcourse
        have htried := hplain.tried_last hattempt (by simp) (by simp) (by simp) rest now
        rwa [hdispatch] at htried
      | ends delay a =>
        have hattempt := attempt?_of_ends hdispatch hcourse
        rw [ask_of_ends hdispatch hcourse rfl]
        -- taking the answer leaves a transport that prints nothing as it is
        have hstay := (hplain.afterTrying spec [e]).transport_conclude spec e pending.request a
        rcases hconclude : (t.afterTrying spec [e]).conclude spec e pending.request a with ⟨t', outcome⟩
        rw [hconclude] at hstay hattempt
        obtain rfl : t' = _ := hstay
        dsimp only
        cases hpassed : outcome.passed? with
        | none =>
          have hlast : t.attempt? spec timetable e = (Verdict.decided outcome).attempt? := hattempt
          have hdecided : ∀ last, Verdict.decided outcome = .decided last → last.passed? = none := by
            intro last heq
            cases heq
            exact hpassed
          have htried := hplain.tried_last hlast (by simp) (by simp) hdecided rest (now + delay)
          rwa [hdispatch] at htried
        | some f =>
          obtain ⟨hf, rfl⟩ := Outcome.passed?_eq_some_iff.1 hpassed
          exact (ih (hplain.afterTrying spec [e]) _).after hf hattempt _

namespace Tried

variable {asked : Asked}

/-- An asking that is not exhausted has a last member, and the attempt against it is how it has ended. -/
theorem exists_last (h : t.Tried spec timetable members asked) (hverdict : asked.verdict ≠ .exhausted) :
    ∃ e, members.take (asked.failures.length + 1) = members.take asked.failures.length ++ [e] ∧
      (t.afterTrying spec (members.take asked.failures.length)).attempt? spec timetable e =
        asked.verdict.attempt? := by
  have hlt : asked.failures.length < members.length :=
    Nat.lt_of_le_of_ne h.within fun heq => hverdict (h.exhausted.1 heq)
  exact ⟨members[asked.failures.length], (List.take_append_getElem hlt).symm,
    h.last _ (List.getElem?_eq_getElem hlt)⟩

/-- Before the last member, each attempt has failed with what can be shown. -/
theorem failed_of_lt (h : t.Tried spec timetable members asked) {i : Nat} {e : Endpoint}
    (he : (members.take (asked.failures.length + 1))[i]? = some e)
    (hi : i + 1 < (members.take (asked.failures.length + 1)).length) :
    ∃ f : Failure, f.Speaks ∧
      (t.afterTrying spec ((members.take (asked.failures.length + 1)).take i)).attempt? spec timetable e =
        some (.raised f) := by
  have hlength := List.length_take_le (asked.failures.length + 1) members
  have hin : i < asked.failures.length := by omega
  rw [List.getElem?_take_of_lt (by omega)] at he
  rw [List.take_take, Nat.min_eq_left (by omega)]
  exact ⟨_, h.failed i e _ he (List.getElem?_eq_getElem hin)⟩

/-- **A response is read from the last member's reply** to the request that was made of it, and names the member. -/
theorem reply_of_returned (h : t.Tried spec timetable members asked) (hplain : t.IsPlain) {response : Response}
    (hverdict : asked.verdict = .decided (.returned response)) :
    ∃ before e, members.take (asked.failures.length + 1) = before ++ [e] ∧ response.endpoint = e ∧
      (t.afterTrying spec before).attempt? spec timetable e = some (.returned response) ∧
      ∃ request delay reply, spec.requestTo? t.room t.settings e = some request ∧
        timetable (t.issued.length + (before.filterMap (spec.requestTo? t.room t.settings)).length) =
          .ends delay (.reply reply) ∧
        reply.classify spec e = .ok response := by
  obtain ⟨e, htake, hattempt⟩ := h.exists_last (by simp [hverdict])
  rw [hverdict] at hattempt
  obtain ⟨request, delay, reply, hrequest, hcourse, hclassify, hendpoint⟩ :=
    (hplain.afterTrying spec _).reply_of_attempt hattempt
  refine ⟨_, e, htake, hendpoint, hattempt, request, delay, reply, hrequest, ?_, hclassify⟩
  -- the request to the last member stands behind those to the members before it
  simpa [afterTrying, handing] using hcourse

/-- **A call that is exhausted has a failure for each member**, at its place, which is put down to no other one. -/
theorem errors_of_exhausted (h : t.Tried spec timetable members asked) (hverdict : asked.verdict = .exhausted)
    (hgenuine : ∀ number delay a, timetable number = .ends delay a → a.IsGenuine) :
    members.take (asked.failures.length + 1) = members ∧
      (asked.failures.map Prod.snd).length = members.length ∧
      ∀ i e error, members[i]? = some e → (asked.failures.map Prod.snd)[i]? = some error →
        (t.afterTrying spec (members.take i)).attempt? spec timetable e = some (.raised error) ∧
          error.IsAgainst e := by
  have hall := h.exhausted.2 hverdict
  refine ⟨List.take_of_length_le (by omega), by rw [List.length_map, hall], ?_⟩
  intro i e error he herror
  rw [List.getElem?_map] at herror
  obtain ⟨p, hp, rfl⟩ := Option.map_eq_some_iff.1 herror
  obtain ⟨-, hattempt⟩ := h.failed i e p he hp
  exact ⟨hattempt, isAgainst_of_attempt hgenuine hattempt⟩

end Tried

end Transport

namespace Client

/-! ## Whole calls -/

/-- How an attempt of a call against a member ends by itself, after attempts against other members. -/
def attemptAfter? (c : Client) (spec : RequestSpec) (timetable : Timetable) (before : List Endpoint)
    (e : Endpoint) : Result :=
  (({ c with transport := c.transport.afterTrying spec before } : Client).dispatchOne spec e timetable).2

/-- An attempt of a call is one of its transport, when the members before have been tried. -/
theorem attemptAfter?_eq (c : Client) (spec : RequestSpec) (timetable : Timetable)
    (before : List Endpoint) (e : Endpoint) :
    c.attemptAfter? spec timetable before e =
      (c.transport.afterTrying spec before).attempt? spec timetable e := by
  unfold attemptAfter? dispatchOne Transport.attempt?
  dsimp only
  rcases (c.transport.afterTrying spec before).dispatch spec e with ⟨t, f | pending⟩
  · rfl
  · dsimp only
    cases timetable pending.number <;> rfl

/-- **A call makes one request for each member it tries**, in the order of the members, if the member can
be addressed and given the body, and none otherwise. All attempts but the last one fail. If the call gives
a response, it is read from the last member's reply and names that member. If the call fails, every member
has been tried, and each failure that is put down to a member stands at the place of that member; or the last
attempt has failed with what cannot be shown, and the call fails with what showing it has failed with. -/
theorem requests_of_perform {c : Client} (hreachable : c.Reachable) (hopen : c.transport.closed = false)
    (huntraced : c.settings.trace = false)
    (hcredentials : ∀ credentials ∈ c.settings.credentials,
      ∀ p ∈ credentials.username ++ credentials.password, p.isSurrogate = false)
    (spec : RequestSpec) (timetable : Timetable)
    (hgenuine : ∀ number delay a, timetable number = .ends delay a → a.IsGenuine) :
    let performed := c.perform spec timetable
    let tried := performed.1.failover.invoked c.failover.runs.length
    let requests := fun members : List Endpoint => members.filterMap (spec.requestTo? c.room c.settings)
    tried <+: c.endpoints ∧
    performed.1.transport.issued = c.transport.issued ++ (requests tried).map (⟨·, false⟩) ∧
    (∀ i e, tried[i]? = some e → i + 1 < tried.length →
      ∃ f : Failure, f.Speaks ∧ c.attemptAfter? spec timetable (tried.take i) e = some (.raised f)) ∧
    match performed.2 with
    | some (.returned response) =>
      ∃ before e, tried = before ++ [e] ∧ response.endpoint = e ∧
        c.attemptAfter? spec timetable before e = some (.returned response) ∧
        ∃ request delay reply, spec.requestTo? c.room c.settings e = some request ∧
          timetable (c.transport.issued.length + (requests before).length) =
            .ends delay (.reply reply) ∧
          reply.classify spec e = .ok response
    | some (.raised f) =>
      (tried = c.endpoints ∧ ∃ errors, f = .cluster errors c.endpoints ∧
        errors.length = c.endpoints.length ∧
        ∀ i e error, c.endpoints[i]? = some e → errors[i]? = some error →
          c.attemptAfter? spec timetable (c.endpoints.take i) e = some (.raised error) ∧
            error.IsAgainst e) ∨
      ∃ before e error, tried = before ++ [e] ∧
        c.attemptAfter? spec timetable before e = some (.raised error) ∧ error.whyMute? = some f
    | some .cancelled => False
    | none =>
      ∃ before e, tried = before ++ [e] ∧ c.attemptAfter? spec timetable before e = none := by
  intro performed tried requests
  -- neither the console nor the credentials can be in the way of a request
  have hplain : c.transport.IsPlain := ⟨hopen, huntraced, Transport.headersFor_of_credentials hcredentials⟩
  obtain ⟨htransport, hinvoked, hresult⟩ := perform_eq spec timetable hopen hreachable.aligned
  have htried := hplain.tried_ask spec timetable 0 c.endpoints
  -- from here on only what the asking came to matters
  generalize c.transport.ask spec timetable none 0 c.endpoints = asked at *
  rw [List.length_map] at hinvoked
  have htried_eq : tried = c.endpoints.take (asked.failures.length + 1) := hinvoked
  simp only [attemptAfter?_eq, htried_eq]
  refine ⟨List.take_prefix _ _, ?_, fun i e he hi => htried.failed_of_lt he hi, ?_⟩
  · rw [htransport, htried.transport]
    rfl
  · rw [hresult]
    cases hverdict : asked.verdict with
    | decided outcome =>
      cases outcome with
      | returned response => exact htried.reply_of_returned hplain hverdict
      | raised f =>
        obtain ⟨last, hlast⟩ := Outcome.exists_final (htried.decided _ hverdict)
        obtain ⟨why, hwhy, rfl⟩ := Option.map_eq_some_iff.1 hlast
        obtain ⟨e, htake, hattempt⟩ := htried.exists_last (by simp [hverdict])
        rw [hverdict] at hattempt
        simp only [Verdict.outcome?, hlast]
        exact .inr ⟨_, e, f, htake, hattempt, hwhy⟩
      | cancelled =>
        obtain ⟨e, -, hattempt⟩ := htried.exists_last (by simp [hverdict])
        rw [hverdict] at hattempt
        exact Transport.attempt?_ne_cancelled hgenuine hattempt
    | exhausted =>
      obtain ⟨hall, hlength, herrors⟩ := htried.errors_of_exhausted hverdict hgenuine
      exact .inl ⟨hall, _, rfl, hlength, herrors⟩
    | interrupted => exact htried.uninterrupted hverdict
    | hanging =>
      obtain ⟨e, htake, hattempt⟩ := htried.exists_last (by simp [hverdict])
      rw [hverdict] at hattempt
      exact ⟨_, e, htake, hattempt⟩

/-- Of two members the first refuses the connection, and the second never answers: both get their request,
and nothing else is sent. -/
theorem requests_of_perform_ofTwo :
    ofTwo.Reachable ∧ ofTwo.transport.closed = false ∧ ofTwo.settings.trace = false ∧
      (∀ credentials ∈ ofTwo.settings.credentials,
        ∀ p ∈ credentials.username ++ credentials.password, p.isSurrogate = false) ∧
      (∀ number delay a, refusedThenSilent number = .ends delay a → a.IsGenuine) ∧
      (ofTwo.perform (.get "/version") refusedThenSilent).1.transport.issued = ofTwo.transport.issued ++
        (ofTwo.endpoints.filterMap ((RequestSpec.get "/version").requestTo? ofTwo.room ofTwo.settings)).map
          (⟨·, false⟩) := by
  have hcredentials : ∀ credentials ∈ ofTwo.settings.credentials,
      ∀ p ∈ credentials.username ++ credentials.password, p.isSurrogate = false := by
    intro credentials hmem
    obtain rfl := Option.some.inj hmem
    have hall : (("root" : Text) ++ ("pässword" : Text)).all (fun p => !p.isSurrogate) = true := by
      decide
    intro p hp
    simpa using List.all_eq_true.1 hall p hp
  have hgenuine : ∀ number delay a, refusedThenSilent number = .ends delay a → a.IsGenuine := by
    intro number delay a ha
    unfold refusedThenSilent at ha
    split at ha
    · cases ha
      exact Answer.isGenuine_external _
    · cases ha
  -- the first member refuses the request, so that the second is asked as well
  have htried : (ofTwo.perform (.get "/version") refusedThenSilent).1.failover.invoked
      ofTwo.failover.runs.length = ofTwo.endpoints := by
    decide +kernel
  have h := requests_of_perform reachable_ofTwo rfl rfl hcredentials (.get "/version") refusedThenSilent
    hgenuine
  refine ⟨reachable_ofTwo, rfl, rfl, hcredentials, hgenuine, ?_⟩
  have hissued := h.2.1
  rw [htried] at hissued
  exact hissued

end Client

end ClusterClient
