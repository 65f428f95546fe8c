import ClusterClient.Exchange.Reply
import ClusterClient.Proofs.Payload.Wording
import Mathlib.Data.List.Induction

/-!
# How an answer is taken

What an answer means depends on its status, on its body, and on what was asked. A status may stand for a
payload by itself; a status of success promises a body that can be read; and any other answer should be a
refusal in the cluster's own words.

## The architecture

* **`Reply.refusal_of_blank`**, **`refusal_of_worded`**, **`refusal_of_unworded`**: what an answer without
  success fails with. The three exclude each other, because blanks word no refusal.
* **`Reply.payloadFor?_eq_some_iff`**: which payload a status stands for, the last one if there are several.
* **`answers_are_classified`**: the whole table, with nothing outside of it.
-/

namespace ClusterClient

namespace Reply

/-- The body holds nothing, or blanks of ASCII alone. -/
def IsBlank (r : Reply) : Prop := ∀ b ∈ r.body, (0x09 ≤ b.toNat ∧ b.toNat ≤ 0x0D) ∨ b.toNat = 0x20

/-- The test of the octets of a body, said of their numbers. -/
theorem all_isBlankOctet_iff {r : Reply} : r.body.all isBlankOctet = true ↔ r.IsBlank := by
  rw [List.all_eq_true]
  refine forall₂_congr fun b _ => ?_
  simp only [isBlankOctet, Bool.or_eq_true, Bool.and_eq_true, decide_eq_true_eq, UInt8.le_iff_toNat_le,
    ← UInt8.toNat_inj]
  exact Iff.rfl

/-! ## Answers without success -/

/-- A blank body leaves the status to speak for itself. -/
theorem refusal_of_blank {r : Reply} (h : r.IsBlank) : r.refusal = .status r.status := by
  unfold Reply.refusal
  rw [if_pos (all_isBlankOctet_iff.2 h)]

/-- A body that words a refusal is not blank. -/
theorem not_isBlank_of_worded {r : Reply} {refusal : Refusal} (h : refusal.IsWordedIn r.body) : ¬r.IsBlank := by
  intro hblank
  have hread := Refusal.decode_eq_ok.2 h
  rw [Reading.decode_of_blank _ hblank] at hread
  cases hread

/-- **A body that words a refusal is told as that refusal**, with the status that came with it. -/
theorem refusal_of_worded {r : Reply} {refusal : Refusal} (h : refusal.IsWordedIn r.body) :
    r.refusal = .refused refusal (some r.status) := by
  unfold Reply.refusal
  rw [if_neg fun hblank => not_isBlank_of_worded h (all_isBlankOctet_iff.1 hblank), Refusal.decode_eq_ok.2 h]

/-- Any other body is told as one that cannot be read, with its issues. -/
theorem refusal_of_unworded {r : Reply} (hblank : ¬r.IsBlank) (h : ∀ refusal : Refusal, ¬refusal.IsWordedIn r.body) :
    ∃ issues, r.refusal = .body (.found (.refusal r.status issues)) := by
  unfold Reply.refusal
  rw [if_neg fun hall => hblank (all_isBlankOctet_iff.1 hall)]
  cases hread : Reading.decode Refusal.ofJson r.body with
  | ok refusal => exact absurd (Refusal.decode_eq_ok.1 hread) (h refusal)
  | refused issues => exact ⟨issues, rfl⟩

/-! ## Statuses that stand for a payload -/

/-- The status stands for this payload: of several, the last one counts. -/
def StandsFor (payloads : List (Int × Payload)) (status : Int) (payload : Payload) : Prop :=
  ∃ front back, payloads = front ++ (status, payload) :: back ∧ status ∉ back.map Prod.fst

/-- One entry more at the end counts before those in front of it. -/
theorem payloadFor?_append (payloads : List (Int × Payload)) (last : Int × Payload) (status : Int) :
    payloadFor? (payloads ++ [last]) status =
      if last.1 = status then some last.2 else payloadFor? payloads status := by
  simp [payloadFor?]

/-- A status that no entry has stands for nothing. -/
theorem payloadFor?_eq_none_iff {payloads : List (Int × Payload)} {status : Int} :
    payloadFor? payloads status = none ↔ status ∉ payloads.map Prod.fst := by
  induction payloads using List.reverseRecOn with
  | nil => simp [payloadFor?]
  | append_singleton payloads last ih =>
    rw [payloadFor?_append]
    split
    · next hsame => simp [hsame]
    · next hother => simp [ih, eq_comm (a := status), hother]

/-- **A status stands for the payload of its last entry.** Induction from the last entry, which is where a later
one prevails. -/
theorem payloadFor?_eq_some_iff {payloads : List (Int × Payload)} {status : Int} {payload : Payload} :
    payloadFor? payloads status = some payload ↔ StandsFor payloads status payload := by
  induction payloads using List.reverseRecOn with
  | nil => simp [payloadFor?, StandsFor]
  | append_singleton payloads last ih =>
    rw [payloadFor?_append]
    constructor
    -- from the end: the last entry has the status, or those in front decide
    · intro h
      split at h
      · next hsame =>
        obtain ⟨code, found⟩ := last
        obtain rfl : code = status := hsame
        obtain rfl := Option.some.inj h
        exact ⟨payloads, [], rfl, List.not_mem_nil⟩
      · next hother =>
        obtain ⟨front, back, rfl, hback⟩ := ih.1 h
        refine ⟨front, back ++ [last], by rw [List.append_assoc, List.cons_append], ?_⟩
        simp [eq_comm (a := status), hother] at hback ⊢
        exact hback
    · rintro ⟨front, back, heq, hback⟩
      -- the last entry is the one that counts, or it is among those behind it
      rcases List.eq_nil_or_concat back with rfl | ⟨back, last', rfl⟩
      · obtain ⟨rfl, hlast⟩ := List.append_inj' heq rfl
        obtain rfl := List.singleton_inj.1 hlast
        exact if_pos rfl
      · rw [List.concat_eq_append] at heq hback
        rw [← List.cons_append, ← List.append_assoc] at heq
        obtain ⟨rfl, hlast⟩ := List.append_inj' heq rfl
        obtain rfl := List.singleton_inj.1 hlast
        simp only [List.map_append, List.map_cons, List.map_nil, List.mem_append, List.mem_singleton, not_or]
          at hback
        rw [if_neg (Ne.symm hback.2)]
        exact ih.2 ⟨front, back, rfl, hback.1⟩

/-- A status stands for something if an entry has it. -/
theorem exists_standsFor_iff {payloads : List (Int × Payload)} {status : Int} :
    (∃ payload, StandsFor payloads status payload) ↔ status ∈ payloads.map Prod.fst := by
  simp only [← payloadFor?_eq_some_iff]
  rw [← not_iff_not, ← payloadFor?_eq_none_iff, Option.eq_none_iff_forall_ne_some, not_exists]

/-! ## What becomes of an answer -/

/-- The answer to the call gives this payload, with the state of the cluster and the member that gave it. -/
def Gives (r : Reply) (spec : RequestSpec) (e : Endpoint) (payload : Payload) : Prop :=
  r.classify spec e = .ok ⟨payload, ClusterInfo.ofHeaders r.headers, e⟩

/-- The answer to the call fails with this fault, put down to the member. -/
def Fails (r : Reply) (spec : RequestSpec) (e : Endpoint) (fault : EndpointFault) : Prop :=
  r.classify spec e = .error (.endpoint fault (some e))

variable {r : Reply} {spec : RequestSpec} {e : Endpoint}

/-- An answer gives what its payload is read as; the state of the cluster and the member come with it in any
case. -/
theorem gives_iff {payload : Payload} : r.Gives spec e payload ↔ r.payload spec e = .ok payload := by
  unfold Gives classify
  cases r.payload spec e with
  | ok found => simp
  | error fault => simp

/-- An answer fails as its payload fails, and the fault is put down to the member in any case. -/
theorem fails_iff {fault : EndpointFault} : r.Fails spec e fault ↔ r.payload spec e = .error fault := by
  unfold Fails classify
  cases r.payload spec e with
  | ok found => simp
  | error found => simp

/-- A status that stands for a payload settles the matter, whatever the body holds. -/
theorem gives_iff_of_statusPayloads {payloads : List (Int × Payload)} (h : spec.statusPayloads = some payloads)
    {payload : Payload} : r.Gives spec e payload ↔ StandsFor payloads r.status payload := by
  rw [gives_iff, ← payloadFor?_eq_some_iff]
  unfold Reply.payload
  rw [h]
  dsimp only
  cases payloadFor? payloads r.status with
  | some found => simp
  | none =>
    dsimp only
    split <;> simp

/-- A status that stands for nothing leaves the refusal, or the status itself. A body that words no refusal is
not told of here. -/
theorem fails_of_statusPayloads {payloads : List (Int × Payload)} (h : spec.statusPayloads = some payloads)
    (hstatus : r.status ∉ payloads.map Prod.fst) :
    (∀ refusal : Refusal, refusal.IsWordedIn r.body → r.Fails spec e (.refused refusal (some r.status))) ∧
      ((∀ refusal : Refusal, ¬refusal.IsWordedIn r.body) → r.Fails spec e (.status r.status)) := by
  have hnone := payloadFor?_eq_none_iff.2 hstatus
  constructor
  · intro refusal hworded
    rw [fails_iff]
    unfold Reply.payload
    rw [h]
    dsimp only
    rw [hnone, refusal_of_worded hworded]
  · intro hunworded
    rw [fails_iff]
    unfold Reply.payload
    rw [h]
    dsimp only
    rw [hnone]
    -- whether it is blank or not, the body words no refusal
    by_cases hblank : r.IsBlank
    · rw [refusal_of_blank hblank]
    · obtain ⟨issues, hissues⟩ := refusal_of_unworded hblank hunworded
      rw [hissues]

/-- A status of success gives what the body is read as, or nothing if nothing is to be read. Any other status
gives nothing at all, whatever the body says. -/
theorem gives_iff_of_none (h : spec.statusPayloads = none) {payload : Payload} :
    r.Gives spec e payload ↔
      r.status ∈ spec.success ∧ ((spec.schema = none ∧ payload = .nothing) ∨
        ∃ schema, spec.schema = some schema ∧ schema.decode r.body = .ok payload) := by
  rw [gives_iff]
  unfold Reply.payload
  rw [h]
  dsimp only
  by_cases hsuccess : r.status ∈ spec.success
  · rw [if_pos (List.contains_iff_mem.2 hsuccess)]
    cases spec.schema with
    | none => simp [hsuccess, eq_comm]
    | some schema =>
      dsimp only
      cases hread : schema.decode r.body <;> simp [hsuccess, hread]
  · rw [if_neg fun hmem => hsuccess (List.contains_iff_mem.1 hmem)]
    simp [hsuccess]

/-- A status of success and a body that cannot be read: it is told what is wrong with it, and where. -/
theorem fails_of_unreadable (h : spec.statusPayloads = none) (hsuccess : r.status ∈ spec.success) {schema : Schema}
    (hschema : spec.schema = some schema) {issues : List Issue} (hread : schema.decode r.body = .refused issues) :
    r.Fails spec e (.body (.found (.answer r.status e issues))) := by
  rw [fails_iff]
  unfold Reply.payload
  rw [h, hschema]
  dsimp only
  rw [if_pos (List.contains_iff_mem.2 hsuccess), hread]

/-- A status without success fails with the refusal. -/
theorem fails_iff_of_not_success (h : spec.statusPayloads = none) (hsuccess : r.status ∉ spec.success)
    {fault : EndpointFault} : r.Fails spec e fault ↔ r.refusal = fault := by
  rw [fails_iff]
  unfold Reply.payload
  rw [h]
  dsimp only
  rw [if_neg fun hmem => hsuccess (List.contains_iff_mem.1 hmem), Except.error.injEq]

end Reply

/-- The kinds of faults that an answer can have. -/
def EndpointFault.answerKinds : List Text := ["ApiError", "UnexpectedStatusError", "SerializationError"]

namespace Reply

variable {r : Reply} {spec : RequestSpec} {e : Endpoint}

/-- What an answer without success fails with is of one of three kinds. -/
theorem kindName_refusal (r : Reply) : r.refusal.kindName ∈ EndpointFault.answerKinds := by
  unfold Reply.refusal
  split
  · exact .tail _ (.head _)
  · split
    · exact .head _
    · exact .tail _ (.tail _ (.head _))

/-- **Every fault of an answer is of one of three kinds**, however it was asked: a status that was not expected,
a refusal that the body words, and a body that cannot be read. -/
theorem Fails.kindName {fault : EndpointFault} (h : r.Fails spec e fault) :
    fault.kindName ∈ EndpointFault.answerKinds := by
  rw [fails_iff] at h
  unfold Reply.payload at h
  split at h
  · split at h
    · cases h
    · split at h
      · obtain rfl := Except.error.inj h
        exact .head _
      · obtain rfl := Except.error.inj h
        exact .tail _ (.head _)
  · split at h
    · split at h
      · cases h
      · split at h
        · cases h
        · obtain rfl := Except.error.inj h
          exact .tail _ (.tail _ (.head _))
    · obtain rfl := Except.error.inj h
      exact r.kindName_refusal

/-- An answer gives something or fails. -/
theorem gives_or_fails (r : Reply) (spec : RequestSpec) (e : Endpoint) :
    (∃ payload, r.Gives spec e payload) ∨ ∃ fault, r.Fails spec e fault := by
  cases hpayload : r.payload spec e with
  | ok payload => exact .inl ⟨payload, gives_iff.2 hpayload⟩
  | error fault => exact .inr ⟨fault, fails_iff.2 hpayload⟩

end Reply

/-- **An answer gives a payload or fails in one of three ways**, and then with the member that gave it. Where
statuses stand for payloads, the status alone decides about success; any other status fails with the refusal
that the body words, or with the status if it words none. Elsewhere a status of success gives what the body
is read as and fails with the issues of a body that cannot be read; any other status fails with the status if
the body is blank, with the refusal if the body words one, and with the issues of the body if it is neither. -/
theorem answers_are_classified (r : Reply) (spec : RequestSpec) (e : Endpoint) :
    ((∃ payload, r.Gives spec e payload) ∨
      ∃ fault, r.Fails spec e fault ∧ fault.kindName ∈ EndpointFault.answerKinds) ∧
    (∀ payloads, spec.statusPayloads = some payloads →
      (∀ payload, r.Gives spec e payload ↔ Reply.StandsFor payloads r.status payload) ∧
      ((∃ payload, r.Gives spec e payload) ↔ r.status ∈ payloads.map Prod.fst) ∧
      (r.status ∉ payloads.map Prod.fst →
        (∀ refusal : Refusal, refusal.IsWordedIn r.body → r.Fails spec e (.refused refusal (some r.status))) ∧
        ((∀ refusal : Refusal, ¬refusal.IsWordedIn r.body) → r.Fails spec e (.status r.status)))) ∧
    (spec.statusPayloads = none →
      (∀ payload, r.Gives spec e payload ↔
        r.status ∈ spec.success ∧ ((spec.schema = none ∧ payload = .nothing) ∨
          ∃ schema, spec.schema = some schema ∧ schema.decode r.body = .ok payload)) ∧
      (r.status ∈ spec.success → ∀ schema issues, spec.schema = some schema →
        schema.decode r.body = .refused issues → r.Fails spec e (.body (.found (.answer r.status e issues)))) ∧
      (r.status ∉ spec.success →
        (r.IsBlank → r.Fails spec e (.status r.status)) ∧
        (∀ refusal : Refusal, refusal.IsWordedIn r.body → r.Fails spec e (.refused refusal (some r.status))) ∧
        (¬r.IsBlank → (∀ refusal : Refusal, ¬refusal.IsWordedIn r.body) →
          ∃ issues, r.Fails spec e (.body (.found (.refusal r.status issues)))))) := by
  refine ⟨?_, fun payloads h => ⟨fun payload => Reply.gives_iff_of_statusPayloads h, ?_,
    Reply.fails_of_statusPayloads h⟩, fun h => ⟨fun payload => Reply.gives_iff_of_none h,
      fun hsuccess _ _ hschema => Reply.fails_of_unreadable h hsuccess hschema, fun hsuccess => ⟨?_, ?_, ?_⟩⟩⟩
  · exact (r.gives_or_fails spec e).imp_right fun ⟨fault, hfault⟩ => ⟨fault, hfault, hfault.kindName⟩
  · rw [← Reply.exists_standsFor_iff]
    exact exists_congr fun payload => Reply.gives_iff_of_statusPayloads h
  · exact fun hblank => (Reply.fails_iff_of_not_success h hsuccess).2 (Reply.refusal_of_blank hblank)
  · exact fun refusal hworded => (Reply.fails_iff_of_not_success h hsuccess).2 (Reply.refusal_of_worded hworded)
  · intro hblank hunworded
    obtain ⟨issues, hissues⟩ := Reply.refusal_of_unworded hblank hunworded
    exact ⟨issues, (Reply.fails_iff_of_not_success h hsuccess).2 hissues⟩

/-- A refusal of a request without credentials, as the cluster words it. -/
def Reply.unauthorized : Reply :=
  ⟨401, [], RequestSpec.asciiOctets "\x7b\"errorCode\": 110, \"message\": \"no user\"\x7d"⟩

/-- An answer that holds a line end alone. -/
def Reply.lineEnd (status : Int) : Reply := ⟨status, [], [0x0D, 0x0A]⟩

/-- A call whose answer is to be read. -/
def RequestSpec.versions : RequestSpec := { RequestSpec.get "version" with schema := some .version }

/-- A call that some statuses answer by themselves. -/
def RequestSpec.enabling : RequestSpec := { RequestSpec.get "v2/auth/enable" with
  statusPayloads := some [(200, .enabling .enabled), (409, .enabling .alreadyEnabled)] }

/-- A refusal and a blank body, where statuses stand for payloads and where the body is to be read. -/
theorem answers_are_classified_unread :
    Reply.unauthorized.Fails .enabling ⟨"http://etcd1:2379"⟩ (.refused ⟨none, 110, 0, "no user"⟩ (some 401)) ∧
      (Reply.lineEnd 409).Gives .enabling ⟨"http://etcd1:2379"⟩ (.enabling .alreadyEnabled) ∧
      Reply.unauthorized.Fails .versions ⟨"http://etcd1:2379"⟩ (.refused ⟨none, 110, 0, "no user"⟩ (some 401)) ∧
      (Reply.lineEnd 404).Fails .versions ⟨"http://etcd1:2379"⟩ (.status 404) ∧
      (Reply.lineEnd 200).Fails .versions ⟨"http://etcd1:2379"⟩
        (.body (.found (.answer 200 ⟨"http://etcd1:2379"⟩ [⟨[], .notJson⟩]))) := by
  have hworded : Refusal.IsWordedIn ⟨none, 110, 0, "no user"⟩ Reply.unauthorized.body :=
    Refusal.decode_eq_ok.1 (by decide +kernel)
  have hblank (status : Int) : (Reply.lineEnd status).IsBlank :=
    Reply.all_isBlankOctet_iff.1 rfl
  obtain ⟨-, hrefused, -⟩ := answers_are_classified .unauthorized .enabling ⟨"http://etcd1:2379"⟩
  obtain ⟨-, hmapped, -⟩ := answers_are_classified (.lineEnd 409) .enabling ⟨"http://etcd1:2379"⟩
  obtain ⟨-, -, hread⟩ := answers_are_classified .unauthorized .versions ⟨"http://etcd1:2379"⟩
  obtain ⟨-, -, hmissing⟩ := answers_are_classified (.lineEnd 404) .versions ⟨"http://etcd1:2379"⟩
  obtain ⟨-, -, hsuccess⟩ := answers_are_classified (.lineEnd 200) .versions ⟨"http://etcd1:2379"⟩
  refine ⟨((hrefused _ rfl).2.2 (by decide)).1 _ hworded, ((hmapped _ rfl).1 _).2 ?_,
    ((hread rfl).2.2 (by decide)).2.1 _ hworded, ((hmissing rfl).2.2 (by decide)).1 (hblank 404),
    (hsuccess rfl).2.1 (by decide) .version _ rfl (Reading.decode_of_blank _ (hblank 200))⟩
  exact ⟨[(200, .enabling .enabled)], [], rfl, List.not_mem_nil⟩

end ClusterClient
