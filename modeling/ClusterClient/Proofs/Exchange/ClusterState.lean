import ClusterClient.Exchange.Reply
import ClusterClient.Proofs.Number.Spelling

/-!
# What the headers of an answer decide

The headers of an answer tell the state of the cluster and nothing else: whether the answer is a success, and
what it gives or fails with, is the same under any headers. Each part of the state is told by one header, the
first of its name in any case; one that should spell a whole number and does not tells nothing, and takes
nothing from the other parts.

## The architecture

* **`Headers.lookup?_eq_some_iff`**: which header is the first of a name. **`Headers.lookup?_remove`**: a header
  of another name may be taken away.
* **`ClusterInfo.wholeIn_eq_some_iff`**: a counter is the whole number that its header spells.
* **`Reply.classify_under`**: other headers change the state of the cluster in the response alone.
* **`headers_tell_the_cluster_alone`**: all of it.
-/

namespace ClusterClient

namespace Headers

/-- The first header of this name, in any case, has this value. -/
def FirstNamed (headers : Headers) (name value : Text) : Prop :=
  ∃ front written back, headers = front ++ (written, value) :: back ∧ sameName written name = true ∧
    ∀ header ∈ front, sameName header.1 name = false

/-- **Looking a header up** finds the first one of that name, however the name is spelled. By induction on the
headers. -/
theorem lookup?_eq_some_iff {headers : Headers} {name value : Text} :
    headers.lookup? name = some value ↔ headers.FirstNamed name value := by
  unfold lookup? FirstNamed
  rw [Option.map_eq_some_iff]
  simp only [List.find?_eq_some_iff_append, Bool.not_eq_true']
  constructor
  · rintro ⟨⟨written, found⟩, ⟨hname, front, back, hheaders, hfront⟩, rfl⟩
    exact ⟨front, written, back, hheaders, hname, hfront⟩
  · rintro ⟨front, written, back, hheaders, hname, hfront⟩
    exact ⟨(written, value), ⟨hname, front, back, hheaders, hfront⟩, rfl⟩

/-- Two lists of headers with the same first header of a name, if they have one, tell the same by that name. -/
theorem lookup?_congr {headers headers' : Headers} {name : Text}
    (h : ∀ value, headers.FirstNamed name value ↔ headers'.FirstNamed name value) :
    headers.lookup? name = headers'.lookup? name := by
  refine Option.ext fun value => ?_
  rw [lookup?_eq_some_iff, lookup?_eq_some_iff, h value]

/-- A header of another name may be taken away. -/
theorem lookup?_remove {name written : Text} (h : sameName written name = false) (front back : Headers)
    (value : Text) : lookup? (front ++ (written, value) :: back) name = lookup? (front ++ back) name := by
  unfold lookup?
  rw [List.find?_append, List.find?_append, List.find?_cons, h]

theorem sameName_eq_false_of_sameName {a b c : Text} (h : sameName a b = true) (hc : sameName b c = false) :
    sameName a c = false := by
  simp only [sameName, decide_eq_true_eq, decide_eq_false_iff_not] at *
  rwa [h]

end Headers

namespace ClusterInfo

/-- The parts of the state that are whole numbers. -/
inductive Counter where
  | etcdIndex
  | raftIndex
  | raftTerm
  deriving DecidableEq, Repr

/-- The name of the header that tells a counter. -/
def Counter.headerName : Counter → Text
  | etcdIndex => etcdIndexName
  | raftIndex => raftIndexName
  | raftTerm => raftTermName

/-- The counter of a state. -/
def Counter.of (info : ClusterInfo) : Counter → Option Int
  | etcdIndex => info.etcdIndex
  | raftIndex => info.raftIndex
  | raftTerm => info.raftTerm

theorem Counter.of_ofHeaders (headers : Headers) (counter : Counter) :
    counter.of (ofHeaders headers) = wholeIn headers counter.headerName := by
  cases counter <;> rfl

/-- A counter is the whole number that its header spells. -/
theorem wholeIn_eq_some_iff {headers : Headers} {name : Text} {n : Int} :
    wholeIn headers name = some n ↔ ∃ value, headers.FirstNamed name value ∧ Whole.Spells value n := by
  simp only [wholeIn, Option.bind_eq_some_iff, Headers.lookup?_eq_some_iff, Whole.read?_strip_eq_some_iff]

theorem wholeIn_eq_none_of_unspelled {headers : Headers} {name value : Text}
    (hfirst : headers.FirstNamed name value) (hvalue : ∀ n, ¬Whole.Spells value n) :
    wholeIn headers name = none := by
  refine Option.eq_none_iff_forall_ne_some.2 fun n hn => ?_
  obtain ⟨found, hfound, hspells⟩ := wholeIn_eq_some_iff.1 hn
  have hsame := Headers.lookup?_eq_some_iff.2 hfirst
  rw [Headers.lookup?_eq_some_iff.2 hfound] at hsame
  obtain rfl := Option.some.inj hsame
  exact hvalue n hspells

/-- No two parts of the state are told by one header. -/
theorem sameName_of_ne {counter other : Counter} (h : other ≠ counter) {written : Text}
    (hwritten : Headers.sameName written counter.headerName = true) :
    Headers.sameName written other.headerName = false := by
  have hapart : Headers.sameName counter.headerName other.headerName = false := by
    cases counter <;> cases other <;> first | exact absurd rfl h | decide
  exact Headers.sameName_eq_false_of_sameName hwritten hapart

/-- No spelling of the name of a counter is a spelling of the name that the cluster's id stands under. -/
theorem sameName_clusterIdName {counter : Counter} {written : Text}
    (hwritten : Headers.sameName written counter.headerName = true) :
    Headers.sameName written clusterIdName = false := by
  have hapart : Headers.sameName counter.headerName clusterIdName = false := by
    cases counter <;> decide
  exact Headers.sameName_eq_false_of_sameName hwritten hapart

/-- Without a header that tells one counter, the rest of the state is the same. -/
theorem ofHeaders_remove {counter : Counter} {written : Text}
    (hwritten : Headers.sameName written counter.headerName = true) (front back : Headers) (value : Text) :
    (ofHeaders (front ++ (written, value) :: back)).clusterId = (ofHeaders (front ++ back)).clusterId ∧
      ∀ other, other ≠ counter →
        Counter.of (ofHeaders (front ++ (written, value) :: back)) other =
          Counter.of (ofHeaders (front ++ back)) other := by
  constructor
  · exact Headers.lookup?_remove (sameName_clusterIdName hwritten) front back value
  · intro other hother
    rw [Counter.of_ofHeaders, Counter.of_ofHeaders, wholeIn, wholeIn,
      Headers.lookup?_remove (sameName_of_ne hother hwritten)]

end ClusterInfo

namespace Reply

/-- An answer under other headers. -/
def under (r : Reply) (headers : Headers) : Reply := { r with headers := headers }

/-- Other headers change the state of the cluster in a response, and nothing else of what becomes of an answer. -/
theorem classify_under (r : Reply) (spec : RequestSpec) (e : Endpoint) (headers headers' : Headers) :
    (r.under headers).classify spec e = ((r.under headers').classify spec e).map fun response =>
      { response with cluster := .ofHeaders headers } := by
  -- neither the payload nor the refusal looks at a header
  have hpayload (headers : Headers) : (r.under headers).payload spec e = r.payload spec e := rfl
  unfold classify
  rw [hpayload, hpayload]
  cases r.payload spec e with
  | ok payload => rfl
  | error fault => rfl

end Reply

/-- **Headers tell the state of the cluster and decide nothing else.** Under any two lists of headers an answer
gives the same payload or fails in the same way, and a response differs in the state of the cluster alone. Each
part of the state is told by the first header of its name: the identity of the cluster is its value, and a
counter is the whole number that its value spells. A header that should spell a whole number and does not
leaves its counter untold and every other part as it is without that header. -/
theorem headers_tell_the_cluster_alone (r : Reply) (spec : RequestSpec) (e : Endpoint) (headers headers' : Headers) :
    (r.under headers).classify spec e = ((r.under headers').classify spec e).map (fun response =>
      { response with cluster := .ofHeaders headers }) ∧
    (∀ value, (ClusterInfo.ofHeaders headers).clusterId = some value ↔
      headers.FirstNamed ClusterInfo.clusterIdName value) ∧
    (∀ counter n, ClusterInfo.Counter.of (.ofHeaders headers) counter = some n ↔
      ∃ value, headers.FirstNamed counter.headerName value ∧ Whole.Spells value n) ∧
    ((∀ value, headers.FirstNamed ClusterInfo.clusterIdName value ↔
        headers'.FirstNamed ClusterInfo.clusterIdName value) →
      (ClusterInfo.ofHeaders headers).clusterId = (ClusterInfo.ofHeaders headers').clusterId) ∧
    (∀ counter : ClusterInfo.Counter,
      (∀ value, headers.FirstNamed counter.headerName value ↔ headers'.FirstNamed counter.headerName value) →
      ClusterInfo.Counter.of (.ofHeaders headers) counter = ClusterInfo.Counter.of (.ofHeaders headers') counter) ∧
    ∀ (counter : ClusterInfo.Counter) (front back : Headers) (written value : Text),
      headers = front ++ (written, value) :: back →
      Headers.sameName written counter.headerName = true →
      (∀ header ∈ front, Headers.sameName header.1 counter.headerName = false) →
      (∀ n, ¬Whole.Spells value n) →
      ClusterInfo.Counter.of (.ofHeaders headers) counter = none ∧
        (ClusterInfo.ofHeaders headers).clusterId = (ClusterInfo.ofHeaders (front ++ back)).clusterId ∧
        ∀ other, other ≠ counter → ClusterInfo.Counter.of (.ofHeaders headers) other =
          ClusterInfo.Counter.of (.ofHeaders (front ++ back)) other := by
  refine ⟨r.classify_under spec e headers headers', fun value => Headers.lookup?_eq_some_iff, ?_,
    Headers.lookup?_congr, ?_, ?_⟩
  · intro counter n
    rw [ClusterInfo.Counter.of_ofHeaders, ClusterInfo.wholeIn_eq_some_iff]
  · intro counter hsame
    rw [ClusterInfo.Counter.of_ofHeaders, ClusterInfo.Counter.of_ofHeaders, ClusterInfo.wholeIn,
      ClusterInfo.wholeIn, Headers.lookup?_congr hsame]
  · rintro counter front back written value rfl hwritten hfront hvalue
    refine ⟨?_, ClusterInfo.ofHeaders_remove hwritten front back value⟩
    rw [ClusterInfo.Counter.of_ofHeaders]
    exact ClusterInfo.wholeIn_eq_none_of_unspelled ⟨front, written, back, rfl, hwritten, hfront⟩ hvalue

/-- Headers of which one is malformed, one is given twice, and two spell their numbers at length. -/
def Headers.unruly : Headers :=
  [("x-raft-TERM", "two"), ("X-Etcd-Index", " +1_0\n"), ("x-etcd-index", "eleven"), ("X-Raft-Term", "2"),
    ("X-Raft-Index", "-\u0663_\uFF10")]

/-- The malformed header hides the one after it; the numbers are spelled with blanks, a sign and underscores, and in
the digits of several scripts. -/
theorem headers_tell_the_cluster_alone_unruly :
    (ClusterInfo.ofHeaders .unruly).raftTerm = none ∧
      (ClusterInfo.ofHeaders .unruly).etcdIndex = some 10 ∧
      (ClusterInfo.ofHeaders .unruly).raftIndex = some (-30) ∧
      (ClusterInfo.ofHeaders .unruly).etcdIndex = (ClusterInfo.ofHeaders Headers.unruly.tail).etcdIndex ∧
      (Reply.under ⟨200, [], []⟩ .unruly).classify (.get "v2/keys") ⟨"http://etcd1:2379"⟩ =
        .ok ⟨.nothing, .ofHeaders .unruly, ⟨"http://etcd1:2379"⟩⟩ := by
  obtain ⟨hclassify, -, hcounter, -, -, hmalformed⟩ :=
    headers_tell_the_cluster_alone ⟨200, [], []⟩ (.get "v2/keys") ⟨"http://etcd1:2379"⟩ .unruly []
  -- what spells a number would be read
  have htwo (n : Int) : ¬Whole.Spells "two" n := by
    intro h
    have hread : Whole.read? (Text.strip "two") = none := by decide
    rw [Whole.read?_strip_eq_some_iff.2 h] at hread
    cases hread
  obtain ⟨hterm, -, hothers⟩ := hmalformed .raftTerm [] _ "x-raft-TERM" "two" rfl (by decide)
    (fun header hheader => absurd hheader List.not_mem_nil) htwo
  have hetcd := (hcounter .etcdIndex 10).2 ⟨" +1_0\n", Headers.lookup?_eq_some_iff.1 (by decide),
    Whole.read?_strip_eq_some_iff.1 (by decide)⟩
  have hraft := (hcounter .raftIndex (-30)).2 ⟨"-\u0663_\uFF10", Headers.lookup?_eq_some_iff.1 (by decide),
    Whole.read?_strip_eq_some_iff.1 (by decide)⟩
  exact ⟨hterm, hetcd, hraft, hothers .etcdIndex (by decide), hclassify.trans rfl⟩

end ClusterClient
