import ClusterClient.Proofs.Endpoint.Address
import Mathlib.Data.List.Forall2
import Mathlib.Data.List.TakeWhile

/-!
# Which values are endpoints

A value is an endpoint if it is the text of a web server's URL that has a host and neither a query nor a fragment.
A list is read from the front, and the first value that is none is what the whole list is refused for.

A refusal shows the value and says why. Two kinds of values are refused without one: a URL whose host begins with
an encoded label that cannot be decoded fails with the fault of that label, because the host is looked at after the
URL was read; and a value that cannot be shown, as a whole number of too many digits or lists nested too deep, fails
as it is put into the message.

## The architecture

* **`Endpoint.Names`**: which values are endpoints, and of which URL (`Endpoint.read_eq_ok_iff`).
* **`Endpoint.Refuses`**: what the others are refused with (`Endpoint.refuses_of_read`).
* **`endpoint_lists_are_read`**: both together, with `endpoint_refused_by_its_host` for a refusal of the first kind.
-/

namespace ClusterClient

namespace Endpoint

/-! ## Values -/

/-- The value is the text of a web server's URL, with blanks around it or not. -/
def IsUrlOf (value : Value) (u : Url) : Prop :=
  ∃ t, value = .text t ∧ Url.read t.strip = .ok u ∧ (u.scheme = "http" ∨ u.scheme = "https")

/-- The value is an endpoint: its URL has a host that can be shown and neither a query nor a fragment, and the
endpoint keeps the text of that URL. -/
def Names (value : Value) (e : Endpoint) : Prop :=
  ∃ u, IsUrlOf value u ∧ (∃ name, Host.shown u.host = .ok name ∧ name ≠ []) ∧ u.query.getD [] = [] ∧
    u.fragment.getD [] = [] ∧ e = ⟨u.toText⟩

/-- The host of the value's URL begins with an encoded label and cannot be decoded. -/
def IsUndecodable (value : Value) (fault : DomainFault) : Prop :=
  ∃ u, IsUrlOf value u ∧ Domain.encodedStart <+: u.host ∧ Domain.decode u.host = .error fault

/-- How a value that is no endpoint is refused where there is this much room. -/
inductive Refuses (room : Room) (value : Value) : Failure → Prop
  | invalid (reason : Text) (hshown : value.whyUnshown? room.shown = none)
      (hhost : ∀ fault, ¬IsUndecodable value fault) : Refuses room value (.invalidEndpoint value reason)
  | host {fault : DomainFault} (hhost : IsUndecodable value fault) : Refuses room value (.domain fault)
  | unshown {e : External} (hunshown : value.whyUnshown? room.shown = some e) : Refuses room value (.external e)

variable {room : Room} {value : Value} {e : Endpoint} {u : Url} {f : Failure}

/-- A value without a URL has no host that could be at fault. -/
theorem Refuses.of_no_url (hshown : value.whyUnshown? room.shown = none) (hnone : ∀ u, ¬IsUrlOf value u)
    (reason : Text) : Refuses room value (.invalidEndpoint value reason) :=
  .invalid reason hshown fun _ ⟨u, hurl, _⟩ => hnone u hurl

/-- A host is refused to be shown if it begins like an encoded name and does not decode. -/
theorem shown_eq_error_iff {host : Text} {fault : DomainFault} :
    Host.shown host = .error fault ↔ Domain.encodedStart <+: host ∧ Domain.decode host = .error fault := by
  unfold Host.shown
  split
  · next hstart => simp [List.isPrefixOf_iff_prefix.1 hstart]
  · next hstart =>
    refine ⟨nofun, fun h => ?_⟩
    exact absurd (List.isPrefixOf_iff_prefix.2 h.1) hstart

/-! ### What becomes of a URL -/

/-- **An address makes an endpoint** exactly if its scheme is one of the two, it has a host that can be shown
and is not empty, and nothing is in its query or its fragment. The endpoint is the address as it is written. -/
theorem ofUrl_eq_ok_iff :
    ofUrl value u = .ok e ↔
      (u.scheme = "http" ∨ u.scheme = "https") ∧ (∃ name, Host.shown u.host = .ok name ∧ name ≠ []) ∧
        u.query.getD [] = [] ∧ u.fragment.getD [] = [] ∧ e = ⟨u.toText⟩ := by
  constructor
  · intro h
    obtain ⟨hurl, hscheme, hquery, hfragment, hhost⟩ := keeps_of_ofUrl h
    exact ⟨hscheme, hhost, hquery, hfragment, congrArg Endpoint.mk hurl⟩
  · rintro ⟨hscheme, ⟨name, hshown, hname⟩, hquery, hfragment, rfl⟩
    have hweb : ¬(decide (u.scheme ≠ "http") && decide (u.scheme ≠ "https")) = true := by
      rcases hscheme with h | h <;> simp [h]
    have hempty : ¬name.isEmpty = true := fun h => hname (List.isEmpty_iff.1 h)
    unfold ofUrl
    rw [if_neg hweb]
    simp [hshown, hempty, hquery, hfragment]
    rfl

/-- A URL that makes no endpoint is refused with the value, unless its host cannot be shown. The scheme is
checked first, then the host is decoded, and that it is there and everything else is looked at only after that.
-/
theorem of_ofUrl_eq_error (h : ofUrl value u = .error f) :
    (∃ reason, f = .invalidEndpoint value reason) ∧
        ((u.scheme = "http" ∨ u.scheme = "https") → ∃ name, Host.shown u.host = .ok name) ∨
      ∃ fault, (u.scheme = "http" ∨ u.scheme = "https") ∧ Host.shown u.host = .error fault ∧ f = .domain fault := by
  unfold ofUrl at h
  rcases Except.of_guard_error h with ⟨hscheme, rfl⟩ | ⟨hscheme, h⟩
  -- another scheme is refused before the host is looked at
  · refine .inl ⟨⟨_, rfl⟩, ?_⟩
    rintro (hhttp | hhttps) <;> simp_all
  · dsimp only at h
    split at h
    · next fault hshown =>
      -- the scheme has passed, and decoding the host fails
      refine .inr ⟨fault, ?_, hshown, (Except.error.inj h).symm⟩
      by_cases hhttp : u.scheme = "http"
      · exact .inl hhttp
      · exact .inr (Decidable.byContradiction fun hhttps => hscheme (by simp [hhttp, hhttps]))
    · next name hshown =>
      refine .inl ⟨?_, fun _ => ⟨name, hshown⟩⟩
      rcases Except.of_guard_error h with ⟨-, rfl⟩ | ⟨-, h⟩
      · exact ⟨_, rfl⟩
      · rcases Except.of_guard_error h with ⟨-, rfl⟩ | ⟨-, h⟩
        · exact ⟨_, rfl⟩
        · cases h

/-! ### What becomes of a value -/

theorem strip_of_isBlank {t : Text} (h : t.isBlank = true) : t.strip = [] := by
  have hnone : t.dropWhile CodePoint.isBlank = [] := List.dropWhile_eq_nil_iff.2 (List.all_eq_true.1 h)
  rw [Text.strip, Text.stripBy, hnone]
  rfl

/-- Blanks alone are no URL of a web server. -/
theorem IsUrlOf.of_text {t : Text} (h : IsUrlOf (.text t) u) :
    t.isBlank = false ∧ Url.read t.strip = .ok u ∧ (u.scheme = "http" ∨ u.scheme = "https") := by
  obtain ⟨t', ht, hread, hscheme⟩ := h
  obtain rfl : t = t' := by cases ht; rfl
  refine ⟨Bool.eq_false_iff.2 fun hblank => ?_, hread, hscheme⟩
  have hempty : Url.read [] = .ok ⟨[], [], [], none, [], none, none⟩ := by rfl
  rw [strip_of_isBlank hblank, hempty] at hread
  obtain rfl := Except.ok.inj hread
  exact absurd hscheme (by decide)

/-- A text that is not blank is read as an address, without the blanks around it. -/
theorem read_text {t : Text} (hblank : t.isBlank = false) :
    read room (.text t) =
      match Url.read t.strip with
      | .error fault => .error (.invalidEndpoint (.text t) fault.message)
      | .ok url => ofUrl (.text t) url := by
  show (if t.isBlank then _ else _) = _
  rw [hblank]
  rfl

/-- **A value is read as an endpoint exactly if it is one.** -/
theorem read_eq_ok_iff : read room value = .ok e ↔ Names value e := by
  constructor
  · intro h
    obtain ⟨t, u, rfl, hread, hkeeps⟩ := exists_keeps_of_read h
    exact ⟨u, ⟨t, rfl, hread, hkeeps.written.scheme⟩, hkeeps.shown, hkeeps.query_bare, hkeeps.fragment_bare,
      congrArg Endpoint.mk hkeeps.url_eq⟩
  · rintro ⟨u, ⟨t, rfl, hread, hscheme⟩, hhost, hquery, hfragment, rfl⟩
    obtain ⟨hblank, -, -⟩ := IsUrlOf.of_text ⟨t, rfl, hread, hscheme⟩
    rw [read_text hblank, hread]
    exact ofUrl_eq_ok_iff.2 ⟨hscheme, hhost, hquery, hfragment, rfl⟩

/-- A text can always be shown, so that a text that is refused is named unless its host is at fault. It is
blank, is no URL, or is a URL that makes no endpoint. -/
theorem refuses_of_text {t : Text} (h : read room (.text t) = .error f) : Refuses room (.text t) f := by
  have hshows := Value.whyUnshown?_text room.shown t
  cases hblank : t.isBlank with
  | true =>
    -- a blank text is refused as a value, and can be shown as every text can
    have hrefused : f = refusal room (.text t) "expected a non-empty URL string" := by
      have h' : (if t.isBlank then _ else _) = Except.error f := h
      rw [hblank] at h'
      exact (Except.error.inj h').symm
    rw [hrefused, refusal, hshows]
    refine .of_no_url hshows (fun u hurl => ?_) _
    rw [hurl.of_text.1] at hblank
    cases hblank
  | false =>
    rw [read_text hblank] at h
    split at h
    · next why hread =>
      obtain rfl := Except.error.inj h
      refine .of_no_url hshows (fun u hurl => ?_) _
      rw [hurl.of_text.2.1] at hread
      cases hread
    · next u hread =>
      rcases of_ofUrl_eq_error h with ⟨⟨reason, rfl⟩, hshown⟩ | ⟨fault, hscheme, hshown, rfl⟩
      · refine .invalid _ hshows fun fault hundecodable => ?_
        -- a host that does not decode would have been at fault itself
        obtain ⟨v, hurl, hstart, hdecode⟩ := hundecodable
        obtain ⟨-, hread', hscheme⟩ := hurl.of_text
        obtain rfl := Except.ok.inj (hread.symm.trans hread')
        obtain ⟨name, hname⟩ := hshown hscheme
        rw [shown_eq_error_iff.2 ⟨hstart, hdecode⟩] at hname
        cases hname
      · exact .host ⟨u, ⟨t, rfl, hread, hscheme⟩, shown_eq_error_iff.1 hshown⟩

/-- **What a value that is no endpoint is refused with.** A text is refused for what it says. Anything else is
refused for not being a text, and that refusal shows the value: one that cannot be shown is refused for that
instead. -/
theorem refuses_of_read (h : read room value = .error f) : Refuses room value f := by
  have hother (hvalue : ∀ t, value ≠ .text t) (hf : f = refusal room value "expected a non-empty URL string") :
      Refuses room value f := by
    rw [hf, refusal]
    split
    · next e hunshown => exact .unshown hunshown
    · next hshown => exact .of_no_url hshown (fun u ⟨t, ht, _⟩ => hvalue t ht) _
  cases value with
  | scalar s =>
    cases s with
    | text t => exact refuses_of_text h
    | _ => exact hother (fun t ht => by cases ht) (Except.error.inj h).symm
  | list items => exact hother (fun t ht => by cases ht) (Except.error.inj h).symm
  | mapping entries => exact hother (fun t ht => by cases ht) (Except.error.inj h).symm

/-! ## Lists -/

/-- What is handed in as an endpoint gives this one. -/
inductive Source.Gives : Source → Endpoint → Prop
  | value {value : Value} {e : Endpoint} (h : Names value e) : Gives (.value value) e
  | endpoint (e : Endpoint) : Gives (.endpoint e) e

theorem ofSource_eq_ok_iff {source : Source} : ofSource room source = .ok e ↔ source.Gives e := by
  cases source with
  | value value => exact read_eq_ok_iff.trans ⟨.value, fun h => by cases h; assumption⟩
  | endpoint e' => exact ⟨fun h => Except.ok.inj h ▸ .endpoint e', fun h => by cases h; rfl⟩

/-- A source that gives none is a value, which names none and is refused for a reason. -/
theorem of_ofSource_eq_error {source : Source} (h : ofSource room source = .error f) :
    ∃ value, source = .value value ∧ (∀ e, ¬Names value e) ∧ Refuses room value f := by
  cases source with
  | value value =>
    refine ⟨value, rfl, fun e hnames => ?_, refuses_of_read h⟩
    rw [show ofSource room (.value value) = read room value from rfl, read_eq_ok_iff.2 hnames] at h
    cases h
  | endpoint e => cases h

/-- Entry by entry, a list gives these endpoints if they are what its entries are read as. -/
theorem forall₂_gives_iff {sources : List Source} {es : List Endpoint} :
    List.Forall₂ Source.Gives sources es ↔ sources.mapM (ofSource room) = .ok es := by
  rw [Except.mapM_eq_ok_iff, ← List.forall₂_eq_eq_eq, List.forall₂_map_left_iff, List.forall₂_map_right_iff]
  exact ⟨List.Forall₂.imp fun _ _ => ofSource_eq_ok_iff.2, List.Forall₂.imp fun _ _ => ofSource_eq_ok_iff.1⟩

/-- **A list of sources is accepted** exactly if it is not empty and each of them gives its endpoint, in order.
-/
theorem readAll_eq_ok_iff {sources : List Source} {es : List Endpoint} :
    readAll room sources = .ok es ↔ sources ≠ [] ∧ List.Forall₂ Source.Gives sources es := by
  have heach : List.Forall₂ Source.Gives sources es ↔ sources.mapM (ofSource room) = .ok es := forall₂_gives_iff
  rw [heach]
  unfold readAll
  constructor
  · intro h
    obtain ⟨found, hfound, h⟩ := Except.of_bind h
    obtain ⟨hsome, h⟩ := Except.of_guard h
    obtain rfl := Except.ok.inj h
    refine ⟨?_, hfound⟩
    rintro rfl
    obtain rfl := Except.ok.inj hfound
    exact hsome rfl
  · rintro ⟨hsources, hfound⟩
    -- there are as many endpoints as sources
    have hes : ¬es.isEmpty = true := by
      intro hempty
      rw [List.isEmpty_iff.1 hempty] at heach
      exact hsources (List.forall₂_nil_right_iff.1 (heach.2 (List.isEmpty_iff.1 hempty ▸ hfound)))
    rw [hfound]
    show (if es.isEmpty = true then _ else _) = _
    rw [if_neg hes]
    rfl

/-- **A list is refused for its first entry that is no endpoint**, and as that entry is. The entries before it
are endpoints, and those behind it have not been looked at. -/
theorem of_readAll_eq_error {sources : List Source} (hsources : sources ≠ []) (h : readAll room sources = .error f) :
    ∃ accepted value rest, sources = accepted ++ .value value :: rest ∧ (∀ s ∈ accepted, ∃ e, s.Gives e) ∧
      (∀ e, ¬Names value e) ∧ Refuses room value f := by
  cases hfound : sources.mapM (ofSource room) with
  | ok es =>
    rw [readAll_eq_ok_iff.2 ⟨hsources, forall₂_gives_iff.2 hfound⟩] at h
    cases h
  | error f' =>
    unfold readAll at h
    rw [hfound] at h
    obtain rfl := Except.error.inj h
    obtain ⟨accepted, source, rest, rfl, haccepted, hsource⟩ := Except.exists_of_mapM_eq_error hfound
    obtain ⟨value, rfl, hnone, hrefuses⟩ := of_ofSource_eq_error hsource
    exact ⟨accepted, value, rest, rfl, fun s hs => (haccepted s hs).imp fun _ => ofSource_eq_ok_iff.1, hnone, hrefuses⟩

end Endpoint

open Endpoint

/-- **How lists of endpoints are read.** A list gives its endpoints, one for each entry and in order, exactly if it is
not empty and every entry is an endpoint; an empty list fails because there is none. Any other list fails at its
first entry that is no endpoint: the failure names that entry, unless the host of its URL cannot be decoded or the
entry cannot be shown. A single entry is read in the same way. -/
theorem endpoint_lists_are_read (room : Room) (sources : List Source) :
    (∀ es, readAll room sources = .ok es ↔ sources ≠ [] ∧ List.Forall₂ Source.Gives sources es) ∧
    (readAll room sources = .error .noMembers ↔ sources = []) ∧
    (∀ f, sources ≠ [] → readAll room sources = .error f →
      ∃ accepted value rest, sources = accepted ++ .value value :: rest ∧ (∀ s ∈ accepted, ∃ e, s.Gives e) ∧
        (∀ e, ¬Names value e) ∧ Refuses room value f) ∧
    ∀ value, (∀ e, Endpoint.read room value = .ok e ↔ Names value e) ∧
      ∀ f, Endpoint.read room value = .error f → (∀ e, ¬Names value e) ∧ Refuses room value f := by
  refine ⟨fun es => readAll_eq_ok_iff, ⟨fun h => ?_, ?_⟩, fun f => of_readAll_eq_error, fun value => ⟨fun e =>
    read_eq_ok_iff, fun f h => ⟨fun e hnames => ?_, refuses_of_read h⟩⟩⟩
  · -- an entry is never refused for want of endpoints
    refine Decidable.byContradiction fun hsources => ?_
    obtain ⟨-, value, -, -, -, -, hrefuses⟩ := of_readAll_eq_error hsources h
    cases hrefuses
  · rintro rfl
    rfl
  · rw [read_eq_ok_iff.2 hnames] at h
    cases h

/-- An endpoint, a text with blanks around it, and a number, behind which nothing is looked at any more. The
number is refused for being no text, and is named in its own digits. -/
theorem endpoint_lists_are_read_up_to_a_number :
    readAll .usual [.endpoint ⟨"http://etcd1:2379"⟩, .value (.text " HTTP://Etcd2:2379/a/../b ")] =
        .ok [⟨"http://etcd1:2379"⟩, ⟨"http://etcd2:2379/b"⟩] ∧
      List.Forall₂ Source.Gives [.endpoint ⟨"http://etcd1:2379"⟩, .value (.text " HTTP://Etcd2:2379/a/../b ")]
        [⟨"http://etcd1:2379"⟩, ⟨"http://etcd2:2379/b"⟩] ∧
      ∃ accepted value rest, [Source.endpoint ⟨"http://etcd1:2379"⟩, .value (.whole 2379), .value (.text "")] =
          accepted ++ .value value :: rest ∧ (∀ s ∈ accepted, ∃ e, s.Gives e) ∧
        Refuses .usual value (.invalidEndpoint (.whole 2379) "expected a non-empty URL string") := by
  have hread : readAll .usual [.endpoint ⟨"http://etcd1:2379"⟩, .value (.text " HTTP://Etcd2:2379/a/../b ")] =
      .ok [⟨"http://etcd1:2379"⟩, ⟨"http://etcd2:2379/b"⟩] := by rfl
  have hshown : (Value.whole 2379).whyUnshown? Room.usual.shown = none := by decide +kernel
  have hrefused : readAll .usual [.endpoint ⟨"http://etcd1:2379"⟩, .value (.whole 2379), .value (.text "")] =
      .error (.invalidEndpoint (.whole 2379) "expected a non-empty URL string") := by
    show Except.error (refusal .usual (.whole 2379) "expected a non-empty URL string") = _
    rw [refusal, hshown]
  obtain ⟨hgives, -, hfirst, -⟩ := endpoint_lists_are_read .usual
    [.endpoint ⟨"http://etcd1:2379"⟩, .value (.whole 2379), .value (.text "")]
  obtain ⟨accepted, value, rest, hsplit, haccepted, -, hrefuses⟩ := hfirst _ (by simp) hrefused
  exact ⟨hread, (((endpoint_lists_are_read .usual _).1 _).1 hread).2, accepted, value, rest, hsplit, haccepted, hrefuses⟩

/-- The second entry is the text of a web server's URL, but its host is an encoded label that encodes nothing: the
list fails with the fault of that label, and the entry is not named. -/
theorem endpoint_refused_by_its_host :
    Endpoint.readAll .usual [.value (.text "http://etcd1:2379"), .value (.text "http://xn--")] =
        .error (.domain .nothingEncoded) ∧
      ∀ reason, Endpoint.readAll .usual [.value (.text "http://etcd1:2379"), .value (.text "http://xn--")] ≠
        .error (.invalidEndpoint (.text "http://xn--") reason) := by
  have hread : Endpoint.readAll .usual [.value (.text "http://etcd1:2379"), .value (.text "http://xn--")] =
      .error (.domain .nothingEncoded) := by rfl
  refine ⟨hread, fun reason h => ?_⟩
  rw [hread] at h
  cases h

end ClusterClient
