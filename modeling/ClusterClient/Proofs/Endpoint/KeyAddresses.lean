import ClusterClient.Proofs.Endpoint.Collections

/-!
# The addresses of keys

A key is quoted twice on its way into an address: once as it is appended to an endpoint, and once more when the
whole is read as a URL, which leaves the escapes of the first time alone. So a key is read back from the path of
its address, and keys with different paths have different addresses.

An address can be made unless the key has a surrogate, or the whole is too long, or the URL of the endpoint
cannot be read. The last happens to some endpoints that were read themselves: a host that is written with
the full stops of another script is kept with ASCII ones, and may look like an IPv4 address then that it is not.

## The architecture

* **`Host.normalize_writtenHost_eq_ok_iff`**: which kept hosts can be read again, and
  **`Host.not_isDisguised_of_isAscii`**: all that were written in ASCII can.
* **`Endpoint.Keeps.exists_addressOf_iff`**: when an address below an endpoint can be made.
* **`KeyCall.quoted_path_eq`**: how a key stands in its address. **`Endpoint.Keeps.path_of_key`** reads it back.
* **`key_addresses`**: all of it, with `endpoint_that_cannot_be_read` for an endpoint of the last kind.
-/

namespace ClusterClient

/-! ## Hosts that cannot be read again -/

namespace Host

/-- A name that looks like an IPv4 address and is none. -/
def IsDisguised (host : Text) : Prop := looksLikeIPv4 host = true ∧ isIPv4 host = false

/-- A host with a colon does not look like four numbers. -/
theorem not_looksLikeIPv4_of_isIPv6 {host : Text} (h : isIPv6 host = true) : ¬looksLikeIPv4 host = true := by
  intro hfour
  rcases of_looksLikeIPv4 hfour (mem_colon_of_isIPv6 h) with hdigit | hdot
  · exact absurd hdigit (by decide)
  · exact absurd hdot (by decide)

/-- **A kept host can be read again unless it is a disguised name.** -/
theorem normalize_writtenHost_eq_ok_iff {host : Text} (h : IsWritten host) :
    normalize (Url.writtenHost host) = .ok (respelled host) ↔ ¬IsDisguised host := by
  unfold IsDisguised
  rcases h with hname | haddress
  · rw [writtenHost_name hname, respelled_name hname, normalize_name hname]
    by_cases hfour : looksLikeIPv4 host = true
    · rw [if_pos hfour, toAsciiLower_of_looksLikeIPv4 hfour]
      cases isIPv4 host <;> simp [hfour]
    · simp [hfour]
  · rw [writtenHost_address haddress, respelled_address haddress, normalize_address haddress]
    simp [not_looksLikeIPv4_of_isIPv6 haddress.valid]

/-- A text looks like an IPv4 address only if it does so before it is escaped. -/
theorem looksLikeIPv4_of_flatMap_protect {kept : CodePoint → Bool} {t : Text}
    (h : looksLikeIPv4 (t.flatMap (Percent.protect kept)) = true) : t.flatMap (Percent.protect kept) = t := by
  refine Percent.flatMap_protect_of_forall fun c hc => Decidable.byContradiction fun hnot => ?_
  -- an escape would begin with a percent sign
  obtain ⟨d, hd⟩ := Percent.exists_mem_escape c
  obtain ⟨b, hb, -⟩ := List.mem_flatMap.1 hd
  have hpercent : CodePoint.ofChar '%' ∈ t.flatMap (Percent.protect kept) := by
    refine List.mem_flatMap.2 ⟨c, hc, ?_⟩
    rw [Percent.protect, if_neg hnot]
    exact List.mem_flatMap.2 ⟨b, hb, List.mem_cons_self⟩
  rcases of_looksLikeIPv4 h hpercent with hdigit | hdot
  · exact absurd hdigit (by decide)
  · exact absurd hdot (by decide)

/-- **A host that was written in ASCII is no disguised name.** One that looks like an address is checked before
it is kept, and neither escapes nor lower case make an address of a name. -/
theorem not_isDisguised_of_isAscii {t host : Text} (h : normalize t = .ok host) (ht : t.isAscii = true) :
    ¬IsDisguised host := by
  rintro ⟨hfour, hnone⟩
  unfold normalize at h
  split at h
  · obtain rfl := Except.ok.inj h
    exact absurd hfour (by decide)
  · split at h
    · split at h
      · next hvalid =>
        obtain rfl := Except.ok.inj h
        rw [hnone] at hvalid
        cases hvalid
      · cases h
    · next hlooks =>
      split at h
      · dsimp only at h
        split at h
        · next hsix =>
          obtain rfl := Except.ok.inj h
          exact not_looksLikeIPv4_of_isIPv6 hsix hfour
        · cases h
      · obtain rfl := Except.ok.inj h
        -- neither escapes nor lower case make an address of a name
        have hsame := looksLikeIPv4_of_flatMap_protect hfour
        rw [hsame] at hfour
        rw [looksLikeIPv4_toAsciiLower hfour] at hfour
        exact hlooks hfour

end Host

/-! ## Addresses that can be made -/

/-- Slashes in front are no surrogates. -/
theorem RequestSpec.isSurrogate_dropWhile_iff {path : Text} :
    (∀ c ∈ path.dropWhile (· = CodePoint.ofChar '/'), c.isSurrogate = false) ↔ ∀ c ∈ path, c.isSurrogate = false := by
  constructor
  · intro hrest c hc
    rw [← List.takeWhile_append_dropWhile (p := (· = CodePoint.ofChar '/')) (l := path)] at hc
    rcases List.mem_append.1 hc with hslash | hc
    · obtain rfl := of_decide_eq_true (List.all_eq_true.1 List.all_takeWhile c hslash)
      decide
    · exact hrest c hc
  · exact fun hall c hc => hall c ((List.dropWhile_suffix _).subset hc)

/-- A path without parameters gives a URL if it can be written in octets and the whole can be read. Only
surrogates have no octets, and a slash that is stripped in front is none. -/
theorem RequestSpec.exists_addressUrl_iff {e : Endpoint} {path : Text} :
    (∃ w, addressUrl e path [] = .ok w) ↔
      (∀ c ∈ path, c.isSurrogate = false) ∧ ∃ v, Url.read (e.base ++ quoted path) = .ok v := by
  rw [← isSurrogate_dropWhile_iff]
  unfold addressUrl
  constructor
  · rintro ⟨w, hw⟩
    split at hw
    · cases hw
    · next hquoted =>
      obtain ⟨hplain, rfl⟩ := Percent.of_encode hquoted
      obtain ⟨v, hread, -⟩ := Except.of_bind hw
      exact ⟨hplain, v, hread⟩
  · rintro ⟨hplain, v, hread⟩
    rw [Percent.encode_of_forall hplain]
    refine ⟨v, ?_⟩
    show (Url.read (e.base ++ quoted path) >>= _) = _
    rw [hread]
    rfl

namespace Endpoint

/-- The text of the endpoint is that of a URL. -/
def IsReadable (e : Endpoint) : Prop := ∃ own, Url.ofText e.url = .ok own

namespace Keeps

variable {e : Endpoint} {u : Url}

/-- The address of an endpoint can be read again exactly if its host is spelled as it was. -/
theorem isReadable_iff (h : e.Keeps u) :
    e.IsReadable ↔ Host.normalize (Url.writtenHost u.host) = .ok (Host.respelled u.host) := by
  unfold IsReadable
  rw [h.url_eq]
  constructor
  · rintro ⟨own, hown⟩
    have hhost := h.written.normalize_host hown
    rwa [(Host.normalize_respelled h.written.host hhost).1] at hhost
  · exact fun hhost => ⟨u.reread, h.written.ofText_toText_reread hhost⟩

/-- What is read of the endpoint with a path appended, if it is not too long. -/
theorem read_base_append (h : e.Keeps u) (path : Text) :
    (∃ v, Url.read (e.base ++ RequestSpec.quoted path) = .ok v) ↔
      (e.base ++ RequestSpec.quoted path).length ≤ Url.maxLength ∧ e.IsReadable := by
  have hwritten := h.written.below fun c (hc : c ∈ RequestSpec.quoted path) => RequestSpec.isQuoted_of_mem_quoted hc
  rw [h.isReadable_iff]
  constructor
  · rintro ⟨v, hread⟩
    exact ⟨(Url.of_read hread).1, (h.of_read_base_append hread).2.2⟩
  · rintro ⟨hlength, hhost⟩
    rw [← u.host_below (RequestSpec.quoted path)] at hhost
    rw [h.base_append] at hlength ⊢
    rw [Url.read_eq hwritten.isAsciiControl_of_mem_toText, if_neg (Nat.not_lt.2 hlength)]
    exact ⟨_, hwritten.ofText_toText_reread hhost⟩

/-- Without parameters there is no value to be shown, so that a URL alone can be in the way of an address. -/
theorem fault_of_addressOf_nil (h : e.Keeps u) {room : Room} {path : Text} {f : Failure}
    (hf : RequestSpec.addressOf room e path [] = .error f) :
    ∃ why, RequestSpec.addressUrl e path [] = .error why ∧ f = RequestSpec.noAddress e path (some why) := by
  rcases h.fault_of_addressOf hf with ⟨why, hnone, -⟩ | ⟨parameters, why, hnone, hwhy, rfl⟩
  · cases hnone
  · obtain rfl := Except.ok.inj hnone
    exact ⟨why, hwhy, rfl⟩

/-- **When an address below an endpoint can be made**: the path can be written in octets, the whole is not
too long, and the endpoint can be read. -/
theorem exists_addressOf_iff (h : e.Keeps u) (room : Room) (path : Text) :
    (∃ address, RequestSpec.addressOf room e path [] = .ok address) ↔
      (∀ c ∈ path, c.isSurrogate = false) ∧
        (e.base ++ RequestSpec.quoted path).length ≤ Url.maxLength ∧ e.IsReadable := by
  rw [← h.read_base_append, ← RequestSpec.exists_addressUrl_iff]
  constructor
  · rintro ⟨address, haddress⟩
    obtain ⟨w, hw, -⟩ := RequestSpec.of_addressOf haddress
    exact ⟨w, hw⟩
  · rintro ⟨w, hw⟩
    cases haddress : RequestSpec.addressOf room e path [] with
    | ok address => exact ⟨address, rfl⟩
    | error f =>
      obtain ⟨why, hwhy, -⟩ := h.fault_of_addressOf_nil haddress
      rw [hw] at hwhy
      cases hwhy

end Keeps

/-- **An endpoint that was written in ASCII can be read again.** -/
theorem isReadable_of_isAscii {room : Room} {t : Text} {e : Endpoint} (hread : read room (.text t) = .ok e)
    (ht : t.isAscii = true) : e.IsReadable := by
  obtain ⟨t', u, htext, hu, hkeeps⟩ := exists_keeps_of_read hread
  obtain rfl : t = t' := by cases htext; rfl
  obtain ⟨-, -, hofText⟩ := Url.of_read hu
  rw [hkeeps.isReadable_iff, Host.normalize_writtenHost_eq_ok_iff hkeeps.written.host]
  refine Host.not_isDisguised_of_isAscii (Url.ofParts_eq_ok_iff.1 hofText).host ?_
  refine List.all_eq_true.2 fun c hc => List.all_eq_true.1 ht c ?_
  have hstrip : c ∈ t.strip := Url.mem_of_mem_authority (Url.Authority.of_mem_host hc).1
  rw [Text.strip, Text.stripBy, List.mem_reverse] at hstrip
  have hback := List.mem_reverse.1 ((List.dropWhile_suffix _).subset hstrip)
  exact (List.dropWhile_suffix _).subset hback

end Endpoint

/-! ## Keys in addresses -/

instance (path : Text) : Decidable (Url.HasNoDots path) :=
  inferInstanceAs (Decidable (∀ segment ∈ path.splitOn '/', Url.isDots segment = false))

theorem Text.isSurrogate_of_all {t : Text} (h : t.all (fun c => !c.isSurrogate) = true) :
    ∀ c ∈ t, c.isSurrogate = false := by
  simpa using h

namespace KeyCall

/-- A key with a slash put in front unless it brings one. -/
def rooted (key : Text) : Text := if key.head? = some (CodePoint.ofChar '/') then key else "/" ++ key

theorem path_eq_rooted (key : Text) : path key = root ++ rooted key := rfl

theorem rooted_eq_inner (key : Text) : rooted key = CodePoint.ofChar '/' :: Collection.keys.inner key := by
  have hpath := Collection.keys.path_eq key
  exact List.append_cancel_left hpath

/-- The path of a key has a surrogate only if the key has one. -/
theorem isSurrogate_path_iff {key : Text} :
    (∀ c ∈ path key, c.isSurrogate = false) ↔ ∀ c ∈ key, c.isSurrogate = false := by
  have hroot : ∀ c ∈ root, c.isSurrogate = false := Text.isSurrogate_of_all (by decide)
  rw [path_eq_rooted, List.forall_mem_append, and_iff_right hroot]
  unfold rooted
  split
  · rfl
  · rw [List.forall_mem_append, and_iff_right (Text.isSurrogate_of_all (by decide))]

/-- **How a key stands in its address**: as the key space and the key, all of it quoted. -/
theorem quoted_path_eq (key : Text) :
    CodePoint.ofChar '/' :: RequestSpec.quoted (path key) =
      ("/v2/keys" ++ rooted key : Text).flatMap (Percent.protect RequestSpec.isKeptInPath) := by
  have hplain : ∀ c ∈ ("/v2/keys" : Text), RequestSpec.isKeptInPath c = true :=
    List.all_eq_true.1 (by decide)
  have hslash : Percent.protect RequestSpec.isKeptInPath (CodePoint.ofChar '/') = [CodePoint.ofChar '/'] := by decide
  have hquoted := Collection.keys.quoted_path key
  rw [List.flatMap_append, Percent.flatMap_protect_of_forall hplain, rooted_eq_inner, List.flatMap_cons, hslash]
  exact congrArg (CodePoint.ofChar '/' :: ·) hquoted

/-- A key without dot segments has none below the key space either. -/
theorem hasNoDots_quoted {key : Text} (h : Url.HasNoDots key) : Url.HasNoDots (RequestSpec.quoted (path key)) := by
  have hinner : Url.HasNoDots (Collection.keys.inner key) := by
    show Url.HasNoDots (if key.head? = some (CodePoint.ofChar '/') then key.tail else key)
    split
    · next hhead =>
      obtain ⟨rest, rfl⟩ := List.head?_eq_some_iff.1 hhead
      exact (@Url.hasNoDots_append [] rest).1 h |>.2
    · exact h
  rw [show path key = Collection.keys.path key from rfl, Collection.quoted_path]
  exact Url.hasNoDots_append.2 ⟨Collection.keys.root_plain.2.1,
    Url.hasNoDots_flatMap_protect (by decide) (by decide) hinner⟩

end KeyCall

/-- **A key is read back from its address**: behind the path of the endpoint stand the key space and the key.
There are no dot segments that normal form could take away, and quoting protects everything else, so that
decoding the path gives the key itself. -/
theorem Endpoint.Keeps.path_of_key {room : Room} {e : Endpoint} {u : Url} (h : e.Keeps u) (hbare : e.IsBare)
    {key : Text} (hkey : Url.HasNoDots key) {address : Text}
    (haddress : RequestSpec.addressOf room e (KeyCall.path key) [] = .ok address) :
    ∃ (own url : Url) (rest : Text), Url.ofText e.url = .ok own ∧ Url.ofText address = .ok url ∧
      url.SameServer own ∧ url.path = own.path.stripRightBy (· = CodePoint.ofChar '/') ++ rest ∧
      Text.ofUtf8? (Percent.octets rest) = some ("/v2/keys" ++ KeyCall.rooted key) := by
  obtain ⟨own, url, hown, hpath, hurl, hserver, -, hcontinued, -, -⟩ := h.continued hbare haddress
  have hplain := ((h.exists_addressOf_iff room _).1 ⟨address, haddress⟩).1
  have hdots := Url.hasNoDots_append.2 ⟨(hpath ▸ h.noDots).stripRight, KeyCall.hasNoDots_quoted hkey⟩
  rw [Url.normalizePath_of_hasNoDots hdots] at hcontinued
  refine ⟨own, url, _, hown, hurl, hserver, hcontinued, ?_⟩
  -- the percent sign is not kept, so that every escape in the path is one of the key's own
  rw [KeyCall.quoted_path_eq, Percent.octets_flatMap_protect (by decide)]
  refine Text.ofUtf8?_utf8 fun c hc => ?_
  rcases List.mem_append.1 hc with hspace | hrooted
  · exact Text.isSurrogate_of_all (by decide) c hspace
  · exact hplain c (List.mem_append_right _ hrooted)

/-- **The addresses of keys without dot segments**, below an endpoint without marks. There is one exactly if the key
has no surrogate, the text that is read is not too long, and the endpoint can be read again, as it can if it was
written in ASCII. The key is read back from the path, so that keys with one address are the same but for a slash in
front. What goes wrong otherwise is the fault of the URL, put down to the endpoint. -/
theorem key_addresses {room : Room} {value : Value} {e : Endpoint} (hread : Endpoint.read room value = .ok e)
    (hbare : e.IsBare) {key : Text} (hkey : Url.HasNoDots key) :
    ((∃ address, RequestSpec.addressOf room e (KeyCall.path key) [] = .ok address) ↔
      (∀ c ∈ key, c.isSurrogate = false) ∧
        (e.base ++ RequestSpec.quoted (KeyCall.path key)).length ≤ Url.maxLength ∧ e.IsReadable) ∧
    (∀ t, value = .text t → t.isAscii = true → e.IsReadable) ∧
    (∀ address, RequestSpec.addressOf room e (KeyCall.path key) [] = .ok address →
      ∃ (own url : Url) (rest : Text), Url.ofText e.url = .ok own ∧ Url.ofText address = .ok url ∧
        url.SameServer own ∧ url.path = own.path.stripRightBy (· = CodePoint.ofChar '/') ++ rest ∧
        Text.ofUtf8? (Percent.octets rest) = some ("/v2/keys" ++ KeyCall.rooted key)) ∧
    (∀ address key', Url.HasNoDots key' → RequestSpec.addressOf room e (KeyCall.path key) [] = .ok address →
      RequestSpec.addressOf room e (KeyCall.path key') [] = .ok address → KeyCall.rooted key' = KeyCall.rooted key) ∧
    ∀ f, RequestSpec.addressOf room e (KeyCall.path key) [] = .error f →
      ∃ why, f = .endpoint (.address (.found ⟨e, KeyCall.path key, some why⟩)) (some e) := by
  obtain ⟨-, u, -, -, hkeeps⟩ := Endpoint.exists_keeps_of_read hread
  refine ⟨?_, ?_, fun address => hkeeps.path_of_key hbare hkey, ?_, ?_⟩
  · rw [hkeeps.exists_addressOf_iff, KeyCall.isSurrogate_path_iff]
  · rintro t rfl hascii
    exact Endpoint.isReadable_of_isAscii hread hascii
  · intro address key' hkey' haddress haddress'
    obtain ⟨own, url, rest, hown, hurl, -, hpath, hrest⟩ := hkeeps.path_of_key hbare hkey haddress
    obtain ⟨own', url', rest', hown', hurl', -, hpath', hrest'⟩ := hkeeps.path_of_key hbare hkey' haddress'
    -- both keys are read from the one address
    obtain rfl := Except.ok.inj (hown.symm.trans hown')
    obtain rfl := Except.ok.inj (hurl.symm.trans hurl')
    obtain rfl := List.append_cancel_left (hpath.symm.trans hpath')
    rw [hrest] at hrest'
    exact (List.append_cancel_left (Option.some.inj hrest')).symm
  · intro f hf
    obtain ⟨why, -, hwhy⟩ := hkeeps.fault_of_addressOf_nil hf
    exact ⟨why, hwhy⟩

/-- A key with a space, a percent sign, a question mark and a letter beyond ASCII, and one with a surrogate, at an
endpoint with a path. -/
theorem key_addresses_quoted :
    Endpoint.read .usual (.text "http://etcd1:2379/base/") = .ok ⟨"http://etcd1:2379/base/"⟩ ∧
      (∃ own url rest, Url.ofText "http://etcd1:2379/base/" = .ok own ∧
        Url.ofText "http://etcd1:2379/base/v2/keys/a%20b%2541/%3F%C3%A9" = .ok url ∧
        url.path = own.path.stripRightBy (· = CodePoint.ofChar '/') ++ rest ∧
        Text.ofUtf8? (Percent.octets rest) = some ("/v2/keys/a b%41/?\u00e9" : Text)) ∧
      ∃ why, RequestSpec.addressOf .usual ⟨"http://etcd1:2379/base/"⟩ (KeyCall.path [0xD800]) [] =
        .error (.endpoint (.address (.found ⟨⟨"http://etcd1:2379/base/"⟩, KeyCall.path [0xD800], some why⟩))
          (some ⟨"http://etcd1:2379/base/"⟩)) := by
  have hread : Endpoint.read .usual (.text "http://etcd1:2379/base/") = .ok ⟨"http://etcd1:2379/base/"⟩ := by rfl
  have haddress : RequestSpec.addressOf .usual ⟨"http://etcd1:2379/base/"⟩ (KeyCall.path "a b%41/?\u00e9") [] =
      .ok "http://etcd1:2379/base/v2/keys/a%20b%2541/%3F%C3%A9" := by rfl
  have hkey : Url.HasNoDots "a b%41/?\u00e9" := by decide
  have hsurrogate : Url.HasNoDots [0xD800] := by decide
  obtain ⟨-, -, hquoted, -, -⟩ := key_addresses hread (by decide) hkey
  obtain ⟨hmade, -, -, -, hfault⟩ := key_addresses hread (by decide) hsurrogate
  obtain ⟨own, url, rest, hown, hurl, -, hpath, hrest⟩ := hquoted _ haddress
  refine ⟨hread, ⟨own, url, rest, hown, hurl, hpath, hrest⟩, ?_⟩
  -- half a surrogate pair has no octets, so that there is no address
  cases hnone : RequestSpec.addressOf .usual ⟨"http://etcd1:2379/base/"⟩ (KeyCall.path [0xD800]) [] with
  | ok address =>
    obtain ⟨hplain, -⟩ := hmade.1 ⟨address, hnone⟩
    exact absurd (hplain _ List.mem_cons_self) (by decide)
  | error f =>
    obtain ⟨why, rfl⟩ := hfault f hnone
    exact ⟨why, rfl⟩

/-- An endpoint that was written with ideographic full stops looks like an IPv4 address when it is kept, and has no
address for any key, not even for a short and plain one. -/
theorem endpoint_that_cannot_be_read :
    Endpoint.read .usual (.text "http://999。2。3。4") = .ok ⟨"http://999.2.3.4"⟩ ∧
      Endpoint.IsBare ⟨"http://999.2.3.4"⟩ ∧ Url.HasNoDots "foo" ∧
      (∀ c ∈ ("foo" : Text), c.isSurrogate = false) ∧
      (Endpoint.base ⟨"http://999.2.3.4"⟩ ++ RequestSpec.quoted (KeyCall.path "foo")).length ≤ Url.maxLength ∧
      RequestSpec.addressOf .usual ⟨"http://999.2.3.4"⟩ (KeyCall.path "foo") [] =
        .error (.endpoint (.address (.found ⟨⟨"http://999.2.3.4"⟩, "v2/keys/foo", some (.ipv4 "999.2.3.4")⟩))
          (some ⟨"http://999.2.3.4"⟩)) := by
  have hsome : (Endpoint.read .usual (.text "http://999。2。3。4")).toOption = some ⟨"http://999.2.3.4"⟩ := by decide +kernel
  refine ⟨?_, by decide, by decide, Text.isSurrogate_of_all (by decide), by decide, by rfl⟩
  cases hread : Endpoint.read .usual (.text "http://999。2。3。4") with
  | ok e =>
    rw [hread] at hsome
    exact congrArg _ (Option.some.inj hsome)
  | error f =>
    rw [hread] at hsome
    cases hsome

end ClusterClient
