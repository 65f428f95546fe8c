import ClusterClient.Proofs.Endpoint.Address

/-!
# Parameters of an address

The parameters of a call stand in the query of its address, and nothing else does, as long as the endpoint
holds no mark. This asks nothing else of the endpoint: it need not even have been read.

## The architecture

* **`Url.isOpen_of_ofParts`**: reading parts without a mark of a query or a fragment gives a URL without one
  in front of its query, and parameters are read back from its text (`IsOpen.read_query`).
* **`read_query_of_addressOf`**: the headline. What is read from the query of an address is what was put in.
-/

namespace ClusterClient

open UrlParts (isTailMark)

/-! ## URLs without marks in front of their query -/

namespace Url

/-- Lowering letters makes no mark of what was none. -/
theorem isTailMark_toAsciiLower {c : CodePoint} (h : isTailMark c = false) :
    isTailMark c.toAsciiLower = false := by
  by_cases hupper : c.isAsciiUpper = true
  · obtain ⟨hfirst, hlast, hval⟩ := CodePoint.val_of_isAsciiUpper hupper
    have hlower : c.toAsciiLower.isAsciiLower = true := by
      simp only [CodePoint.isAsciiLower, Bool.and_eq_true, decide_eq_true_eq]
      omega
    exact UrlParts.isTailMark_of (by decide) (by decide) hlower
  · rwa [CodePoint.toAsciiLower, if_neg hupper]

/-- An address that has been read has no mark in its authority unless the text it was read from has one there: a
host is kept, lowered or encoded, and a port is digits. -/
theorem isTailMark_of_mem_authority {p : UrlParts} {u : Url} (h : Reads p u)
    (hp : ∀ c ∈ p.authority, isTailMark c = false) : ∀ c ∈ u.authority, isTailMark c = false := by
  intro c hc
  rcases mem_authority hc with huser | hhost | hmark
  · have hkept := keeps_of_escapePart h.userinfo (fun c => keeps_of_isInEscape (by decide)) c huser
    exact UrlParts.isTailMark_of (by decide) (by decide) hkept
  · refine Host.of_mem_normalize (p := fun c => isTailMark c = false) h.host (fun c hc => ?_) (fun c hc => ?_) c hhost
    · exact UrlParts.isTailMark_of_endsAuthority (Host.isUnmarked_of_isKept hc).1
    · exact hp c (Authority.of_mem_host hc).1
  · exact UrlParts.isTailMark_of (by decide) (by decide) hmark

/-- **Parts without marks are read as a URL without marks in front of its query.** -/
theorem isOpen_of_ofParts {p : UrlParts} {u : Url} (h : ofParts p = .ok u)
    (hscheme : ∀ c ∈ p.scheme, isTailMark c = false) (hauthority : ∀ c ∈ p.authority, isTailMark c = false) :
    u.IsOpen := by
  have hreads := ofParts_eq_ok_iff.1 h
  refine ⟨fun c hc => ?_, isTailMark_of_mem_authority hreads hauthority, fun c hc => ?_⟩
  · rw [hreads.scheme] at hc
    obtain ⟨d, hd, rfl⟩ := List.mem_map.1 hc
    exact isTailMark_toAsciiLower (hscheme d hd)
  · have hkept := keeps_of_escapePart hreads.path (fun c => keeps_of_isInEscape (by decide)) c hc
    exact UrlParts.isTailMark_of (by decide) (by decide) hkept

/-- The query of a written address is read back whole, as long as there is no mark of a fragment in it. -/
theorem IsOpen.query_ofText {u : Url} (h : u.IsOpen) (hquery : ∀ q ∈ u.query, CodePoint.ofChar '#' ∉ q) :
    (UrlParts.ofText u.toText).query = u.query := by
  rw [toText_eq_front, ← List.append_assoc]
  exact (UrlParts.tail_ofText h.isTailMark_of_mem hquery).1

/-- Parameters that are put into a URL with neither marks nor a query are read from its text. What is written of
them is a query as it stands, so that making the URL of its parts again leaves it alone, and reading the form of
it gives the parameters back. -/
theorem IsOpen.read_query {v w : Url} (h : v.IsOpen) (hquery : v.query = none)
    {parameters : List (Text × Text)} (hnames : (parameters.map Prod.fst).Nodup) (hfull : parameters ≠ [])
    (hw : v.withParameters parameters = .ok w) :
    Form.read ((UrlParts.ofText w.toText).query.getD []) = parameters := by
  obtain ⟨written, hwritten, hw⟩ := ofParts_of_withParameters hw
  have hform := formWith_of_query_eq_none hquery hnames
  -- there is something to be written, so that the URL has a query at all
  have hsome : ¬(v.formWith parameters).isEmpty = true := by
    rw [hform, List.isEmpty_iff, List.map_eq_nil_iff]
    exact hfull
  rw [if_neg hsome] at hw
  rw [hform, Form.Grouped.pairs_map_singleton] at hwritten
  -- a written form is kept as it is when the URL is made of its parts again
  have hwquery : w.query = some written := by
    have hread : Option.mapM (escapePart keptInQuery) (some written) = .ok w.query :=
      (ofParts_eq_ok_iff.1 hw).query
    have hkept : ∀ t ∈ some written, escapePart keptInQuery t = .ok t := by
      intro t ht
      obtain rfl := Option.some.inj ht
      exact escapePart_of_keeps (keptInQuery_of_write hwritten)
    rw [mapM_of_forall hkept] at hread
    exact (Except.ok.inj hread).symm
  have hhash : ∀ q ∈ w.query, CodePoint.ofChar '#' ∉ q := by
    intro q hq hmem
    rw [hwquery] at hq
    obtain rfl := Option.some.inj hq
    exact absurd (keptInQuery_of_write hwritten _ hmem) (by decide)
  have hopen := isOpen_of_ofParts hw h.scheme h.authority
  rw [hopen.query_ofText hhash, hwquery, Option.getD_some, Form.read_of_write hwritten]

end Url

/-! ## Addresses -/

/-- What is read of an endpoint without marks and a quoted path has no query: the text is cut at the first
question mark or number sign, and there is none in either part. -/
theorem Endpoint.IsBare.of_read {e : Endpoint} (h : e.IsBare) {path : Text} {v : Url}
    (hread : Url.read (e.base ++ RequestSpec.quoted path) = .ok v) :
    v.IsOpen ∧ v.query = none := by
  obtain ⟨-, -, hofText⟩ := Url.of_read hread
  -- neither the endpoint nor the quoted path holds a mark
  have hplain : ∀ c ∈ e.base ++ RequestSpec.quoted path, isTailMark c = false := by
    intro c hc
    rcases List.mem_append.1 hc with hbase | hquoted
    · rcases List.mem_append.1 hbase with hurl | hslash
      · have hmem := (Text.stripRightBy_prefix _ _).subset hurl
        simp only [isTailMark, Bool.or_eq_false_iff, decide_eq_false_iff_not]
        exact ⟨fun heq => h.1 (heq ▸ hmem), fun heq => h.2 (heq ▸ hmem)⟩
      · rw [List.mem_singleton.1 hslash]
        decide
    · exact UrlParts.isTailMark_of (by decide) (by decide) (RequestSpec.isQuoted_of_mem_quoted hquoted)
  have hbreak : Text.breakAt isTailMark (e.base ++ RequestSpec.quoted path) =
      (e.base ++ RequestSpec.quoted path, []) := by
    have := Text.breakAt_append_of hplain (b := []) fun c hc => by cases hc
    rwa [List.append_nil] at this
  have hquery : (UrlParts.ofText (e.base ++ RequestSpec.quoted path)).query = none := by
    rw [UrlParts.query_ofText, hbreak]
    rfl
  have hreads := Url.ofParts_eq_ok_iff.1 hofText
  refine ⟨Url.isOpen_of_ofParts hofText (fun c hc => ?_) (fun c hc => ?_), ?_⟩
  · rw [UrlParts.ofText_eq] at hc
    exact UrlParts.isTailMark_of_isSchemePart (UrlParts.isSchemePart_of_mem hc)
  · rw [UrlParts.ofText_eq] at hc
    exact UrlParts.isTailMark_of_endsAuthority (UrlParts.endsAuthority_of_mem hc)
  · have hnone := hreads.query
    rw [hquery] at hnone
    exact (Except.ok.inj hnone).symm

/-- **The query of an address holds the parameters of the call, and nothing else**: they are read as they
were put in, in their order. -/
theorem read_query_of_addressOf {room : Room} {e : Endpoint} (hbare : e.IsBare) {path : Text}
    {query : List (Text × Value)} (hnames : (query.map Prod.fst).Nodup) {address : Text}
    (haddress : RequestSpec.addressOf room e path query = .ok address) :
    Form.read ((UrlParts.ofText address).query.getD []) = query.map fun p => (p.1, p.2.toQueryText) := by
  obtain ⟨w, hw, rfl⟩ := RequestSpec.of_addressOf haddress
  unfold RequestSpec.addressUrl at hw
  split at hw
  · cases hw
  · next quoted hquoted =>
    obtain ⟨-, rfl⟩ := Percent.of_encode hquoted
    obtain ⟨v, hread, hw⟩ := Except.of_bind hw
    obtain ⟨hopen, hquery⟩ := hbare.of_read hread
    split at hw
    · next hempty =>
      obtain rfl := Except.ok.inj hw
      -- without parameters no query is added
      have hnone : ∀ q ∈ v.query, CodePoint.ofChar '#' ∉ q := fun q hq => by
        rw [hquery] at hq
        cases hq
      rw [hopen.query_ofText hnone, hquery, List.isEmpty_iff.1 hempty]
      rfl
    · next hsome =>
      refine hopen.read_query hquery ?_ (fun hnil => hsome (List.isEmpty_iff.2 hnil)) hw
      rw [List.map_map]
      exact hnames

end ClusterClient
