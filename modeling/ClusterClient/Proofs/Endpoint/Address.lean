import ClusterClient.Endpoint.Reader
import ClusterClient.Exchange.RequestSpec
import ClusterClient.Proofs.Url.Reading

/-!
# Addresses below an endpoint

An endpoint keeps the text of its URL, and an address is made of that text: slashes at its end are stripped,
one slash and the quoted path are appended, and the result is read as a URL. An endpoint that was read may
end in a bare `?` or `#`, because an empty query or fragment counts as none; what is appended then becomes
part of it.

## The architecture

* **`Endpoint.Keeps`**: what is known of an endpoint that was read (`exists_keeps_of_read`).
* **`Url.below`**: the URL whose text is that of the endpoint with a path appended
  (`Endpoint.Keeps.base_append`), whichever part of it grows.
* **`Endpoint.Keeps.of_addressUrl`**: an address is the text of a settled URL with the server of the endpoint.
  When there is none, a value of the query cannot be shown or a URL is at fault
  (`Endpoint.Keeps.fault_of_addressOf`).
* **`Endpoint.Keeps.continued`**: below an endpoint without marks (`Endpoint.IsBare`) the path of the endpoint
  is continued, whatever is appended. Two headlines rest on it: where the segments of a path lead, and what
  happens below an endpoint with a mark (`path_of_marked_endpoint`).
-/

namespace ClusterClient

/-! ## Endpoints that were read -/

namespace Endpoint

/-- The endpoint keeps the text of a web server's URL with neither query nor fragment, though their marks
may be there. -/
structure Keeps (e : Endpoint) (u : Url) : Prop where
  url_eq : e.url = u.toText
  written : u.IsWritten
  noDots : Url.HasNoDots u.path
  query_bare : u.query.getD [] = []
  fragment_bare : u.fragment.getD [] = []
  shown : ∃ name, Host.shown u.host = .ok name ∧ name ≠ []

/-- What an accepted address keeps: its text, a scheme that is one of the two, a host that can be shown, and
neither a query nor a fragment with anything in it. -/
theorem keeps_of_ofUrl {value : Value} {e : Endpoint} {u : Url} (h : ofUrl value u = .ok e) :
    e.url = u.toText ∧ (u.scheme = "http" ∨ u.scheme = "https") ∧ u.query.getD [] = [] ∧
      u.fragment.getD [] = [] ∧ ∃ name, Host.shown u.host = .ok name ∧ name ≠ [] := by
  unfold ofUrl at h
  obtain ⟨hscheme, h⟩ := Except.of_guard h
  dsimp only at h
  split at h
  · cases h
  -- the checks that follow are passed one by one
  · next name hshown =>
    obtain ⟨hname, h⟩ := Except.of_guard h
    obtain ⟨hbare, h⟩ := Except.of_guard h
    obtain rfl := Except.ok.inj h
    rw [List.isEmpty_iff] at hname
    simp only [Bool.or_eq_true, Bool.not_eq_true', not_or, Bool.not_eq_false, List.isEmpty_iff] at hbare
    refine ⟨rfl, ?_, hbare.1, hbare.2, name, hshown, hname⟩
    by_cases hhttp : u.scheme = "http"
    · exact .inl hhttp
    · exact .inr (Decidable.byContradiction fun hhttps => hscheme (by simp [hhttp, hhttps]))

/-- **An endpoint that was read keeps the URL that was read for it.** Each of the checks in turn has passed: the
text is not blank, it is a URL, its scheme is one of the two, its host can be shown and is not empty, and
neither a query nor a fragment is in it but for a bare mark. -/
theorem exists_keeps_of_read {room : Room} {value : Value} {e : Endpoint} (h : read room value = .ok e) :
    ∃ t u, value = .text t ∧ Url.read t.strip = .ok u ∧ e.Keeps u := by
  unfold read at h
  dsimp only at h
  split at h
  · next t =>
    split at h
    · cases h
    · split at h
      · cases h
      · next u hread =>
        obtain ⟨hurl, hscheme, hquery, hfragment, name, hshown, hname⟩ := keeps_of_ofUrl h
        obtain ⟨-, hcontrol, hofText⟩ := Url.of_read hread
        -- an empty host would have been refused, since it is shown as it is
        have hhost : u.host ≠ [] := by
          intro hnil
          rw [hnil] at hshown
          exact hname (Except.ok.inj hshown).symm
        obtain ⟨hwritten, hdots⟩ := Url.isWritten_of_ofText hofText hcontrol hscheme hhost
        exact ⟨t, u, rfl, hread, hurl, hwritten, hdots, hquery, hfragment, name, hshown, hname⟩
  · cases h

end Endpoint

/-! ## Appending a path -/

/-- The URL that a text becomes when its slashes at the end are stripped and a slash and a path are
appended. A fragment or a query that is there takes them. -/
def Url.below (u : Url) (path : Text) : Url :=
  match u.fragment, u.query with
  | some fragment, _ => { u with fragment := some (fragment ++ CodePoint.ofChar '/' :: path) }
  | none, some query => { u with query := some (query ++ CodePoint.ofChar '/' :: path) }
  | none, none => { u with path := u.path.stripRightBy (· = CodePoint.ofChar '/') ++ CodePoint.ofChar '/' :: path }

theorem Url.host_below (u : Url) (path : Text) : (u.below path).host = u.host := by
  unfold Url.below
  cases u.fragment with
  | some fragment => rfl
  | none => cases u.query <;> rfl

theorem Url.host_reread_below (u : Url) (path : Text) :
    (u.below path).reread.host = Host.respelled u.host :=
  congrArg Host.respelled (u.host_below path)

/-- Without marks it is the path that grows. -/
theorem Url.below_of_unmarked {u : Url} (hquery : u.query = none) (hfragment : u.fragment = none)
    (path : Text) :
    u.below path =
      { u with path := u.path.stripRightBy (· = CodePoint.ofChar '/') ++ CodePoint.ofChar '/' :: path } := by
  unfold Url.below
  rw [hquery, hfragment]

namespace RequestSpec

/-- A path as it is appended to a URL. -/
def quoted (path : Text) : Text :=
  (path.dropWhile (· = CodePoint.ofChar '/')).flatMap (Percent.protect isKeptInPath)

/-- Code points of a quoted path. -/
def isQuoted (c : CodePoint) : Bool := isKeptInPath c || Percent.isInEscape c

theorem isQuoted_of_mem_quoted {path : Text} {c : CodePoint} (h : c ∈ quoted path) : isQuoted c = true :=
  Percent.of_mem_flatMap_protect (fun c hc => by simp [isQuoted, hc]) (fun c hc => by simp [isQuoted, hc]) h

/-- A quoted path may stand in every part of a URL behind its authority. -/
theorem keeps_of_isQuoted {except : Text} (hexcept : except.all (fun c => !isQuoted c) = true)
    {c : CodePoint} (h : isQuoted c = true) : Url.keeps except c = true := by
  refine Url.keeps_of_forall (fun c hc => ?_) hexcept h
  simp only [isQuoted, isKeptInPath, Bool.or_eq_true] at hc
  rcases hc with (hunreserved | hlisted) | hescape
  · exact Url.isPrintableAscii_of_isUnreserved hunreserved
  · have hall : (Text.ofString "/:@!$&'()*+,;=").all Url.isPrintableAscii = true := by decide
    exact List.all_eq_true.1 hall c (List.contains_iff_mem.1 hlisted)
  · exact Url.isPrintableAscii_of_isInEscape hescape

end RequestSpec

namespace Url

open RequestSpec (isQuoted keeps_of_isQuoted)

/-- What is stripped from the end of a path is nothing, or begins with a slash. -/
theorem stripRight_prefix_ends (path : Text) :
    ∃ slashes, path = path.stripRightBy (· = CodePoint.ofChar '/') ++ slashes ∧
      (slashes = [] ∨ ∃ rest, slashes = CodePoint.ofChar '/' :: rest) := by
  obtain ⟨slashes, hslashes⟩ := Text.stripRightBy_prefix (· = CodePoint.ofChar '/') path
  refine ⟨slashes, hslashes.symm, ?_⟩
  cases slashes with
  | nil => exact .inl rfl
  | cons c rest =>
    obtain rfl : c = CodePoint.ofChar '/' := of_decide_eq_true (Text.of_mem_stripped hslashes.symm List.mem_cons_self)
    exact .inr ⟨rest, rfl⟩

/-- Slashes at the end are no dot segments. -/
theorem HasNoDots.stripRight {path : Text} (h : HasNoDots path) :
    HasNoDots (path.stripRightBy (· = CodePoint.ofChar '/')) := by
  obtain ⟨slashes, hpath, hslashes⟩ := stripRight_prefix_ends path
  rcases hslashes with rfl | ⟨rest, rfl⟩
  · rwa [hpath, List.append_nil] at h
  · rw [hpath] at h
    exact (hasNoDots_append.1 h).1

/-- A path below a rooted one is rooted, however many slashes its end has lost. -/
theorem IsRooted.stripRight_append {path : Text} (h : IsRooted path) (rest : Text) :
    IsRooted (path.stripRightBy (· = CodePoint.ofChar '/') ++ CodePoint.ofChar '/' :: rest) := by
  obtain ⟨slashes, hslashes⟩ := Text.stripRightBy_prefix (· = CodePoint.ofChar '/') path
  rw [← hslashes] at h
  cases hstripped : path.stripRightBy (· = CodePoint.ofChar '/') with
  | nil => exact isRooted_cons rest
  | cons c front =>
    rw [hstripped] at h
    obtain rfl := h c rfl
    exact isRooted_cons _

/-- A part keeps a quoted path that is appended to it. -/
theorem keeps_of_mem_append {except front path : Text} (hexcept : except.all (fun c => !isQuoted c) = true)
    (hslash : keeps except '/' = true) (hfront : ∀ c ∈ front, keeps except c = true)
    (hpath : ∀ c ∈ path, isQuoted c = true) :
    ∀ c ∈ front ++ CodePoint.ofChar '/' :: path, keeps except c = true := by
  intro c hc
  rcases List.mem_append.1 hc with hc | hc
  · exact hfront c hc
  · rcases List.mem_cons.1 hc with rfl | hc
    · exact hslash
    · exact keeps_of_isQuoted hexcept (hpath c hc)

variable {u : Url}

/-- **A URL with a path appended is in the form of a written URL.** The path is appended to the last part that
is there: the fragment, the query, or the path. Quoted text may stand in each of them. -/
theorem IsWritten.below (h : u.IsWritten) {path : Text} (hpath : ∀ c ∈ path, isQuoted c = true) :
    (u.below path).IsWritten := by
  unfold Url.below
  -- the last part that is there has grown; the others are as they were
  cases hfragment : u.fragment with
  | some fragment =>
    refine ⟨h.scheme, h.userinfo, h.host, h.host_ne_nil, h.port, h.path, h.rooted, h.query, ?_⟩
    intro f hf
    obtain rfl := Option.some.inj hf
    exact keeps_of_mem_append (by decide) (by decide) (h.fragment fragment hfragment) hpath
  | none =>
    cases hquery : u.query with
    | some query =>
      refine ⟨h.scheme, h.userinfo, h.host, h.host_ne_nil, h.port, h.path, h.rooted, ?_, fun f hf => by cases hf⟩
      intro q hq
      obtain rfl := Option.some.inj hq
      exact keeps_of_mem_append (by decide) (by decide) (h.query query hquery) hpath
    | none =>
      have hstarts := Text.stripRightBy_prefix (· = CodePoint.ofChar '/') u.path
      refine ⟨h.scheme, h.userinfo, h.host, h.host_ne_nil, h.port, ?_, ?_, fun q hq => (by cases hq),
        fun f hf => (by cases hf)⟩
      · exact keeps_of_mem_append (by decide) keptInPath_slash (fun c hc => h.path c (hstarts.subset hc)) hpath
      · exact h.rooted.stripRight_append path

/-- What stands before the path in the text of a URL. -/
def front (u : Url) : Text := marked [] u.scheme ":" ++ marked "//" u.authority []

theorem toText_eq_front (u : Url) :
    u.toText = u.front ++ (u.path ++ (following "?" u.query ++ following "#" u.fragment)) := by
  unfold toText front
  simp only [List.append_assoc]

/-- What stands in front of the path does not end with a slash: it ends with a digit of a port, or with the
host. -/
theorem IsWritten.getLast?_front (h : u.IsWritten) :
    ∃ c, u.front.getLast? = some c ∧ decide (c = CodePoint.ofChar '/') = false := by
  have hauthority : marked "//" u.authority [] = "//" ++ u.authority := by
    unfold marked
    rw [if_neg fun hempty => h.authority_ne_nil (List.isEmpty_iff.1 hempty), List.append_nil]
  cases hlast : u.authority.getLast? with
  | none => exact absurd (List.getLast?_eq_none_iff.1 hlast) h.authority_ne_nil
  | some c =>
    refine ⟨c, ?_, ?_⟩
    · rw [front, hauthority, ← List.append_assoc, List.getLast?_append, hlast, Option.some_or]
    · rw [decide_eq_false_iff_not]
      rintro rfl
      exact absurd (h.of_mem_authority (List.mem_of_getLast? hlast)).1 (by decide)

/-- No mark of a query or a fragment stands in the parts before them. -/
structure IsOpen (u : Url) : Prop where
  scheme : ∀ c ∈ u.scheme, UrlParts.isTailMark c = false
  authority : ∀ c ∈ u.authority, UrlParts.isTailMark c = false
  path : ∀ c ∈ u.path, UrlParts.isTailMark c = false

/-- Neither mark stands in front of the query or the fragment: not in the scheme, in the authority or in the
path, nor is one of the signs between them such a mark. So a `?` in the text of the URL is where its query
begins. -/
theorem IsOpen.isTailMark_of_mem (h : u.IsOpen) : ∀ c ∈ u.front ++ u.path, UrlParts.isTailMark c = false := by
  intro c hc
  rcases List.mem_append.1 hc with hfront | hpath
  · rcases List.mem_append.1 hfront with hscheme | hauthority
    · rcases mem_marked hscheme with hnone | hscheme | hcolon
      · exact absurd hnone List.not_mem_nil
      · exact h.scheme c hscheme
      · obtain rfl := List.mem_singleton.1 hcolon
        decide
    · rcases mem_marked hauthority with hslashes | hauthority | hnone
      · exact UrlParts.isTailMark_of_mem_slashes hslashes
      · exact h.authority c hauthority
      · exact absurd hnone List.not_mem_nil
  · exact h.path c hpath

/-- An address as it is written by the reader is open: the marks are quoted in its path, and no host holds them.
-/
theorem IsWritten.isOpen (h : u.IsWritten) : u.IsOpen where
  scheme c hc := UrlParts.isTailMark_of_isSchemePart (h.isSchemePart c hc)
  authority _ hc := UrlParts.isTailMark_of_endsAuthority (h.of_mem_authority hc).1
  path := h.isTailMark_of_mem_path

end Url

namespace Endpoint.Keeps

variable {e : Endpoint} {u : Url}

/-- **The text with a path appended is the text of the URL below.** Slashes at the end of the text are stripped
before. Behind a bare mark there is none to strip, and otherwise they are the slashes at the end of the path. -/
theorem base_append (h : e.Keeps u) (path : Text) : e.base ++ path = (u.below path).toText := by
  have hslash : (Text.ofString "/" ++ path : Text) = CodePoint.ofChar '/' :: path := rfl
  rw [base, h.url_eq, List.append_assoc, hslash]
  have hquery := h.query_bare
  have hfragment := h.fragment_bare
  rw [Url.toText_eq_front, Url.toText_eq_front]
  unfold Url.below
  -- behind a bare mark there is no slash to strip, and the part that it begins grows
  cases hf : u.fragment with
  | some fragment =>
    rw [hf] at hfragment
    obtain rfl : fragment = [] := hfragment
    have hmark : u.front ++ (u.path ++ (Url.following "?" u.query ++ Url.following "#" (some []))) =
        (u.front ++ (u.path ++ Url.following "?" u.query)) ++ [CodePoint.ofChar '#'] := by
      simp only [List.append_assoc]
      rfl
    rw [hmark, Text.stripRightBy_concat (by decide)]
    simp only [List.append_assoc]
    rfl
  | none =>
    cases hq : u.query with
    | some query =>
      rw [hq] at hquery
      obtain rfl : query = [] := hquery
      have hmark : u.front ++ (u.path ++ (Url.following "?" (some []) ++ Url.following "#" none)) =
          (u.front ++ u.path) ++ [CodePoint.ofChar '?'] := by
        simp only [List.append_assoc]
        rfl
      have hnone : Url.following "#" none = [] := rfl
      rw [hmark, Text.stripRightBy_concat (by decide), hnone, List.append_nil]
      simp only [List.append_assoc]
      rfl
    | none =>
      have hplain : Url.following "?" none ++ Url.following "#" none = [] := rfl
      rw [hplain, List.append_nil, Text.stripRightBy_append_of h.written.getLast?_front]
      simp only [List.append_assoc, List.append_nil]
      rfl

/-- What is read of the endpoint with a path appended. -/
theorem of_read_base_append (h : e.Keeps u) {path : Text} {v : Url}
    (hread : Url.read (e.base ++ RequestSpec.quoted path) = .ok v) :
    v = (u.below (RequestSpec.quoted path)).reread ∧ v.IsSettled ∧
      Host.normalize (Url.writtenHost u.host) = .ok (Host.respelled u.host) := by
  have hwritten := h.written.below fun c (hc : c ∈ RequestSpec.quoted path) => RequestSpec.isQuoted_of_mem_quoted hc
  obtain ⟨-, -, hofText⟩ := Url.of_read hread
  rw [h.base_append] at hofText
  obtain ⟨hv, hsettled⟩ := hwritten.of_ofText_toText hofText
  have hhost := hwritten.normalize_host hofText
  rw [hv, Url.host_reread_below, Url.host_below] at hhost
  exact ⟨hv, hsettled, hhost⟩

/-- **The URL of an address** is the one below the endpoint, with the parameters put into its query. It is
settled. -/
theorem of_addressUrl (h : e.Keeps u) {path : Text} {parameters : List (Text × Text)} {w : Url}
    (hw : RequestSpec.addressUrl e path parameters = .ok w) :
    ∃ v, v = (u.below (RequestSpec.quoted path)).reread ∧ v.IsSettled ∧
      Host.normalize (Url.writtenHost u.host) = .ok (Host.respelled u.host) ∧ w.IsSettled ∧
      ((parameters = [] ∧ w = v) ∨ (parameters ≠ [] ∧ v.withParameters parameters = .ok w)) := by
  unfold RequestSpec.addressUrl at hw
  split at hw
  · cases hw
  · next quoted hquoted =>
    obtain ⟨-, rfl⟩ := Percent.of_encode hquoted
    obtain ⟨v, hread, hw⟩ := Except.of_bind hw
    -- the URL without parameters is read first, and they are put into it afterwards
    obtain ⟨hv, hsettled, hhost⟩ := h.of_read_base_append hread
    refine ⟨v, hv, hsettled, hhost, ?_⟩
    split at hw
    · next hempty =>
      obtain rfl := Except.ok.inj hw
      exact ⟨hsettled, .inl ⟨List.isEmpty_iff.1 hempty, rfl⟩⟩
    · next hempty =>
      exact ⟨(hsettled.of_withParameters hw).1, .inr ⟨fun hnil => hempty (List.isEmpty_iff.2 hnil), hw⟩⟩

/-- Whichever part has grown, the host of an address is that of the endpoint. -/
theorem host_of_addressUrl (h : e.Keeps u) {path : Text} {parameters : List (Text × Text)} {w : Url}
    (hw : RequestSpec.addressUrl e path parameters = .ok w) : w.host = Host.respelled u.host := by
  obtain ⟨v, hv, hsettled, -, -, ⟨-, rfl⟩ | ⟨-, hwith⟩⟩ := h.of_addressUrl hw
  · rw [hv, Url.host_reread_below]
  · obtain ⟨-, written, -, rfl⟩ := hsettled.of_withParameters hwith
    show v.host = _
    rw [hv, Url.host_reread_below]

end Endpoint.Keeps

/-! ## Addresses -/

namespace RequestSpec

variable {room : Room} {query : List (Text × Value)}

/-- What a parameter gives is its name and its text, if it can be shown. A number with too many digits is the
only value that cannot. -/
theorem shownParameter_eq_ok_iff {p : Text × Value} {q : Text × Text} :
    ((p.1, ·) <$> p.2.queryText? room : Except External (Text × Text)) = .ok q ↔
      p.2.whyUnshown? room.shown = none ∧ q = (p.1, p.2.toQueryText) := by
  constructor
  · intro h
    cases ht : p.2.queryText? room with
    | error why =>
      rw [ht] at h
      cases h
    | ok t =>
      rw [ht] at h
      obtain ⟨hshown, rfl⟩ := Value.queryText?_eq_ok_iff.1 ht
      exact ⟨hshown, (Except.ok.inj h).symm⟩
  · rintro ⟨hshown, rfl⟩
    rw [Value.queryText?_eq_ok_iff.2 ⟨hshown, rfl⟩]
    rfl

/-- **The parameters of a query are its values by their texts**, and there are such texts if every value can be
shown. -/
theorem parametersOf_eq_ok_iff {parameters : List (Text × Text)} :
    parametersOf room query = .ok parameters ↔
      (∀ p ∈ query, p.2.whyUnshown? room.shown = none) ∧ parameters = query.map fun p => (p.1, p.2.toQueryText) := by
  rw [parametersOf, Except.mapM_eq_ok_iff]
  induction query generalizing parameters with
  | nil =>
    rw [List.map_nil, List.map_nil, eq_comm, List.map_eq_nil_iff]
    exact ⟨fun h => ⟨fun p hp => absurd hp List.not_mem_nil, h⟩, And.right⟩
  | cons p query ih =>
    rw [List.map_cons, List.map_cons, List.forall_mem_cons]
    constructor
    · intro h
      obtain ⟨q, rest, rfl, hq, hrest⟩ := List.map_eq_cons_iff.1 h.symm
      obtain ⟨hshown, rfl⟩ := shownParameter_eq_ok_iff.1 hq.symm
      obtain ⟨hall, rfl⟩ := ih.1 hrest.symm
      exact ⟨⟨hshown, hall⟩, rfl⟩
    · rintro ⟨⟨hshown, hall⟩, rfl⟩
      rw [List.map_cons, shownParameter_eq_ok_iff.2 ⟨hshown, rfl⟩, ih.2 ⟨hall, rfl⟩]

/-- An address is the text of the URL that its parameters make. Beyond that, only its scheme and its host are
looked at, and these let it pass or refuse it. -/
theorem of_addressOf {e : Endpoint} {path address : Text} (h : addressOf room e path query = .ok address) :
    ∃ w, addressUrl e path (query.map fun p => (p.1, p.2.toQueryText)) = .ok w ∧ address = w.toText := by
  unfold addressOf at h
  split at h
  · cases h
  · next parameters hparameters =>
    obtain ⟨-, rfl⟩ := parametersOf_eq_ok_iff.1 hparameters
    split at h
    · cases h
    · next w hw =>
      refine ⟨w, hw, ?_⟩
      split at h
      · cases h
      · split at h
        · cases h
        · split at h
          · cases h
          · exact (Except.ok.inj h).symm

end RequestSpec

/-- **An address that cannot be made is the fault of a value that cannot be shown, or of its URL.** A host that was
shown once can be shown again, so that nothing else is at fault below an endpoint that was read. -/
theorem Endpoint.Keeps.fault_of_addressOf {room : Room} {e : Endpoint} {u : Url} (h : e.Keeps u) {path : Text}
    {query : List (Text × Value)} {f : Failure} (hf : RequestSpec.addressOf room e path query = .error f) :
    (∃ why, RequestSpec.parametersOf room query = .error why ∧ f = RequestSpec.noParameters e path why) ∨
      ∃ parameters why, RequestSpec.parametersOf room query = .ok parameters ∧
        RequestSpec.addressUrl e path parameters = .error why ∧ f = RequestSpec.noAddress e path (some why) := by
  unfold RequestSpec.addressOf at hf
  split at hf
  · next why hwhy => exact .inl ⟨why, hwhy, (Except.error.inj hf).symm⟩
  · next parameters hparameters =>
    refine .inr ⟨parameters, ?_⟩
    split at hf
    · next why hwhy => exact ⟨why, hparameters, hwhy, (Except.error.inj hf).symm⟩
    · next w hw =>
      -- there is a URL, and it has the scheme and the host of the endpoint
      obtain ⟨-, -, -, -, hsettled, -⟩ := h.of_addressUrl hw
      obtain ⟨name, hshown, hname⟩ := h.shown
      obtain ⟨name', hshown', hname'⟩ := Host.shown_respelled h.written.host hshown hname
      rw [h.host_of_addressUrl hw, hshown', if_neg fun hempty => hsettled.scheme_ne_nil (List.isEmpty_iff.1 hempty)]
        at hf
      dsimp only at hf
      rw [if_neg fun hempty => hname' (List.isEmpty_iff.1 hempty)] at hf
      cases hf

/-! ## Endpoints without marks -/

/-- Two URLs of one server. -/
structure Url.SameServer (u v : Url) : Prop where
  scheme : u.scheme = v.scheme
  userinfo : u.userinfo = v.userinfo
  host : u.host = v.host
  port : u.port = v.port

namespace Endpoint

/-- The text of an endpoint holds the mark of neither a query nor a fragment. -/
def IsBare (e : Endpoint) : Prop := CodePoint.ofChar '?' ∉ e.url ∧ CodePoint.ofChar '#' ∉ e.url

instance (e : Endpoint) : Decidable e.IsBare := inferInstanceAs (Decidable (_ ∧ _))

/-- An endpoint without marks has neither a query nor a fragment, not even an empty one: a bare mark would be
seen in the text of its URL. -/
theorem Keeps.unmarked {e : Endpoint} {u : Url} (h : e.Keeps u) (hbare : e.IsBare) :
    u.query = none ∧ u.fragment = none := by
  -- even an empty query or fragment leaves its mark in the text
  have htext : ∀ c ∈ Url.following "?" u.query ++ Url.following "#" u.fragment, c ∈ e.url := by
    intro c hc
    rw [h.url_eq, Url.toText_eq_front]
    exact List.mem_append_right _ (List.mem_append_right _ hc)
  constructor
  · cases hq : u.query with
    | none => rfl
    | some q =>
      rw [hq] at htext
      exact absurd (htext _ List.mem_cons_self) hbare.1
  · cases hf : u.fragment with
    | none => rfl
    | some f =>
      rw [hf] at htext
      exact absurd (htext _ (List.mem_append_right _ List.mem_cons_self)) hbare.2

/-- The URL that an endpoint without marks continues to, beside its own. The two are read from their texts and
have the same server; the path of the one is that of the other with the quoted path behind it, put in normal
form, and parameters change nothing but the query. -/
theorem Keeps.continued {room : Room} {e : Endpoint} {u : Url} (h : e.Keeps u) (hbare : e.IsBare)
    {path : Text} {query : List (Text × Value)} {address : Text}
    (haddress : RequestSpec.addressOf room e path query = .ok address) :
    ∃ own url : Url, Url.ofText e.url = .ok own ∧ own.path = u.path ∧ Url.ofText address = .ok url ∧
      url.SameServer own ∧ url.fragment = none ∧
      url.path = Url.normalizePath (own.path.stripRightBy (· = CodePoint.ofChar '/') ++
        CodePoint.ofChar '/' :: RequestSpec.quoted path) ∧
      (address.length ≤ Url.maxLength → Url.read address = .ok url) ∧
      ((query = [] ∧ url.query = none) ∨
        (query ≠ [] ∧ ∃ v : Url, v.query = none ∧ v.IsSettled ∧
          v.withParameters (query.map fun p => (p.1, p.2.toQueryText)) = .ok url)) := by
  obtain ⟨hquery, hfragment⟩ := h.unmarked hbare
  obtain ⟨w, hw, rfl⟩ := RequestSpec.of_addressOf haddress
  obtain ⟨v, hv, hsettled, hhost, hwsettled, hparameters⟩ := h.of_addressUrl hw
  rw [Url.below_of_unmarked hquery hfragment] at hv
  have hown : Url.ofText e.url = .ok u.reread := by
    rw [h.url_eq]
    exact h.written.ofText_toText_reread hhost
  have hpath : u.reread.path = u.path := Url.normalizePath_of_hasNoDots h.noDots
  have hread (hlength : w.toText.length ≤ Url.maxLength) : Url.read w.toText = .ok w := by
    rw [hwsettled.read_toText, if_neg (Nat.not_lt.2 hlength)]
  have hvquery : v.query = none := by
    rw [hv]
    exact hquery
  -- parameters change the query alone
  have hsame : ∃ q, w = { v with query := q } := by
    rcases hparameters with ⟨-, rfl⟩ | ⟨-, hwith⟩
    · exact ⟨_, rfl⟩
    · obtain ⟨-, written, -, rfl⟩ := hsettled.of_withParameters hwith
      exact ⟨_, rfl⟩
  obtain ⟨q, hsame⟩ := hsame
  have hserver : w.SameServer u.reread := by
    rw [hsame, hv]
    exact ⟨rfl, rfl, rfl, rfl⟩
  have hwfragment : w.fragment = none := by
    rw [hsame, hv]
    exact hfragment
  have hwpath : w.path = Url.normalizePath (u.reread.path.stripRightBy (· = CodePoint.ofChar '/') ++
      CodePoint.ofChar '/' :: RequestSpec.quoted path) := by
    rw [hsame, hv, hpath]
    rfl
  refine ⟨u.reread, w, hown, hpath, hwsettled.ofText_toText, hserver, hwfragment, hwpath, hread, ?_⟩
  rcases hparameters with ⟨hnone, rfl⟩ | ⟨hsome, hwith⟩
  · exact .inl ⟨List.map_eq_nil_iff.1 hnone, hvquery⟩
  · exact .inr ⟨fun hnone => hsome (List.map_eq_nil_iff.2 hnone), v, hvquery, hsettled, hwith⟩

end Endpoint

/-- A query that had nothing holds the parameters, and can be read. -/
theorem Url.IsSettled.read_query {v w : Url} (h : v.IsSettled) (hquery : v.query = none)
    {parameters : List (Text × Text)} (hnames : (parameters.map Prod.fst).Nodup)
    (hw : v.withParameters parameters = .ok w) :
    Form.read (w.query.getD []) = parameters ∧ (w.query = none ↔ parameters = []) := by
  obtain ⟨-, written, hwritten, rfl⟩ := h.of_withParameters hw
  have hform := formWith_of_query_eq_none hquery hnames
  rw [hform, Form.Grouped.pairs_map_singleton] at hwritten
  rw [hform]
  cases parameters with
  | nil => exact ⟨rfl, iff_of_true rfl rfl⟩
  | cons p rest => exact ⟨Form.read_of_write hwritten, iff_of_false (by simp) (by simp)⟩

/-- What a path of segments that name something is quoted to. Slashes at its start would be cut off; there are
none, since the first segment is not empty. -/
theorem RequestSpec.quoted_of_segments {path : Text}
    (hsegments : ∀ segment ∈ path.splitOn '/', segment ≠ [] ∧ segment ≠ "." ∧ segment ≠ "..") :
    quoted path = path.flatMap (Percent.protect isKeptInPath) := by
  have hstart : path.dropWhile (· = CodePoint.ofChar '/') = path := by
    cases path with
    | nil => rfl
    | cons c rest =>
      refine List.dropWhile_cons_of_neg fun hc => ?_
      obtain rfl := of_decide_eq_true hc
      have hfirst : [] ∈ Text.splitOn '/' (CodePoint.ofChar '/' :: rest) := by
        rw [Text.splitOn_cons, if_pos rfl]
        exact List.mem_cons_self
      exact (hsegments [] hfirst).1 rfl
  rw [quoted, hstart]

/-- **An address below an endpoint without marks continues its path**: the server stays the same, the path
is that of the endpoint followed by the quoted segments, the query holds the parameters alone, and there is
no fragment. -/
theorem address_continues_path {room : Room} {value : Value} {e : Endpoint}
    (hread : Endpoint.read room value = .ok e) (hbare : e.IsBare) {path : Text}
    (hsegments : ∀ segment ∈ path.splitOn '/', segment ≠ [] ∧ segment ≠ "." ∧ segment ≠ "..")
    {query : List (Text × Value)} (hnames : (query.map Prod.fst).Nodup) {address : Text}
    (haddress : RequestSpec.addressOf room e path query = .ok address) :
    ∃ own url : Url, Url.ofText e.url = .ok own ∧ Url.ofText address = .ok url ∧
      (address.length ≤ Url.maxLength → Url.read address = .ok url) ∧ url.SameServer own ∧
      url.path = own.path.stripRightBy (· = CodePoint.ofChar '/') ++
        CodePoint.ofChar '/' :: path.flatMap (Percent.protect RequestSpec.isKeptInPath) ∧
      Form.read (url.query.getD []) = query.map (fun p => (p.1, p.2.toQueryText)) ∧
      (url.query = none ↔ query = []) ∧ url.fragment = none := by
  obtain ⟨-, u, -, -, hkeeps⟩ := Endpoint.exists_keeps_of_read hread
  obtain ⟨own, url, hown, hpath, hurl, hserver, hfragment, hcontinued, hlimit, hparameters⟩ :=
    hkeeps.continued hbare haddress
  -- a path without empty segments has no slash in front that would be lost
  have hquoted := RequestSpec.quoted_of_segments hsegments
  have hdots : Url.HasNoDots (own.path.stripRightBy (· = CodePoint.ofChar '/') ++
      CodePoint.ofChar '/' :: path.flatMap (Percent.protect RequestSpec.isKeptInPath)) := by
    refine Url.hasNoDots_append.2 ⟨(hpath ▸ hkeeps.noDots).stripRight, ?_⟩
    refine Url.hasNoDots_flatMap_protect (by decide) (by decide) fun segment hsegment => ?_
    obtain ⟨-, hone, htwo⟩ := hsegments segment hsegment
    simp [Url.isDots, hone, htwo]
  rw [hquoted, Url.normalizePath_of_hasNoDots hdots] at hcontinued
  rcases hparameters with ⟨rfl, hnone⟩ | ⟨-, v, hvquery, hsettled, hwith⟩
  · refine ⟨own, url, hown, hurl, hlimit, hserver, hcontinued, ?_, iff_of_true hnone rfl, hfragment⟩
    rw [hnone]
    rfl
  · have hpairs : ((query.map fun p => (p.1, p.2.toQueryText)).map Prod.fst).Nodup := by
      rw [List.map_map]
      exact hnames
    obtain ⟨hform, hempty⟩ := hsettled.read_query hvquery hpairs hwith
    exact ⟨own, url, hown, hurl, hlimit, hserver, hcontinued, hform, hempty.trans List.map_eq_nil_iff, hfragment⟩

/-- An endpoint that is written in another way than it is kept, and a key and a value that need escapes. -/
theorem address_continues_path_escaped :
    Endpoint.read .usual (.text " HTTPS://u:p@Etcd1:2379/x/../base//") = .ok ⟨"https://u:p@etcd1:2379/base//"⟩ ∧
      ∃ own url : Url, Url.ofText "https://u:p@etcd1:2379/base//" = .ok own ∧
        Url.ofText "https://u:p@etcd1:2379/base/v2/keys/a%20b?prevValue=1+%26+2" = .ok url ∧
        url.SameServer own ∧ url.path = own.path.stripRightBy (· = CodePoint.ofChar '/') ++ "/v2/keys/a%20b" ∧
        Form.read (url.query.getD []) = [(Text.ofString "prevValue", Text.ofString "1 & 2")] ∧
        url.fragment = none := by
  have hread : Endpoint.read .usual (.text " HTTPS://u:p@Etcd1:2379/x/../base//") =
      .ok ⟨"https://u:p@etcd1:2379/base//"⟩ := by rfl
  have haddress : RequestSpec.addressOf .usual ⟨"https://u:p@etcd1:2379/base//"⟩ "v2/keys/a b"
      [(Text.ofString "prevValue", .text "1 & 2")] =
      .ok "https://u:p@etcd1:2379/base/v2/keys/a%20b?prevValue=1+%26+2" := by rfl
  obtain ⟨own, url, hown, hurl, -, hserver, hpath, hform, -, hfragment⟩ :=
    address_continues_path hread (by decide) (by decide) (by decide) haddress
  exact ⟨hread, own, url, hown, hurl, hserver, hpath, hform, hfragment⟩

/-- **Behind a bare mark every address has the path of the endpoint alone**: what was appended has become part
of its query or its fragment. -/
theorem path_of_marked_endpoint {room : Room} {value : Value} {e : Endpoint}
    (hread : Endpoint.read room value = .ok e) (hmarked : ¬e.IsBare) {path : Text} {query : List (Text × Value)}
    {address : Text} (haddress : RequestSpec.addressOf room e path query = .ok address) :
    ∃ own url : Url, Url.ofText e.url = .ok own ∧ Url.ofText address = .ok url ∧ url.path = own.path := by
  obtain ⟨-, u, -, -, hkeeps⟩ := Endpoint.exists_keeps_of_read hread
  obtain ⟨w, hw, rfl⟩ := RequestSpec.of_addressOf haddress
  obtain ⟨v, hv, hsettled, hhost, hwsettled, hparameters⟩ := hkeeps.of_addressUrl hw
  have hmarks : ¬(u.query = none ∧ u.fragment = none) := by
    rintro ⟨hquery, hfragment⟩
    have hplain : ∀ c ∈ e.url, UrlParts.isTailMark c = false := by
      intro c hc
      have hnone : Url.following "?" none ++ Url.following "#" none = [] := rfl
      rw [hkeeps.url_eq, Url.toText_eq_front, hquery, hfragment, hnone, List.append_nil] at hc
      exact hkeeps.written.isOpen.isTailMark_of_mem c hc
    exact hmarked ⟨fun hc => absurd (hplain _ hc) (by decide), fun hc => absurd (hplain _ hc) (by decide)⟩
  have hpath : v.path = u.reread.path := by
    rw [hv]
    unfold Url.below
    -- a part behind a mark has grown, so the path has not
    cases hfragment : u.fragment with
    | some fragment => rfl
    | none =>
      cases hquery : u.query with
      | some query => rfl
      | none => exact absurd ⟨hquery, hfragment⟩ hmarks
  refine ⟨u.reread, w, ?_, hwsettled.ofText_toText, ?_⟩
  · rw [hkeeps.url_eq]
    exact hkeeps.written.ofText_toText_reread hhost
  · rcases hparameters with ⟨-, rfl⟩ | ⟨-, hwith⟩
    · exact hpath
    · obtain ⟨-, written, -, rfl⟩ := hsettled.of_withParameters hwith
      exact hpath

/-- With an empty query in front of it, the path of a call becomes a query. -/
theorem address_lost_in_query :
    Endpoint.read .usual (.text "http://etcd1:2379?") = .ok ⟨"http://etcd1:2379?"⟩ ∧
      RequestSpec.addressOf .usual ⟨"http://etcd1:2379?"⟩ "v2/keys/foo" [] = .ok "http://etcd1:2379?/v2/keys/foo" ∧
      (Url.ofText "http://etcd1:2379?/v2/keys/foo").map (fun url => (url.path, url.query)) =
        .ok ([], some "/v2/keys/foo") := by
  refine ⟨by rfl, by rfl, by rfl⟩

end ClusterClient
