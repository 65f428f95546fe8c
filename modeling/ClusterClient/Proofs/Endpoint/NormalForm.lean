import ClusterClient.Proofs.Endpoint.Acceptance
import ClusterClient.Proofs.Endpoint.KeyAddresses

/-!
# Endpoints in normal form

An endpoint keeps the text of the URL that was read for it. When that text is read in its turn, mostly the same
endpoint comes out. There are four ways in which it does not: escaping has made the text too long; the host was
written with the full stops of another script and looks like an IPv4 address now; the host holds an escape with a
letter in it, which is put into lower case; or the scheme was written in capital letters, so that the port it
implies was not left out. What comes out then, if anything does, is in normal form itself.

## The architecture

* **`Text.EndsPlainly`**: the text of a written URL does not end in a blank (`Url.IsWritten.strip_toText`).
* **`Url.IsWritten.toText_inj`**: the text of a written URL tells its parts.
* **`Endpoint.Keeps.read_url`**: what a second reading gives, or why it fails. It changes nothing exactly if
  the URL is the same after it (`Endpoint.Keeps.read_url_eq_self_iff`), and a third one changes nothing
  (`Endpoint.Keeps.read_url_reread`).
* **`endpoints_settle`**: all of it, with `endpoint_is_not_in_normal_form` for an endpoint of the last kind.
-/

namespace ClusterClient

/-! ## Blanks at the ends -/

theorem CodePoint.isBlank_of_visible {c : CodePoint} (h : 0x21 ≤ c.val ∧ c.val ≤ 0x7E) : c.isBlank = false := by
  -- no range of blanks meets that of visible ASCII
  have hranges : CodePoint.blankRanges.all (fun range => range.2 < 0x21 || 0x7E < range.1) = true := by decide
  rw [Bool.eq_false_iff]
  intro hblank
  obtain ⟨range, hrange, hin⟩ := Ranges.contains_iff.1 hblank
  have hout := List.all_eq_true.1 hranges range hrange
  simp only [Bool.or_eq_true, decide_eq_true_eq] at hout
  omega

namespace Text

/-- The text does not end in a blank. -/
def EndsPlainly (t : Text) : Prop := ∀ c, t.getLast? = some c → c.isBlank = false

theorem endsPlainly_of_forall {t : Text} (h : ∀ c ∈ t, c.isBlank = false) : EndsPlainly t :=
  fun c hc => h c (List.mem_of_getLast? hc)

/-- Every code point of a text of visible ASCII is no blank. -/
theorem isBlank_of_all {t : Text} (h : t.all (fun c => 0x21 ≤ c.val && c.val ≤ 0x7E) = true) :
    ∀ c ∈ t, c.isBlank = false := by
  intro c hc
  have hvisible := List.all_eq_true.1 h c hc
  rw [Bool.and_eq_true, decide_eq_true_eq, decide_eq_true_eq] at hvisible
  exact CodePoint.isBlank_of_visible hvisible

/-- Two texts without blanks at their ends make one, even if one of them is empty. -/
theorem EndsPlainly.append {a b : Text} (ha : EndsPlainly a) (hb : EndsPlainly b) : EndsPlainly (a ++ b) := by
  intro c hc
  rw [List.getLast?_append] at hc
  rcases Option.or_eq_some_iff.1 hc with hlast | ⟨-, hlast⟩
  · exact hb c hlast
  · exact ha c hlast

end Text

/-! ## The text of a URL -/

namespace Url

/-- What a part keeps is visible, if it does not keep the space. -/
theorem isBlank_of_keeps {except : Text} (hspace : except.contains (CodePoint.ofChar ' ') = true) {c : CodePoint}
    (h : keeps except c = true) : c.isBlank = false := by
  simp only [keeps, isPrintableAscii, Bool.and_eq_true, decide_eq_true_eq, Bool.not_eq_true'] at h
  refine CodePoint.isBlank_of_visible ⟨?_, h.1.2⟩
  have hne : c ≠ CodePoint.ofChar ' ' := by
    rintro rfl
    rw [hspace] at h
    exact absurd h.2 (by decide)
  have hval : c.val ≠ 0x20 := fun hval => hne (Fin.ext hval)
  omega

/-- A part behind its mark has no blanks at its ends if neither the mark nor the part has any. -/
theorem endsPlainly_following {mark : Text} (hmark : ∀ c ∈ mark, c.isBlank = false) {part : Option Text}
    (hpart : ∀ p ∈ part, ∀ c ∈ p, c.isBlank = false) : Text.EndsPlainly (following mark part) := by
  cases part with
  | none => exact Text.endsPlainly_of_forall fun c hc => absurd hc List.not_mem_nil
  | some p => exact Text.endsPlainly_of_forall (List.forall_mem_append.2 ⟨hmark, hpart p rfl⟩)

namespace IsWritten

variable {u v : Url}

/-- A host is written without blanks, in brackets or not. -/
theorem endsPlainly_writtenHost (h : u.IsWritten) : Text.EndsPlainly (writtenHost u.host) := by
  rcases h.host with hname | haddress
  · rw [Host.writtenHost_name hname]
    exact Text.endsPlainly_of_forall fun c hc => CodePoint.isBlank_of_visible (Host.val_of_isKept (hname c hc).1)
  · -- a zone may hold a blank, but a bracket follows it
    rw [Host.writtenHost_address haddress, ← List.cons_append]
    intro c hc
    rw [List.getLast?_concat] at hc
    obtain rfl := Option.some.inj hc
    decide

/-- An authority has no blanks at its ends: it is a host, and digits behind a colon if there is a port. What
stands in front of the host is kept text and a mark. -/
theorem endsPlainly_authority (h : u.IsWritten) : Text.EndsPlainly u.authority := by
  have huserinfo : Text.EndsPlainly (marked [] u.userinfo "@") := by
    refine Text.endsPlainly_of_forall fun c hc => ?_
    rcases mem_marked hc with hnone | huser | hat
    · exact absurd hnone List.not_mem_nil
    · exact isBlank_of_keeps (by decide) (h.userinfo c huser)
    · obtain rfl := List.mem_singleton.1 hat
      decide
  -- the digits of a port, with the colon in front of them
  have hport : Text.EndsPlainly (following ":" (u.port.map Whole.toText)) := by
    refine endsPlainly_following (List.forall_mem_singleton.2 (by decide)) fun p hp c hc => ?_
    obtain ⟨n, -, rfl⟩ := Option.map_eq_some_iff.1 hp
    rcases Whole.of_mem_toText hc with hdigit | rfl
    · simp only [CodePoint.isAsciiDigit, Bool.and_eq_true, decide_eq_true_eq] at hdigit
      exact CodePoint.isBlank_of_visible (by omega)
    · decide
  exact (huserinfo.append h.endsPlainly_writtenHost).append hport

/-- There are no blanks around the text of a written URL: each of its parts has none at its end, and the scheme
in front has none at all. -/
theorem strip_toText (h : u.IsWritten) : u.toText.strip = u.toText := by
  have hscheme : ∀ c ∈ u.scheme, c.isBlank = false := by
    rcases h.scheme with heq | heq <;> rw [heq] <;> exact Text.isBlank_of_all (by decide)
  have hmarks : ∀ c ∈ CodePoint.ofChar ':' :: Text.ofString "//", c.isBlank = false := Text.isBlank_of_all (by decide)
  have hpath : Text.EndsPlainly u.path :=
    Text.endsPlainly_of_forall fun c hc => isBlank_of_keeps (by decide) (h.path c hc)
  have hquery : Text.EndsPlainly (following "?" u.query) :=
    endsPlainly_following (Text.isBlank_of_all (by decide)) fun q hq c hc =>
      isBlank_of_keeps (by decide) (h.query q hq c hc)
  have hfragment : Text.EndsPlainly (following "#" u.fragment) :=
    endsPlainly_following (Text.isBlank_of_all (by decide)) fun f hf c hc =>
      isBlank_of_keeps (by decide) (h.fragment f hf c hc)
  -- part by part in the order in which they are written
  have hends := (Text.endsPlainly_of_forall hscheme).append ((Text.endsPlainly_of_forall hmarks).append
    (h.endsPlainly_authority.append (hpath.append (hquery.append hfragment))))
  have hstart : ∀ c, u.toText.head? = some c → c.isBlank = false := by
    intro c hc
    rw [h.toText_eq, List.head?_append] at hc
    rcases Option.or_eq_some_iff.1 hc with hfirst | ⟨hnone, -⟩
    · exact hscheme c (List.mem_of_head? hfirst)
    · exact absurd (List.head?_eq_none_iff.1 hnone) h.scheme_ne_nil
  refine Text.stripBy_of_ends hstart ?_
  rw [h.toText_eq]
  exact hends

/-! ### The text tells the parts -/

/-- A host can be told from how it is written. Brackets stand around it exactly if there is a colon in it, and a
host without colons has no brackets of its own. -/
theorem writtenHost_inj {host host' : Text} (h : Host.IsWritten host) (h' : Host.IsWritten host')
    (heq : writtenHost host = writtenHost host') : host = host' := by
  have hmixed {name address : Text} (hname : Host.IsName name) (haddress : Host.IsAddress address)
      (heq : writtenHost name = writtenHost address) : False := by
    rw [Host.writtenHost_name hname, Host.writtenHost_address haddress] at heq
    exact absurd (hname _ (heq ▸ List.mem_cons_self)).1 (by decide)
  rcases h with hname | haddress <;> rcases h' with hname' | haddress'
  · rwa [Host.writtenHost_name hname, Host.writtenHost_name hname'] at heq
  · exact (hmixed hname haddress' heq).elim
  · exact (hmixed hname' haddress heq.symm).elim
  · rw [Host.writtenHost_address haddress, Host.writtenHost_address haddress'] at heq
    exact List.append_cancel_right (List.cons_inj_right _ |>.1 heq)

/-- A port can be told from its digits, provided that they are few enough to be written at all. No port is
written as no digits, and no number is, so that the two cannot be mixed up. -/
theorem port_inj {m n : Option Int} (hm : ∀ i ∈ m, i.natAbs < Nat.pow 10 Whole.maxDigits)
    (hn : ∀ i ∈ n, i.natAbs < Nat.pow 10 Whole.maxDigits)
    (heq : (m.map Whole.toText).getD [] = (n.map Whole.toText).getD []) : m = n := by
  cases m with
  | none =>
    cases n with
    | none => rfl
    | some n => exact absurd heq.symm (Whole.toText_ne_nil n)
  | some m =>
    cases n with
    | none => exact absurd heq (Whole.toText_ne_nil m)
    | some n =>
      have hread := Whole.read?_toText (hm m rfl)
      rw [show Whole.toText m = Whole.toText n from heq, Whole.read?_toText (hn n rfl)] at hread
      exact hread.symm

/-- **The text of a written URL tells its parts.** -/
theorem toText_inj (hu : u.IsWritten) (hv : v.IsWritten) (heq : u.toText = v.toText) : u = v := by
  have hparts := congrArg UrlParts.ofText heq
  rw [hu.ofText_toText, hv.ofText_toText] at hparts
  obtain ⟨hscheme, hauthority, hpath, hquery, hfragment⟩ := UrlParts.mk.inj hparts
  have hserver := congrArg Authority.ofText hauthority
  rw [hu.authority_ofText, hv.authority_ofText] at hserver
  obtain ⟨huserinfo, hhost, hport⟩ := Authority.mk.inj hserver
  obtain ⟨scheme, userinfo, host, port, path, query, fragment⟩ := u
  obtain ⟨scheme', userinfo', host', port', path', query', fragment'⟩ := v
  -- of the parts, only the host and the port are written in another form than they are kept
  obtain rfl := writtenHost_inj hu.host hv.host hhost
  obtain rfl := port_inj hu.port hv.port hport
  simp_all

/-! ### Reading it once more -/

/-- **A disguised name is in the way of the whole URL.** It is kept as a name, and looks like an address with
four parts once it has been written; read again it is taken for one, and is none. -/
theorem ofText_toText_of_isDisguised (h : u.IsWritten) (hhost : Host.IsDisguised u.host) :
    Url.ofText u.toText = .error (.ipv4 u.host) := by
  obtain ⟨hfour, hnone⟩ := hhost
  have hname : Host.IsName u.host := by
    refine h.host.resolve_right fun haddress => ?_
    exact Host.not_looksLikeIPv4_of_isIPv6 haddress.valid hfour
  have hrefused : Host.normalize (writtenHost u.host) = .error (.ipv4 u.host) := by
    rw [Host.writtenHost_name hname, Host.normalize_name hname, if_pos hfour, hnone]
    rfl
  have hauthority : Authority.ofText u.toParts.authority = _ := h.authority_ofText
  rw [Url.ofText, h.ofText_toText, ofParts, hauthority]
  dsimp only
  rw [show escapePart keptInUserinfo u.userinfo = .ok u.userinfo from escapePart_of_keeps h.userinfo, hrefused]
  rfl

/-- **When reading leaves a written URL as it is**: nothing in its host is put into lower case, and its port is not
the one that the scheme implies. -/
theorem reread_eq_iff (hdots : HasNoDots u.path) :
    u.reread = u ↔ (CodePoint.ofChar ':' ∈ u.host ∨ ∀ c ∈ u.host, c.isAsciiUpper = false) ∧
      ∀ n ∈ u.port, defaultPort? u.scheme ≠ some n := by
  -- a name is put into lower case, and an address is left alone
  have hhost : Host.respelled u.host = u.host ↔
      CodePoint.ofChar ':' ∈ u.host ∨ ∀ c ∈ u.host, c.isAsciiUpper = false := by
    unfold Host.respelled
    by_cases hcolon : CodePoint.ofChar ':' ∈ u.host
    · simp [hcolon]
    · simp only [List.contains_iff_mem, hcolon, if_false, false_or]
      refine ⟨fun hlower c hc => ?_, Text.toAsciiLower_of_forall⟩
      rw [← hlower] at hc
      exact Text.isAsciiUpper_of_mem_toAsciiLower hc
  have hport : u.explicitPort = u.port ↔ ∀ n ∈ u.port, defaultPort? u.scheme ≠ some n := by
    unfold explicitPort
    cases u.port <;> simp [Option.filter]
  obtain ⟨scheme, userinfo, host, port, path, query, fragment⟩ := u
  unfold reread
  rw [normalizePath_of_hasNoDots hdots, ← hhost, ← hport]
  simp

/-- Reading makes the text of a URL no longer. This is why an endpoint that was short enough to be read twice is
short enough for any further time. -/
theorem length_toText_reread_le (h : u.IsWritten) (hreread : u.reread.IsWritten) (hdots : HasNoDots u.path) :
    u.reread.toText.length ≤ u.toText.length := by
  -- lower case changes no length, and a port can only be left out
  have hhost : (writtenHost (Host.respelled u.host)).length = (writtenHost u.host).length := by
    rcases h.host with hname | haddress
    · rw [Host.respelled_name hname, Host.writtenHost_name hname, Host.writtenHost_name hname.toAsciiLower]
      exact List.length_map _
    · rw [Host.respelled_address haddress]
  have hport : (following ":" (u.explicitPort.map Whole.toText)).length ≤
      (following ":" (u.port.map Whole.toText)).length := by
    unfold explicitPort
    cases u.port with
    | none => exact Nat.le_refl 0
    | some n =>
      rw [Option.filter_some]
      split
      · exact Nat.le_refl _
      · exact Nat.zero_le _
  rw [h.toText_eq, hreread.toText_eq]
  simp only [reread, authority, normalizePath_of_hasNoDots hdots, List.length_append, List.length_cons, hhost]
  omega

end IsWritten

end Url

/-! ## Reading an endpoint once more -/

instance (host : Text) : Decidable (Host.IsDisguised host) := inferInstanceAs (Decidable (_ ∧ _))

namespace Endpoint

namespace Keeps

variable {room : Room} {e : Endpoint} {u : Url}

/-- **What a second reading gives.** The text of the URL is longer than what was given at first where parts of
it had to be escaped, so that it may be too long now; and a name that has become an address by being escaped is
refused. Otherwise the host is read in lower case, and the port is left out if it is the usual one. -/
theorem read_url (h : e.Keeps u) :
    read room (.text e.url) =
      if Url.maxLength < e.url.length then .error (.invalidEndpoint (.text e.url) "URL too long")
      else if Host.IsDisguised u.host then
        .error (.invalidEndpoint (.text e.url) ("Invalid IPv4 address: " ++ u.host.quoted))
      else .ok ⟨u.reread.toText⟩ := by
  have hstrip : e.url.strip = e.url := by
    rw [h.url_eq]
    exact h.written.strip_toText
  -- a text that is kept has a scheme, and so is not blank
  have hblank : e.url.isBlank = false := by
    rw [Bool.eq_false_iff]
    intro hblank
    rw [strip_of_isBlank hblank, h.url_eq, h.written.toText_eq] at hstrip
    exact h.written.scheme_ne_nil (List.append_eq_nil_iff.1 hstrip.symm).1
  rw [read_text hblank, hstrip, h.url_eq, Url.read_eq h.written.isAsciiControl_of_mem_toText]
  by_cases hlong : Url.maxLength < u.toText.length
  · rw [if_pos hlong, if_pos hlong]
    rfl
  · rw [if_neg hlong, if_neg hlong]
    by_cases hhost : Host.IsDisguised u.host
    · rw [h.written.ofText_toText_of_isDisguised hhost, if_pos hhost]
      rfl
    · obtain ⟨name, hshown, hname⟩ := h.shown
      rw [h.written.ofText_toText_reread ((Host.normalize_writtenHost_eq_ok_iff h.written.host).2 hhost), if_neg hhost]
      exact ofUrl_eq_ok_iff.2 ⟨h.written.scheme, Host.shown_respelled h.written.host hshown hname, h.query_bare,
        h.fragment_bare, rfl⟩

/-- **The address that an endpoint keeps is accepted again** exactly if it is short enough and its host is not
written in disguise. It is the address spelled anew then. -/
theorem read_url_eq_ok_iff (h : e.Keeps u) {e' : Endpoint} :
    read room (.text e.url) = .ok e' ↔
      e.url.length ≤ Url.maxLength ∧ ¬Host.IsDisguised u.host ∧ e' = ⟨u.reread.toText⟩ := by
  rw [h.read_url]
  constructor
  · intro hread
    split at hread
    · cases hread
    · next hlength =>
      split at hread
      · cases hread
      · next hhost => exact ⟨Nat.not_lt.1 hlength, hhost, (Except.ok.inj hread).symm⟩
  · rintro ⟨hlength, hhost, rfl⟩
    rw [if_neg (Nat.not_lt.2 hlength), if_neg hhost]

/-- What has been read again is in normal form. -/
theorem reread (h : e.Keeps u) (hhost : ¬Host.IsDisguised u.host) :
    Keeps ⟨u.reread.toText⟩ u.reread ∧ u.reread.IsSettled := by
  obtain ⟨name, hshown, hname⟩ := h.shown
  have hread := h.written.ofText_toText_reread ((Host.normalize_writtenHost_eq_ok_iff h.written.host).2 hhost)
  have hsettled := (h.written.of_ofText_toText hread).2
  exact ⟨⟨rfl, hsettled.toIsWritten, hsettled.noDots, h.query_bare, h.fragment_bare,
    Host.shown_respelled h.written.host hshown hname⟩, hsettled⟩

/-- **An endpoint is in normal form** if a second reading is possible and leaves its URL as it is. -/
theorem read_url_eq_self_iff (h : e.Keeps u) :
    read room (.text e.url) = .ok e ↔ e.url.length ≤ Url.maxLength ∧ ¬Host.IsDisguised u.host ∧ u.reread = u := by
  rw [h.read_url_eq_ok_iff]
  refine and_congr_right fun _ => and_congr_right fun hhost => ⟨fun he => ?_, fun hsame => ?_⟩
  · have htext : u.toText = u.reread.toText := by rw [← h.url_eq, he]
    exact ((h.reread hhost).1.written.toText_inj h.written htext.symm)
  · rw [hsame, ← h.url_eq]

/-- The second reading is the last that changes anything. -/
theorem read_url_reread (h : e.Keeps u) {e' : Endpoint} (hread : read room (.text e.url) = .ok e') :
    read room (.text e'.url) = .ok e' := by
  obtain ⟨hlength, hhost, rfl⟩ := h.read_url_eq_ok_iff.1 hread
  obtain ⟨hkeeps, hsettled⟩ := h.reread hhost
  refine hkeeps.read_url_eq_self_iff.2 ⟨?_, ?_, hsettled.reread_eq⟩
  · rw [h.url_eq] at hlength
    exact Nat.le_trans (h.written.length_toText_reread_le hkeeps.written h.noDots) hlength
  · have hsame := (Host.normalize_respelled hkeeps.written.host hsettled.hostSettled).1
    exact (Host.normalize_writtenHost_eq_ok_iff hkeeps.written.host).1 (hsame ▸ hsettled.hostSettled)

end Keeps

end Endpoint

/-! ## How an endpoint was written -/

/-- A port that has been kept is not the default one of its scheme: that one is dropped when a URL is read. With
the scheme in capital letters the port is kept for want of a default, and dropped only when it is read again. -/
theorem Url.defaultPort?_ne_of_normalizePort {scheme written : Text} {port : Option Int}
    (h : normalizePort scheme written = .ok port) : ∀ n ∈ port, defaultPort? scheme ≠ some n := by
  unfold normalizePort at h
  split at h
  · obtain rfl := Except.ok.inj h
    exact fun n hn => by cases hn
  · split at h
    · cases h
    · obtain rfl := Except.ok.inj h
      intro m hm
      split at hm
      · cases hm
      · next hdefault =>
        obtain rfl := Option.some.inj hm
        exact hdefault

/-- **A host that needs no escape** is kept without capital letters, and is no disguised name. One case for each
kind of host; one that has to be encoded is written in lower case before. -/
theorem Host.plain_of_isKept {t host : Text} (h : normalize t = .ok host) (ht : ∀ c ∈ t, isKept c = true) :
    ¬IsDisguised host ∧ ∀ c ∈ host, c.isAsciiUpper = false := by
  have hascii : t.isAscii = true := by
    refine List.all_eq_true.2 fun c hc => ?_
    have hval := val_of_isKept (ht c hc)
    simp only [CodePoint.isAscii, decide_eq_true_eq]
    omega
  refine ⟨not_isDisguised_of_isAscii h hascii, ?_⟩
  rcases normalize_cases h with ⟨-, rfl⟩ | ⟨hfour, rfl⟩ | ⟨inside, rfl, -, -⟩ | ⟨-, rfl⟩ | hencoded
  · exact fun c hc => absurd hc List.not_mem_nil
  · rw [← toAsciiLower_of_looksLikeIPv4 hfour]
    exact fun c => Text.isAsciiUpper_of_mem_toAsciiLower
  -- a bracket is not kept in a host
  · exact absurd (ht _ List.mem_cons_self) (by decide)
  · have hlower : ∀ c ∈ t.toAsciiLower, isKept c = true := by
      intro c hc
      obtain ⟨d, hd, rfl⟩ := List.mem_map.1 hc
      exact isKept_toAsciiLower (ht d hd)
    rw [Percent.flatMap_protect_of_forall hlower]
    exact fun c => Text.isAsciiUpper_of_mem_toAsciiLower
  · intro c hc
    rcases Domain.of_mem_encode hencoded (fun c hc => Text.isAsciiUpper_of_mem_toLower hc) c hc with hplain | rfl
    · exact isAsciiUpper_of_isPlain hplain
    · decide

open Endpoint

/-- **When an endpoint is in normal form**: its URL is short enough, its host is no disguised name and has no
capital letters unless it is an address in brackets, and its port is not the usual one of its scheme. A second
reading gives an endpoint in normal form or names what is at fault, and an endpoint whose text needed no change
of scheme or host settles at once. -/
theorem endpoints_settle {room : Room} {value : Value} {e : Endpoint} (hread : Endpoint.read room value = .ok e) :
    ∃ u, IsUrlOf value u ∧ e = ⟨u.toText⟩ ∧
      (Endpoint.read room (.text e.url) = .ok e ↔
        e.url.length ≤ Url.maxLength ∧ ¬Host.IsDisguised u.host ∧
          (CodePoint.ofChar ':' ∈ u.host ∨ ∀ c ∈ u.host, c.isAsciiUpper = false) ∧
          ∀ n ∈ u.port, Url.defaultPort? u.scheme ≠ some n) ∧
      (∀ e', Endpoint.read room (.text e.url) = .ok e' →
        e' = ⟨u.reread.toText⟩ ∧ Endpoint.read room (.text e'.url) = .ok e') ∧
      (∀ f, Endpoint.read room (.text e.url) = .error f →
        (Url.maxLength < e.url.length ∧ f = .invalidEndpoint (.text e.url) "URL too long") ∨
          (Host.IsDisguised u.host ∧
            f = .invalidEndpoint (.text e.url) ("Invalid IPv4 address: " ++ u.host.quoted))) ∧
      ∀ t, value = .text t → e.url.length ≤ Url.maxLength → (UrlParts.ofText t.strip).scheme = u.scheme →
        (∀ c ∈ (Url.Authority.ofText (UrlParts.ofText t.strip).authority).host, Host.isKept c = true) →
        Endpoint.read room (.text e.url) = .ok e := by
  obtain ⟨t, u, rfl, hu, hkeeps⟩ := exists_keeps_of_read hread
  have hnormal : Endpoint.read room (.text e.url) = .ok e ↔ _ :=
    hkeeps.read_url_eq_self_iff.trans (and_congr_right fun _ => and_congr_right fun _ =>
      Url.IsWritten.reread_eq_iff hkeeps.noDots)
  refine ⟨u, ⟨t, rfl, hu, hkeeps.written.scheme⟩, congrArg Endpoint.mk hkeeps.url_eq, hnormal, fun e' hagain =>
    ⟨(hkeeps.read_url_eq_ok_iff.1 hagain).2.2, hkeeps.read_url_reread hagain⟩, fun f hf => ?_,
    fun t' ht hlength hscheme hhost => ?_⟩
  · rw [hkeeps.read_url] at hf
    split at hf
    · next hlong => exact .inl ⟨hlong, (Except.error.inj hf).symm⟩
    · split at hf
      · next hdisguised => exact .inr ⟨hdisguised, (Except.error.inj hf).symm⟩
      · cases hf
  · obtain rfl : t = t' := by cases ht; rfl
    have hreads := Url.ofParts_eq_ok_iff.1 (Url.of_read hu).2.2
    obtain ⟨hplain, hsmall⟩ := Host.plain_of_isKept hreads.host hhost
    -- the implied port is left out if the scheme stands as it is looked for
    have hport := Url.defaultPort?_ne_of_normalizePort hreads.port
    rw [hscheme] at hport
    exact hnormal.2 ⟨hlength, hplain, .inr hsmall, hport⟩

/-- An endpoint that is written in another way than it is kept, and its second reading. -/
theorem endpoints_settle_at_once :
    Endpoint.read .usual (.text " https://u:p@Etcd1:443/x/../base// ") = .ok ⟨"https://u:p@etcd1/base//"⟩ ∧
      Endpoint.read .usual (.text "https://u:p@etcd1/base//") = .ok ⟨"https://u:p@etcd1/base//"⟩ := by
  have hread : Endpoint.read .usual (.text " https://u:p@Etcd1:443/x/../base// ") = .ok ⟨"https://u:p@etcd1/base//"⟩ := by rfl
  obtain ⟨u, hurl, hu, -, -, -, hplain⟩ := endpoints_settle hread
  have hscheme : u.scheme = "https" := by
    obtain ⟨-, hofText, -⟩ := hurl.of_text
    exact congrArg Url.scheme (Except.ok.inj (hofText.symm.trans rfl))
  refine ⟨hread, hplain _ rfl (by decide) ?_ (List.all_eq_true.1 (by decide))⟩
  rw [hscheme]
  rfl

/-- With its scheme in capital letters the port stands in the text of the endpoint, though it is the one that the
scheme implies, and it is left out when the text is read. -/
theorem endpoint_is_not_in_normal_form :
    Endpoint.read .usual (.text "HTTP://etcd1:80") = .ok ⟨"http://etcd1:80"⟩ ∧
      Endpoint.read .usual (.text "http://etcd1:80") = .ok ⟨"http://etcd1"⟩ ∧
      (⟨"http://etcd1:80"⟩ : Endpoint) ≠ ⟨"http://etcd1"⟩ := by
  refine ⟨by rfl, by rfl, by decide⟩

end ClusterClient
