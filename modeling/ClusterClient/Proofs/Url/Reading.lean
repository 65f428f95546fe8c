import ClusterClient.Proofs.Url.Host
import ClusterClient.Proofs.Url.Path

/-!
# Reading a URL that was written

The text of a URL that was read can be read again. This is how an address is made: the base URL of a
member is read once, written, continued, read again, and written again for the request.

## The architecture

* **`Reads`**: what `Url.ofParts` demands of the parts and makes of them, one field for each part
  (`ofParts_eq_ok_iff`).
* **`IsWritten`**: the form of a web server's URL after reading (`isWritten_of_ofText`). Its text falls apart
  into its parts again (`IsWritten.ofText_toText`).
* **`reread`**: what a second reading makes of it (`IsWritten.ofText_toText_reread`): the case of escapes in the host,
  the implied port and dot segments change, and nothing else.
* **`IsSettled`**: from then on reading gives the URL itself (`IsSettled.ofText_toText`,
  `IsSettled.read_toText`).
-/

namespace ClusterClient.Url

/-! ## Parts and escapes -/

/-- A part can be escaped if it has no half of a surrogate pair, which has no octets. It is escaped code point
by code point. -/
theorem escapePart_eq_ok_iff {kept : CodePoint → Bool} {t written : Text} :
    escapePart kept t = .ok written ↔
      (∀ c ∈ t, c.isSurrogate = false) ∧ written = t.flatMap (Percent.protect kept) := by
  unfold escapePart
  constructor
  · intro h
    split at h
    · next escaped hescaped =>
      obtain rfl := Except.ok.inj h
      exact Percent.of_encodeEach hescaped
    · cases h
  · rintro ⟨hplain, rfl⟩
    rw [Percent.encodeEach_of_forall hplain]

/-- What a part keeps is printable ASCII, and no half of a surrogate pair. -/
theorem isSurrogate_of_keeps {except : Text} {c : CodePoint} (h : keeps except c = true) :
    c.isSurrogate = false := by
  simp only [keeps, isPrintableAscii, Bool.and_eq_true, decide_eq_true_eq] at h
  simp only [CodePoint.isSurrogate, Bool.and_eq_false_iff, decide_eq_false_iff_not]
  omega

theorem escapePart_of_keeps {except t : Text} (h : ∀ c ∈ t, keeps except c = true) :
    escapePart (keeps except) t = .ok t :=
  escapePart_eq_ok_iff.2 ⟨fun c hc => isSurrogate_of_keeps (h c hc), (Percent.flatMap_protect_of_forall h).symm⟩

/-- What a part keeps is no control character, so a text of kept parts passes the check for these. -/
theorem isAsciiControl_of_keeps {except : Text} {c : CodePoint} (h : keeps except c = true) :
    c.isAsciiControl = false := by
  simp only [keeps, isPrintableAscii, Bool.and_eq_true, decide_eq_true_eq] at h
  simp only [CodePoint.isAsciiControl, Bool.or_eq_false_iff, decide_eq_false_iff_not, beq_eq_false_iff_ne]
  omega

/-- An escaped part holds what it keeps, if it keeps escapes. So escaping it again changes nothing. -/
theorem keeps_of_escapePart {except t written : Text} (h : escapePart (keeps except) t = .ok written)
    (hescape : ∀ c, Percent.isInEscape c = true → keeps except c = true) :
    ∀ c ∈ written, keeps except c = true := by
  obtain ⟨-, rfl⟩ := escapePart_eq_ok_iff.1 h
  exact fun c hc => Percent.of_mem_flatMap_protect (fun c hc => hc) hescape hc

/-- A part keeps a class of printable code points, if none of its exceptions is in the class. -/
theorem keeps_of_forall {except : Text} {p : CodePoint → Bool}
    (hprintable : ∀ c, p c = true → isPrintableAscii c = true)
    (hexcept : except.all (fun c => !p c) = true) {c : CodePoint} (h : p c = true) : keeps except c = true := by
  have hnot : except.contains c = false := by
    rw [Bool.eq_false_iff]
    intro hmem
    have hfalse := List.all_eq_true.1 hexcept c (List.contains_iff_mem.1 hmem)
    rw [h] at hfalse
    cases hfalse
  rw [keeps, hprintable c h, hnot]
  rfl

/-- Escapes are written in printable ASCII. -/
theorem isPrintableAscii_of_isInEscape {c : CodePoint} (h : Percent.isInEscape c = true) :
    isPrintableAscii c = true := by
  simp only [Percent.isInEscape, CodePoint.isAsciiDigit, Bool.or_eq_true, Bool.and_eq_true,
    decide_eq_true_eq] at h
  rcases h with (rfl | hdigit) | hletter
  · decide
  · simp only [isPrintableAscii, Bool.and_eq_true, decide_eq_true_eq]
    omega
  · simp only [isPrintableAscii, Bool.and_eq_true, decide_eq_true_eq]
    omega

/-- A part keeps escapes, unless one of its exceptions is among them. -/
theorem keeps_of_isInEscape {except : Text} (hexcept : except.all (fun c => !Percent.isInEscape c) = true)
    {c : CodePoint} (h : Percent.isInEscape c = true) : keeps except c = true :=
  keeps_of_forall (fun _ => isPrintableAscii_of_isInEscape) hexcept h

/-- What is never escaped is printable ASCII. -/
theorem isPrintableAscii_of_isUnreserved {c : CodePoint} (h : Percent.isUnreserved c = true) :
    isPrintableAscii c = true := by
  have hval := Percent.val_of_isUnreserved h
  simp only [isPrintableAscii, Bool.and_eq_true, decide_eq_true_eq]
  omega

/-! ## What reading demands -/

/-- The URL that a text of any length and of any code points writes. -/
def ofText (t : Text) : Except UrlFault Url := ofParts (UrlParts.ofText t)

/-- A text that is read is not too long, has no control characters, and writes the URL. -/
theorem of_read {t : Text} {u : Url} (h : read t = .ok u) :
    t.length ≤ maxLength ∧ (∀ c ∈ t, c.isAsciiControl = false) ∧ ofText t = .ok u := by
  unfold read at h
  split at h
  · cases h
  · next hlength =>
    split at h
    · cases h
    · next hnone =>
      exact ⟨Nat.not_lt.1 hlength, fun c hc => List.findIdx?_eq_none_iff.1 hnone c hc, h⟩

/-- Of a text without control characters the length alone is in the way. -/
theorem read_eq {t : Text} (h : ∀ c ∈ t, c.isAsciiControl = false) :
    read t = if maxLength < t.length then .error .tooLong else ofText t := by
  unfold read
  rw [List.findIdx?_eq_none_iff.2 h]
  rfl

/-- The parts `p` are those of the URL `u`, written in whatever way. The conditions stand in the order in which
they are checked, and the first one that fails is told. -/
structure Reads (p : UrlParts) (u : Url) : Prop where
  scheme : u.scheme = p.scheme.toAsciiLower
  userinfo : escapePart keptInUserinfo (Authority.ofText p.authority).userinfo = .ok u.userinfo
  host : Host.normalize (Authority.ofText p.authority).host = .ok u.host
  port : normalizePort p.scheme (Authority.ofText p.authority).port = .ok u.port
  follows : checkPath (!u.scheme.isEmpty) (!u.userinfo.isEmpty || !u.host.isEmpty || u.port.isSome) p.path =
    .ok ()
  path : escapePart keptInPath
    (if !u.scheme.isEmpty || (!u.userinfo.isEmpty || !u.host.isEmpty || u.port.isSome) then
      normalizePath p.path else p.path) = .ok u.path
  query : p.query.mapM (escapePart keptInQuery) = .ok u.query
  fragment : p.fragment.mapM (escapePart keptInFragment) = .ok u.fragment

/-- **Parts are read exactly if each of them is**, and the URL is what they are read to. From here on no proof
looks into `ofParts` again. -/
theorem ofParts_eq_ok_iff {p : UrlParts} {u : Url} : ofParts p = .ok u ↔ Reads p u := by
  unfold ofParts
  dsimp only
  constructor
  · -- the stages succeed one after the other, each with the part of its name
    intro h
    obtain ⟨userinfo, huserinfo, h⟩ := Except.of_bind h
    obtain ⟨host, hhost, h⟩ := Except.of_bind h
    obtain ⟨port, hport, h⟩ := Except.of_bind h
    obtain ⟨_, hfollows, h⟩ := Except.of_bind h
    obtain ⟨path, hpath, h⟩ := Except.of_bind h
    obtain ⟨query, hquery, h⟩ := Except.of_bind h
    obtain ⟨fragment, hfragment, h⟩ := Except.of_bind h
    obtain rfl := Except.ok.inj h
    exact ⟨rfl, huserinfo, hhost, hport, hfollows, hpath, hquery, hfragment⟩
  · rintro ⟨hscheme, huserinfo, hhost, hport, hfollows, hpath, hquery, hfragment⟩
    obtain ⟨scheme, userinfo, host, port, path, query, fragment⟩ := u
    dsimp only at *
    subst hscheme
    rw [huserinfo, hhost, hport]
    -- and from there on stage by stage, each with the part that it is known to give
    show (checkPath _ _ p.path >>= _) = _
    rw [hfollows]
    show (escapePart keptInPath _ >>= _) = _
    rw [hpath]
    show (p.query.mapM (escapePart keptInQuery) >>= _) = _
    rw [hquery]
    show (p.fragment.mapM (escapePart keptInFragment) >>= _) = _
    rw [hfragment]
    rfl

/-- An optional part is read if it is there. -/
theorem mapM_eq_ok {f : Text → Except UrlFault Text} {part written : Option Text}
    (h : part.mapM f = .ok written) : ∀ w ∈ written, ∃ t ∈ part, f t = .ok w := by
  cases part with
  | none =>
    obtain rfl := Except.ok.inj h
    exact fun w hw => by cases hw
  | some t =>
    intro w hw
    obtain ⟨w', hf, heq⟩ := Except.of_bind h
    obtain rfl := Except.ok.inj heq
    obtain rfl := Option.some.inj hw
    exact ⟨t, rfl, hf⟩

/-- An optional part that is left alone. -/
theorem mapM_of_forall {f : Text → Except UrlFault Text} {part : Option Text}
    (h : ∀ t ∈ part, f t = .ok t) : part.mapM f = .ok part := by
  cases part with
  | none => rfl
  | some t =>
    show (f t >>= fun w => pure (some w)) = _
    rw [h t rfl]
    rfl

/-! ### Single parts -/

/-- A port is read with no more digits than a whole number may have: no number is read from more of them, and
the port is dropped or kept as it was read. -/
theorem normalizePort_eq_ok {scheme written : Text} {port : Option Int}
    (h : normalizePort scheme written = .ok port) : ∀ n ∈ port, n.natAbs < Nat.pow 10 Whole.maxDigits := by
  unfold normalizePort at h
  split at h
  · obtain rfl := Except.ok.inj h
    exact fun n hn => by cases hn
  · split at h
    · cases h
    · next n hread =>
      obtain rfl := Except.ok.inj h
      intro m hm
      split at hm
      · cases hm
      · obtain rfl := Option.some.inj hm
        exact Whole.natAbs_lt_of_read? hread

/-- A port as it was written; it is left out if the scheme implies it. -/
theorem normalizePort_toText {scheme : Text} {port : Option Int}
    (h : ∀ n ∈ port, n.natAbs < Nat.pow 10 Whole.maxDigits) :
    normalizePort scheme ((port.map Whole.toText).getD []) =
      .ok (port.filter fun n => !(defaultPort? scheme = some n)) := by
  cases port with
  | none => rfl
  | some n =>
    have hempty : ¬(Whole.toText n).isEmpty = true := by
      rw [List.isEmpty_iff]
      exact Whole.toText_ne_nil n
    show normalizePort scheme (Whole.toText n) = _
    unfold normalizePort
    rw [if_neg hempty, Whole.read?_toText (h n rfl)]
    by_cases hdefault : defaultPort? scheme = some n
    · simp [hdefault, Option.filter]
    · simp [hdefault, Option.filter]

/-- Resolving dot segments puts nothing into a path but slashes. -/
theorem mem_normalizePath {path : Text} {c : CodePoint} (h : c ∈ normalizePath path) :
    c ∈ path ∨ c = CodePoint.ofChar '/' := by
  rw [normalizePath_eq_join] at h
  rcases Text.mem_join h with ⟨segment, hsegment, hc⟩ | hslash
  · rcases mem_of_mem_foldl_addSegment (List.mem_reverse.1 hsegment) with hnil | ⟨hsplit, -⟩
    · exact absurd hnil List.not_mem_nil
    · rw [← Text.join_splitOn '/' path]
      exact .inl (Text.mem_join_of_mem hsplit hc)
  · exact .inr (List.mem_singleton.1 hslash)

/-- Behind an authority stands a rooted path. -/
theorem isRooted_of_checkPath {hasScheme : Bool} {path : Text} (h : checkPath hasScheme true path = .ok ()) :
    IsRooted path := by
  unfold checkPath at h
  dsimp only at h
  rw [if_pos rfl] at h
  split at h
  · next hstart =>
    rcases Bool.or_eq_true_iff.1 hstart with hempty | hslash
    · rw [List.isEmpty_iff.1 hempty]
      exact isRooted_nil
    · obtain ⟨rest, rfl⟩ := List.isPrefixOf_iff_prefix.1 hslash
      exact isRooted_cons rest
  · cases h

/-- A rooted path may stand behind an authority. -/
theorem checkPath_of_isRooted {hasScheme : Bool} {path : Text} (h : IsRooted path) :
    checkPath hasScheme true path = .ok () := by
  unfold checkPath
  dsimp only
  rw [if_pos rfl]
  cases path with
  | nil => rfl
  | cons c rest =>
    obtain rfl := h c rfl
    rfl

/-! ## The form of a web server's URL -/

/-- A URL of a web server, as it is kept after it has been read. Each part holds only what it keeps; dot
segments are not spoken of, as what is appended to a path may bring some. -/
structure IsWritten (u : Url) : Prop where
  scheme : u.scheme = "http" ∨ u.scheme = "https"
  userinfo : ∀ c ∈ u.userinfo, keptInUserinfo c = true
  host : Host.IsWritten u.host
  host_ne_nil : u.host ≠ []
  port : ∀ n ∈ u.port, n.natAbs < Nat.pow 10 Whole.maxDigits
  path : ∀ c ∈ u.path, keptInPath c = true
  rooted : IsRooted u.path
  query : ∀ q ∈ u.query, ∀ c ∈ q, keptInQuery c = true
  fragment : ∀ f ∈ u.fragment, ∀ c ∈ f, keptInFragment c = true

/-- The slash is kept, so that escaping does not change where segments begin. -/
theorem keptInPath_slash : keptInPath '/' = true := by decide

/-- What stands in the authority stands in the text. -/
theorem mem_of_mem_authority {t : Text} {c : CodePoint} (h : c ∈ (UrlParts.ofText t).authority) : c ∈ t := by
  rw [UrlParts.ofText_eq] at h
  have hmem := UrlParts.mem_of_mem_splitAuthority h
  rcases UrlParts.splitScheme_cases t with heq | ⟨s, rest, heq, ht, -⟩
  · rwa [heq] at hmem
  · rw [heq] at hmem
    rw [ht]
    exact List.mem_append_right _ (List.mem_cons_of_mem _ hmem)

/-- **A URL of a web server is kept in this form, and without dot segments.** A host makes an authority, and
behind an authority the path is rooted and put into normal form. Every other part has been escaped, so that it
holds only what is kept in it. -/
theorem isWritten_of_ofText {t : Text} {u : Url} (h : ofText t = .ok u)
    (hcontrol : ∀ c ∈ t, c.isAsciiControl = false) (hscheme : u.scheme = "http" ∨ u.scheme = "https")
    (hhost : u.host ≠ []) : u.IsWritten ∧ HasNoDots u.path := by
  have hreads := ofParts_eq_ok_iff.1 h
  -- a host makes an authority, behind which a path is rooted and loses its dot segments
  have hauthority : (!u.userinfo.isEmpty || !u.host.isEmpty || u.port.isSome) = true := by
    rw [List.isEmpty_eq_false_iff.2 hhost]
    simp
  have hrooted := hreads.follows
  have hpath := hreads.path
  rw [hauthority] at hrooted hpath
  rw [Bool.or_true, if_pos rfl] at hpath
  obtain ⟨-, hescaped⟩ := escapePart_eq_ok_iff.1 hpath
  have hunmarked : ∀ c ∈ (Authority.ofText (UrlParts.ofText t).authority).host, Host.IsUnmarked c := by
    intro c hc
    obtain ⟨hmem, hat⟩ := Authority.of_mem_host hc
    refine ⟨?_, hat, hcontrol c (mem_of_mem_authority hmem)⟩
    rw [UrlParts.ofText_eq] at hmem
    exact UrlParts.endsAuthority_of_mem hmem
  refine ⟨⟨hscheme, ?_, ?_, hhost, ?_, ?_, ?_, ?_, ?_⟩, ?_⟩
  · exact keeps_of_escapePart hreads.userinfo fun c => keeps_of_isInEscape (by decide)
  · exact Host.isWritten_of_normalize hreads.host hunmarked
  · exact normalizePort_eq_ok hreads.port
  · exact keeps_of_escapePart hpath fun c => keeps_of_isInEscape (by decide)
  · rw [hescaped]
    have hnormal := isRooted_normalizePath (isRooted_of_checkPath hrooted)
    cases hp : normalizePath (UrlParts.ofText t).path with
    | nil => exact isRooted_nil
    | cons c rest =>
      obtain rfl := hnormal c (by rw [hp]; rfl)
      rw [List.flatMap_cons, Percent.protect, if_pos keptInPath_slash]
      exact isRooted_cons _
  · intro q hq
    obtain ⟨written, -, hescape⟩ := mapM_eq_ok hreads.query q hq
    exact keeps_of_escapePart hescape fun c => keeps_of_isInEscape (by decide)
  · intro f hf
    obtain ⟨written, -, hescape⟩ := mapM_eq_ok hreads.fragment f hf
    exact keeps_of_escapePart hescape fun c => keeps_of_isInEscape (by decide)
  · rw [hescaped]
    exact hasNoDots_flatMap_protect keptInPath_slash (by decide) (hasNoDots_normalizePath _)

/-! ### Its text -/

/-- What stands in an authority besides user information and host: the marks between the parts, and the
digits of a port. -/
def isAuthorityMark (c : CodePoint) : Bool := c.isAsciiDigit || (Text.ofString "@[]:-").contains c

theorem isAsciiControl_of_mem {t : Text} (ht : t.all (fun c => !c.isAsciiControl) = true) {c : CodePoint}
    (h : c ∈ t) : c.isAsciiControl = false := by
  simpa using List.all_eq_true.1 ht c h

/-- Marks and digits are no control characters. -/
theorem isAsciiControl_of_isAuthorityMark {c : CodePoint} (h : isAuthorityMark c = true) :
    c.isAsciiControl = false := by
  simp only [isAuthorityMark, Bool.or_eq_true] at h
  rcases h with hdigit | hmark
  · simp only [CodePoint.isAsciiDigit, Bool.and_eq_true, decide_eq_true_eq] at hdigit
    simp only [CodePoint.isAsciiControl, Bool.or_eq_false_iff, decide_eq_false_iff_not, beq_eq_false_iff_ne]
    omega
  · exact isAsciiControl_of_mem (by decide) (List.contains_iff_mem.1 hmark)

/-- What stands in an authority belongs to the user information or to the host, or is a mark or a digit of the
port. -/
theorem mem_authority {u : Url} {c : CodePoint} (h : c ∈ u.authority) :
    c ∈ u.userinfo ∨ c ∈ u.host ∨ isAuthorityMark c = true := by
  have hmark {d : CodePoint} (hd : isAuthorityMark d = true) (hc : c ∈ [d]) : isAuthorityMark c = true := by
    rwa [List.mem_singleton.1 hc]
  rcases List.mem_append.1 h with hfront | hport
  · rcases List.mem_append.1 hfront with huser | hhost
    · rcases mem_marked huser with hnone | huser | hat
      · exact absurd hnone List.not_mem_nil
      · exact .inl huser
      · exact .inr (.inr (hmark (by decide) hat))
    · -- the brackets around a host are marks too
      unfold writtenHost at hhost
      split at hhost
      · rcases List.mem_append.1 hhost with hhost | hclose
        · rcases List.mem_append.1 hhost with hopen | hhost
          · exact .inr (.inr (hmark (by decide) hopen))
          · exact .inr (.inl hhost)
        · exact .inr (.inr (hmark (by decide) hclose))
      · exact .inr (.inl hhost)
  · refine .inr (.inr ?_)
    rcases mem_following hport with rfl | ⟨digits, hdigits, hport⟩
    · decide
    · obtain ⟨n, -, rfl⟩ := Option.map_eq_some_iff.1 hdigits
      rcases Whole.of_mem_toText hport with hdigit | rfl
      · rw [isAuthorityMark, hdigit, Bool.true_or]
      · decide

namespace IsWritten

variable {u : Url}

/-- The scheme of a web server's URL is not empty, so that a colon stands behind it. -/
theorem scheme_ne_nil (h : u.IsWritten) : u.scheme ≠ [] := by
  rcases h.scheme with heq | heq <;> rw [heq] <;> decide

theorem toAsciiLower_scheme (h : u.IsWritten) : u.scheme.toAsciiLower = u.scheme := by
  rcases h.scheme with heq | heq <;> rw [heq] <;> decide

theorem isSchemePart (h : u.IsWritten) : ∀ c ∈ u.scheme, UrlParts.isSchemePart c = true := by
  rcases h.scheme with heq | heq <;> rw [heq]
  · exact List.all_eq_true.1 (show (Text.ofString "http").all UrlParts.isSchemePart = true by decide)
  · exact List.all_eq_true.1 (show (Text.ofString "https").all UrlParts.isSchemePart = true by decide)

/-- Where there is a host there is an authority. -/
theorem authority_ne_nil (h : u.IsWritten) : u.authority ≠ [] := by
  intro heq
  obtain ⟨hfront, -⟩ := List.append_eq_nil_iff.1 heq
  obtain ⟨-, hwritten⟩ := List.append_eq_nil_iff.1 hfront
  unfold writtenHost at hwritten
  split at hwritten
  · cases hwritten
  · exact h.host_ne_nil hwritten

/-- An authority holds no mark that ends it, and nothing that cannot be printed. So it is read to its end, and
not beyond. -/
theorem of_mem_authority (h : u.IsWritten) {c : CodePoint} (hc : c ∈ u.authority) :
    UrlParts.endsAuthority c = false ∧ c.isAsciiControl = false := by
  rcases mem_authority hc with huser | hhost | hmark
  · have hkept := h.userinfo c huser
    exact ⟨UrlParts.endsAuthority_of (by decide) (by decide) (by decide) hkept, isAsciiControl_of_keeps hkept⟩
  · obtain ⟨hends, -, hcontrol⟩ := h.host.unmarked c hhost
    exact ⟨hends, hcontrol⟩
  · exact ⟨UrlParts.endsAuthority_of (by decide) (by decide) (by decide) hmark,
      isAsciiControl_of_isAuthorityMark hmark⟩

theorem not_mem_hash_query (h : u.IsWritten) : ∀ q ∈ u.query, CodePoint.ofChar '#' ∉ q :=
  fun q hq hmem => absurd (h.query q hq _ hmem) (by decide)

theorem isTailMark_of_mem_path (h : u.IsWritten) : ∀ c ∈ u.path, UrlParts.isTailMark c = false := by
  intro c hc
  exact UrlParts.isTailMark_of (by decide) (by decide) (h.path c hc)

/-- The text of a written URL, with none of its two first parts left out. -/
theorem toText_eq (h : u.IsWritten) :
    u.toText = u.scheme ++ CodePoint.ofChar ':' :: ("//" ++ (u.authority ++ (u.path ++
      (following "?" u.query ++ following "#" u.fragment)))) := by
  have hscheme : marked [] u.scheme ":" = u.scheme ++ [CodePoint.ofChar ':'] := by
    unfold marked
    rw [if_neg fun hempty => h.scheme_ne_nil (List.isEmpty_iff.1 hempty)]
    rfl
  have hauthority : marked "//" u.authority [] = "//" ++ u.authority := by
    unfold marked
    rw [if_neg fun hempty => h.authority_ne_nil (List.isEmpty_iff.1 hempty), List.append_nil]
  unfold toText
  rw [hscheme, hauthority]
  simp only [List.append_assoc, List.cons_append, List.nil_append]

/-- **The text of a written URL falls apart into its parts.** No part holds a mark that would end it early, and
each is followed by its mark. -/
theorem ofText_toText (h : u.IsWritten) : UrlParts.ofText u.toText = u.toParts := by
  have hfirst : ∃ c, u.scheme.head? = some c ∧ c.isAsciiLetter = true := by
    rcases h.scheme with heq | heq <;> rw [heq] <;> exact ⟨_, rfl, by decide⟩
  rw [h.toText_eq]
  exact UrlParts.ofText_rooted hfirst h.isSchemePart (fun c hc => (h.of_mem_authority hc).1)
    h.isTailMark_of_mem_path h.rooted h.not_mem_hash_query

/-- The text of a written URL passes the check for control characters: what is kept in a part is visible, and so
are the marks between the parts. -/
theorem isAsciiControl_of_mem_toText (h : u.IsWritten) : ∀ c ∈ u.toText, c.isAsciiControl = false := by
  intro c hc
  -- part by part, from the left
  rw [h.toText_eq] at hc
  rcases List.mem_append.1 hc with hc | hc
  · rcases h.scheme with heq | heq <;> rw [heq] at hc <;> exact isAsciiControl_of_mem (by decide) hc
  rcases List.mem_cons.1 hc with rfl | hc
  · decide
  rcases List.mem_append.1 hc with hc | hc
  · exact isAsciiControl_of_mem (by decide) hc
  rcases List.mem_append.1 hc with hc | hc
  · exact (h.of_mem_authority hc).2
  rcases List.mem_append.1 hc with hc | hc
  · exact isAsciiControl_of_keeps (h.path c hc)
  rcases List.mem_append.1 hc with hc | hc
  · rcases mem_following hc with rfl | ⟨q, hq, hc⟩
    · decide
    · exact isAsciiControl_of_keeps (h.query q hq c hc)
  · rcases mem_following hc with rfl | ⟨f, hf, hc⟩
    · decide
    · exact isAsciiControl_of_keeps (h.fragment f hf c hc)

/-- **The authority falls apart as well**: the host holds no mark of user information, and a port neither a
colon nor a bracket. -/
theorem authority_ofText (h : u.IsWritten) :
    Authority.ofText u.authority =
      ⟨u.userinfo, writtenHost u.host, (u.port.map Whole.toText).getD []⟩ := by
  refine Authority.ofText_written h.host.isHost (fun hmem => ?_) ?_
  · exact (h.host.unmarked_writtenHost _ hmem).2.1 rfl
  · intro p hp
    obtain ⟨n, -, rfl⟩ := Option.map_eq_some_iff.1 hp
    have hnot (d : CodePoint) (hdigit : d.isAsciiDigit = false) (hminus : d ≠ CodePoint.ofChar '-') :
        d ∉ Whole.toText n := by
      intro hmem
      rcases Whole.of_mem_toText hmem with htrue | heq
      · rw [hdigit] at htrue
        cases htrue
      · exact hminus heq
    exact ⟨hnot _ (by decide) (by decide), hnot _ (by decide) (by decide)⟩

end IsWritten

/-! ## Reading once more -/

/-- The port, unless the scheme implies it. -/
def explicitPort (u : Url) : Option Int := u.port.filter fun n => !(defaultPort? u.scheme = some n)

/-- A URL after its text has been read once more. -/
def reread (u : Url) : Url :=
  { u with host := Host.respelled u.host, port := u.explicitPort, path := normalizePath u.path }

/-- A URL that reading leaves as it is: the host is spelled as it will be, the port is not one that the scheme
implies, and the path has no dot segments. -/
structure IsSettled (u : Url) : Prop extends u.IsWritten where
  hostSettled : Host.normalize (writtenHost u.host) = .ok u.host
  portSettled : u.explicitPort = u.port
  noDots : HasNoDots u.path

/-- A host that is read again is not empty. -/
theorem respelled_ne_nil {host : Text} (h : host ≠ []) : Host.respelled host ≠ [] := by
  unfold Host.respelled
  split
  · exact h
  · exact fun hnil => h (List.map_eq_nil_iff.1 hnil)

namespace IsWritten

variable {u : Url}

/-- **What reading makes of the parts of a written URL.** Each condition of `Reads` follows from what is known
of the part. -/
theorem ofParts_toParts (h : u.IsWritten)
    (hhost : Host.normalize (writtenHost u.host) = .ok (Host.respelled u.host)) :
    ofParts u.toParts = .ok u.reread := by
  have hauthority : (!u.userinfo.isEmpty || !(Host.respelled u.host).isEmpty || u.explicitPort.isSome) = true := by
    rw [List.isEmpty_eq_false_iff.2 (respelled_ne_nil h.host_ne_nil)]
    simp
  -- each part is what it is written as, and nothing in it has to be escaped once more
  refine ofParts_eq_ok_iff.2 ⟨h.toAsciiLower_scheme.symm, ?_, ?_, ?_, ?_, ?_, ?_, ?_⟩
  · show escapePart keptInUserinfo (Authority.ofText u.authority).userinfo = .ok u.userinfo
    rw [h.authority_ofText]
    exact escapePart_of_keeps h.userinfo
  · show Host.normalize (Authority.ofText u.authority).host = .ok (Host.respelled u.host)
    rw [h.authority_ofText]
    exact hhost
  · show normalizePort u.scheme (Authority.ofText u.authority).port = .ok u.explicitPort
    rw [h.authority_ofText]
    exact normalizePort_toText h.port
  · show checkPath _ (!u.userinfo.isEmpty || !(Host.respelled u.host).isEmpty || u.explicitPort.isSome) u.path = _
    rw [hauthority]
    exact checkPath_of_isRooted h.rooted
  · show escapePart keptInPath (if !u.scheme.isEmpty ||
      (!u.userinfo.isEmpty || !(Host.respelled u.host).isEmpty || u.explicitPort.isSome) then
        normalizePath u.path else u.path) = .ok (normalizePath u.path)
    rw [hauthority, Bool.or_true, if_pos rfl]
    refine escapePart_of_keeps fun c hc => ?_
    rcases mem_normalizePath hc with hmem | rfl
    · exact h.path c hmem
    · exact keptInPath_slash
  · exact mapM_of_forall fun q hq => escapePart_of_keeps (h.query q hq)
  · exact mapM_of_forall fun f hf => escapePart_of_keeps (h.fragment f hf)

/-- The text of a written URL is read, unless its host is refused: the host alone can be in the way. -/
theorem ofText_toText_reread (h : u.IsWritten)
    (hhost : Host.normalize (writtenHost u.host) = .ok (Host.respelled u.host)) :
    Url.ofText u.toText = .ok u.reread := by
  rw [Url.ofText, h.ofText_toText, h.ofParts_toParts hhost]

/-- If the text is read, its host was. -/
theorem normalize_host (h : u.IsWritten) {v : Url} (hread : Url.ofText u.toText = .ok v) :
    Host.normalize (writtenHost u.host) = .ok v.host := by
  rw [Url.ofText, h.ofText_toText] at hread
  have hhost : Host.normalize (Authority.ofText u.authority).host = .ok v.host :=
    (ofParts_eq_ok_iff.1 hread).host
  rwa [h.authority_ofText] at hhost

/-- **What is read from the text of a written URL** is the URL, but for the case of escapes in its host, an
implied port and dot segments. It is settled. -/
theorem of_ofText_toText (h : u.IsWritten) {v : Url} (hread : Url.ofText u.toText = .ok v) :
    v = u.reread ∧ v.IsSettled := by
  have hhost := h.normalize_host hread
  obtain ⟨hrespelled, hwritten, hsettled⟩ := Host.normalize_respelled h.host hhost
  rw [h.ofText_toText_reread (hrespelled ▸ hhost)] at hread
  obtain rfl := Except.ok.inj hread
  refine ⟨rfl, ⟨h.scheme, h.userinfo, hwritten, respelled_ne_nil h.host_ne_nil, ?_, ?_, ?_, h.query, h.fragment⟩,
    hsettled, ?_, hasNoDots_normalizePath u.path⟩
  · intro n hn
    exact h.port n (Option.mem_filter_iff.1 hn).1
  · intro c hc
    rcases mem_normalizePath hc with hmem | rfl
    · exact h.path c hmem
    · exact keptInPath_slash
  · exact isRooted_normalizePath h.rooted
  · -- a port that was not left out is not left out later
    show (u.explicitPort).filter _ = u.explicitPort
    unfold explicitPort
    rw [Option.filter_filter]
    exact congrArg (Option.filter · u.port) (funext fun n => Bool.and_self _)

end IsWritten

/-! ## Parameters -/

/-- The form in the query of a URL with parameters put into it. -/
def formWith (u : Url) (parameters : List (Text × Text)) : Form.Grouped :=
  parameters.foldl (fun form p => Form.Grouped.put p.1 p.2 form) u.queryForm

/-- What is written of a form is kept in a query, so parameters are not escaped a second time. -/
theorem keptInQuery_of_write {pairs : List (Text × Text)} {written : Text}
    (h : Form.write pairs = .ok written) : ∀ c ∈ written, keptInQuery c = true := by
  intro c hc
  rcases Form.isWritten_of_write h c hc with hwritten | rfl | rfl
  · refine keeps_of_forall (fun c hc => ?_) (by decide) hwritten
    simp only [Form.isWritten, Bool.or_eq_true, decide_eq_true_eq] at hc
    rcases hc with (hunreserved | rfl) | rfl
    · exact isPrintableAscii_of_isUnreserved hunreserved
    · decide
    · decide
  · decide
  · decide

/-- Parameters are put into the form of the query, and the URL is read again with what is written of the form.
-/
theorem ofParts_of_withParameters {u v : Url} {parameters : List (Text × Text)}
    (h : u.withParameters parameters = .ok v) :
    ∃ written, Form.write (u.formWith parameters).pairs = .ok written ∧
      ofParts { u.toParts with query := if (u.formWith parameters).isEmpty then none else some written } =
        .ok v := by
  unfold withParameters at h
  dsimp only at h
  split at h
  · cases h
  · next written hwritten =>
    obtain ⟨_, -, h⟩ := Except.of_bind h
    exact ⟨written, hwritten, h⟩

/-- In a query that had nothing, parameters with names of their own stand by themselves. -/
theorem formWith_of_query_eq_none {u : Url} (hquery : u.query = none) {parameters : List (Text × Text)}
    (hnames : (parameters.map Prod.fst).Nodup) :
    u.formWith parameters = parameters.map fun p => (p.1, [p.2]) := by
  unfold formWith queryForm
  rw [hquery]
  show parameters.foldl _ [] = _
  rw [Form.Grouped.foldl_put hnames [] fun _ _ => List.not_mem_nil, List.nil_append]

/-! ## Settled URLs -/

namespace IsSettled

variable {u : Url}

/-- A settled URL is what a further reading makes of it. -/
theorem reread_eq (h : u.IsSettled) : u.reread = u := by
  have hhost := (Host.normalize_respelled h.host h.hostSettled).1
  unfold reread
  rw [← hhost, h.portSettled, normalizePath_of_hasNoDots h.noDots]

/-- **A settled URL is read from its own text.** -/
theorem ofText_toText (h : u.IsSettled) : ofText u.toText = .ok u := by
  have hhost := (Host.normalize_respelled h.host h.hostSettled).1
  unfold ofText
  rw [h.toIsWritten.ofText_toText, h.toIsWritten.ofParts_toParts (hhost ▸ h.hostSettled), h.reread_eq]

/-- A settled URL is read from its text, unless the text is too long. -/
theorem read_toText (h : u.IsSettled) :
    read u.toText = if maxLength < u.toText.length then .error .tooLong else .ok u := by
  rw [read_eq h.isAsciiControl_of_mem_toText, h.ofText_toText]

/-- A settled URL that is given another query is settled, as nothing of the above speaks of queries. -/
theorem withQuery (h : u.IsSettled) {query : Option Text} (hquery : ∀ q ∈ query, ∀ c ∈ q, keptInQuery c = true) :
    IsSettled { u with query } :=
  ⟨⟨h.scheme, h.userinfo, h.host, h.host_ne_nil, h.port, h.path, h.rooted, hquery, h.fragment⟩, h.hostSettled,
    h.portSettled, h.noDots⟩

/-- A settled URL is read from its parts. -/
theorem ofParts_toParts (h : u.IsSettled) : ofParts u.toParts = .ok u := by
  have hread := h.ofText_toText
  unfold ofText at hread
  rwa [h.toIsWritten.ofText_toText] at hread

/-- **Parameters change the query of a settled URL, and nothing else.** As the URL is settled, reading it with
another query is no danger to its other parts. -/
theorem of_withParameters (h : u.IsSettled) {parameters : List (Text × Text)} {v : Url}
    (hv : u.withParameters parameters = .ok v) :
    v.IsSettled ∧ ∃ written, Form.write (u.formWith parameters).pairs = .ok written ∧
      v = { u with query := if (u.formWith parameters).isEmpty then none else some written } := by
  obtain ⟨written, hwritten, hv⟩ := ofParts_of_withParameters hv
  have hsettled : IsSettled { u with query := if (u.formWith parameters).isEmpty then none else some written } := by
    refine h.withQuery fun q hq c hc => ?_
    split at hq
    · cases hq
    · obtain rfl := Option.some.inj hq
      exact keptInQuery_of_write hwritten c hc
  have hsame := hsettled.ofParts_toParts.symm.trans hv
  obtain rfl := Except.ok.inj hsame
  exact ⟨hsettled, written, hwritten, rfl⟩

end IsSettled

end ClusterClient.Url
