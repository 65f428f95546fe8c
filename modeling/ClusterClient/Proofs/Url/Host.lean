import ClusterClient.Proofs.Url.Domain
import ClusterClient.Proofs.Url.Parts

/-!
# Hosts that are read again

A host is kept in a form that can be read as a host again. Reading it once more changes the case of its
escapes at most, and from then on nothing changes.

## The architecture

* **`of_mem_normalize`**: what a kept host may hold, whichever of the five kinds it is
  (`normalize_cases`).
* **`IsWritten`**: the two forms of a kept host, a name or an IPv6 address. Reading gives one
  (`isWritten_of_normalize`), and each is read again by an equation of its own (`normalize_name`,
  `normalize_address`).
* **`respelled`**: the host after a second reading, which a third reading leaves alone
  (`normalize_respelled`). It is shown if the host is shown (`shown_respelled`).
-/

namespace ClusterClient.Host

/-! ## What a name keeps -/

theorem val_of_isKept {c : CodePoint} (h : isKept c = true) : 0x21 ≤ c.val ∧ c.val ≤ 0x7E := by
  have hlisted : (Text.ofString "!$&'()*+,;=\"`\x7b\x7d%|\\").all
      (fun c => 0x21 ≤ c.val && c.val ≤ 0x7E) = true := by decide
  simp only [isKept, Bool.or_eq_true] at h
  rcases h with hunreserved | hmark
  · exact Percent.val_of_isUnreserved hunreserved
  · have hbounds := List.all_eq_true.1 hlisted c (List.contains_iff_mem.1 hmark)
    simpa using hbounds

/-- What escapes are written with is kept, so that a name which is escaped once is left alone after that. -/
theorem isKept_of_isInEscape {c : CodePoint} (h : Percent.isInEscape c = true) : isKept c = true := by
  simp only [Percent.isInEscape, Bool.or_eq_true, decide_eq_true_eq, Bool.and_eq_true] at h
  simp only [isKept, Bool.or_eq_true]
  rcases h with (rfl | hdigit) | hletter
  · exact .inr (by decide)
  · exact .inl (Percent.isUnreserved_of_isAsciiDigit hdigit)
  · refine .inl (Percent.isUnreserved_of_isAsciiLetter ?_)
    simp only [CodePoint.isAsciiLetter, CodePoint.isAsciiUpper, Bool.or_eq_true, Bool.and_eq_true,
      decide_eq_true_eq]
    omega

/-- What an internationalised name is encoded to is kept. -/
theorem isKept_of_isPlain {c : CodePoint} (h : Domain.isPlain c = true) : isKept c = true := by
  simp only [Domain.isPlain, Bool.or_eq_true, decide_eq_true_eq] at h
  rcases h with (hlower | hdigit) | rfl
  · have hletter : c.isAsciiLetter = true := by simp [CodePoint.isAsciiLetter, hlower]
    simp [isKept, Percent.isUnreserved_of_isAsciiLetter hletter]
  · simp [isKept, Percent.isUnreserved_of_isAsciiDigit hdigit]
  · decide

/-- And it has no capital letters. -/
theorem isAsciiUpper_of_isPlain {c : CodePoint} (h : Domain.isPlain c = true) : c.isAsciiUpper = false := by
  simp only [Domain.isPlain, CodePoint.isAsciiLower, CodePoint.isAsciiDigit, Bool.or_eq_true, Bool.and_eq_true,
    decide_eq_true_eq] at h
  rw [Bool.eq_false_iff]
  intro hupper
  obtain ⟨hfirst, hlast, -⟩ := CodePoint.val_of_isAsciiUpper hupper
  rcases h with (hlower | hdigit) | rfl
  · omega
  · omega
  · exact absurd hupper (by decide)

/-- A text of the shape of an IPv4 address has nothing but digits and dots. -/
theorem of_looksLikeIPv4 {t : Text} (h : looksLikeIPv4 t = true) {c : CodePoint} (hc : c ∈ t) :
    c.isAsciiDigit = true ∨ c = CodePoint.ofChar '.' := by
  simp only [looksLikeIPv4, Bool.and_eq_true] at h
  rw [← Text.join_splitOn '.' t] at hc
  rcases Text.mem_join hc with ⟨part, hpart, hmem⟩ | hdot
  · have hdigits := List.all_eq_true.1 h.2 part hpart
    rw [Bool.and_eq_true] at hdigits
    exact .inl (List.all_eq_true.1 hdigits.2 c hmem)
  · exact .inr (List.mem_singleton.1 hdot)

/-! ## The kinds of a host -/

/-- A text between two different brackets is what it is without them, between them. -/
theorem eq_of_brackets {t : Text} {first last : CodePoint} (hfirst : t.head? = some first)
    (hlast : t.getLast? = some last) (hne : first ≠ last) : t = first :: (t.tail.dropLast ++ [last]) := by
  cases t with
  | nil => cases hfirst
  | cons c rest =>
    obtain rfl := Option.some.inj hfirst
    cases rest with
    | nil => exact absurd (Option.some.inj hlast) hne
    | cons d rest =>
      rw [List.getLast?_cons_cons] at hlast
      obtain ⟨front, hfront⟩ := List.getLast?_eq_some_iff.1 hlast
      rw [List.tail_cons, hfront, List.dropLast_concat]

/-- **A host that is read** is empty, an address of four numbers, an address between brackets, a name in ASCII,
or an internationalised name. Every fact about kept hosts is proved along these five cases. -/
theorem normalize_cases {t host : Text} (h : normalize t = .ok host) :
    (t = [] ∧ host = []) ∨ (looksLikeIPv4 t = true ∧ host = t) ∨
      (∃ inside, t = CodePoint.ofChar '[' :: (inside ++ [CodePoint.ofChar ']']) ∧
        isIPv6 inside = true ∧ host = inside) ∨
      (t.isAscii = true ∧ host = t.toAsciiLower.flatMap (Percent.protect isKept)) ∨
      Domain.encode t.toLower = .ok host := by
  unfold normalize at h
  split at h
  -- the kinds of hosts in the order in which they are tried
  · next hempty => exact .inl ⟨List.isEmpty_iff.1 hempty, (Except.ok.inj h).symm⟩
  · split at h
    · next hfour =>
      split at h
      · exact .inr (.inl ⟨hfour, (Except.ok.inj h).symm⟩)
      · cases h
    · split at h
      · next hbrackets =>
        dsimp only at h
        split at h
        · next hsix =>
          refine .inr (.inr (.inl ⟨t.tail.dropLast, ?_, hsix, (Except.ok.inj h).symm⟩))
          rw [Bool.and_eq_true, decide_eq_true_eq, decide_eq_true_eq] at hbrackets
          exact eq_of_brackets hbrackets.1 hbrackets.2 (by decide)
        · cases h
      · split at h
        · next hascii => exact .inr (.inr (.inr (.inl ⟨hascii, (Except.ok.inj h).symm⟩)))
        · split at h
          · next hencoded => exact .inr (.inr (.inr (.inr (hencoded.trans (congrArg _ (Except.ok.inj h))))))
          · cases h

/-- What a kept host holds: what names keep, or what it held before. Only addresses are taken over as they are.
-/
theorem of_mem_normalize {t host : Text} {p : CodePoint → Prop} (h : normalize t = .ok host)
    (hkept : ∀ c, isKept c = true → p c) (ht : ∀ c ∈ t, p c) : ∀ c ∈ host, p c := by
  rcases normalize_cases h with ⟨-, rfl⟩ | ⟨-, rfl⟩ | ⟨inside, rfl, -, rfl⟩ | ⟨-, rfl⟩ | hencoded
  · exact fun c hc => absurd hc List.not_mem_nil
  · exact ht
  -- an address without its brackets
  · exact fun c hc => ht c (List.mem_cons_of_mem _ (List.mem_append_left _ hc))
  · intro c hc
    obtain ⟨d, -, hd⟩ := List.mem_flatMap.1 hc
    rcases Percent.mem_protect hd with ⟨hk, -⟩ | hin
    · exact hkept c hk
    · exact hkept c (isKept_of_isInEscape hin)
  · intro c hc
    rcases Domain.of_mem_encode hencoded (fun c hc => Text.isAsciiUpper_of_mem_toLower hc) c hc with
      hplain | rfl
    · exact hkept c (isKept_of_isPlain hplain)
    · exact hkept _ (by decide)

/-! ## The two forms of a kept host -/

/-- Code points of a host that cannot be taken for a mark around it. -/
def IsUnmarked (c : CodePoint) : Prop :=
  UrlParts.endsAuthority c = false ∧ c ≠ CodePoint.ofChar '@' ∧ c.isAsciiControl = false

/-- What names keep is no mark around a host. -/
theorem isUnmarked_of_isKept {c : CodePoint} (h : isKept c = true) : IsUnmarked c := by
  have hval := val_of_isKept h
  refine ⟨UrlParts.endsAuthority_of (by decide) (by decide) (by decide) h, ?_, ?_⟩
  · rintro rfl
    exact absurd h (by decide)
  · simp only [CodePoint.isAsciiControl, Bool.or_eq_false_iff, decide_eq_false_iff_not, beq_eq_false_iff_ne]
    omega

/-- A name as it is kept. Its only capital letters belong to escapes. -/
def IsName (host : Text) : Prop :=
  ∀ c ∈ host, isKept c = true ∧ (c.isAsciiUpper = true → Percent.isInEscape c = true)

/-- An IPv6 address as it is kept, which may have been given a zone of any kind. -/
structure IsAddress (host : Text) : Prop where
  valid : isIPv6 host = true
  unmarked : ∀ c ∈ host, IsUnmarked c

/-- A host as it is kept. -/
def IsWritten (host : Text) : Prop := IsName host ∨ IsAddress host

/-- In either form a host cannot be taken to end before its end. -/
theorem IsWritten.unmarked {host : Text} (h : IsWritten host) : ∀ c ∈ host, IsUnmarked c :=
  h.elim (fun hname c hc => isUnmarked_of_isKept (hname c hc).1) IsAddress.unmarked

/-- **A host that was read from an authority is kept in one of the two forms**: all cases but that of brackets
give a name. -/
theorem isWritten_of_normalize {t host : Text} (h : normalize t = .ok host) (ht : ∀ c ∈ t, IsUnmarked c) :
    IsWritten host := by
  -- no form of a host brings in a mark that the text did not hold
  have hunmarked := of_mem_normalize h (fun c hc => isUnmarked_of_isKept hc) ht
  rcases normalize_cases h with ⟨-, rfl⟩ | ⟨hfour, rfl⟩ | ⟨inside, -, hsix, rfl⟩ | ⟨-, rfl⟩ | hencoded
  · exact .inl fun c hc => absurd hc List.not_mem_nil
  · refine .inl fun c hc => ?_
    rcases of_looksLikeIPv4 hfour hc with hdigit | rfl
    · have hescape : Percent.isInEscape c = true := by simp [Percent.isInEscape, hdigit]
      exact ⟨isKept_of_isInEscape hescape, fun _ => hescape⟩
    · exact ⟨by decide, by decide⟩
  · exact .inr ⟨hsix, hunmarked⟩
  · -- what was in capital letters has been put into lower case, but escapes are written in capital ones
    refine .inl fun c hc => ?_
    obtain ⟨d, hd, hcd⟩ := List.mem_flatMap.1 hc
    rcases Percent.mem_protect hcd with ⟨hkept, rfl⟩ | hin
    · refine ⟨hkept, fun hupper => ?_⟩
      rw [Text.isAsciiUpper_of_mem_toAsciiLower hd] at hupper
      cases hupper
    · exact ⟨isKept_of_isInEscape hin, fun _ => hin⟩
  · -- an internationalised name is put into lower case before it is encoded
    refine .inl fun c hc => ?_
    rcases Domain.of_mem_encode hencoded (fun c hc => Text.isAsciiUpper_of_mem_toLower hc) c hc with
      hplain | rfl
    · refine ⟨isKept_of_isPlain hplain, fun hupper => ?_⟩
      rw [isAsciiUpper_of_isPlain hplain] at hupper
      cases hupper
    · exact ⟨by decide, by decide⟩

/-! ### As they stand in an authority -/

theorem IsName.not_mem_colon {host : Text} (h : IsName host) : CodePoint.ofChar ':' ∉ host :=
  fun hmem => absurd (h _ hmem).1 (by decide)

/-- An address has one, as a group alone is no address. The colon stands in front of the zone, if there is one.
-/
theorem mem_colon_of_isIPv6 {t : Text} (h : isIPv6 t = true) : CodePoint.ofChar ':' ∈ t := by
  have hgroups (address : Text) (haddress : ((groups? address).map areGroups).getD false = true) :
      CodePoint.ofChar ':' ∈ address := by
    refine Decidable.byContradiction fun hnone => ?_
    have hone : groups? address = none := by
      unfold groups?
      rw [Text.splitOn_of_not_mem hnone]
      simp
    rw [hone] at haddress
    cases haddress
  -- the colon stands in front of a zone, if there is one
  unfold isIPv6 at h
  split at h
  · next address heq =>
    rw [Bool.and_eq_true] at h
    exact Text.mem_of_mem_breakAt_fst (p := (· = CodePoint.ofChar '%')) (heq ▸ hgroups address h.2)
  · next address c zone heq =>
    rw [Bool.and_eq_true] at h
    exact Text.mem_of_mem_breakAt_fst (p := (· = CodePoint.ofChar '%')) (heq ▸ hgroups address h.2)

theorem writtenHost_name {host : Text} (h : IsName host) : Url.writtenHost host = host := by
  unfold Url.writtenHost
  rw [if_neg fun hmem => h.not_mem_colon (List.contains_iff_mem.1 hmem)]

/-- An address stands there between brackets. -/
theorem writtenHost_address {host : Text} (h : IsAddress host) :
    Url.writtenHost host = CodePoint.ofChar '[' :: (host ++ [CodePoint.ofChar ']']) := by
  unfold Url.writtenHost
  rw [if_pos (List.contains_iff_mem.2 (mem_colon_of_isIPv6 h.valid))]
  rfl

/-- Either way a port behind it is told from it. -/
theorem IsWritten.isHost {host : Text} (h : IsWritten host) : Url.Authority.IsHost (Url.writtenHost host) := by
  rcases h with hname | haddress
  · rw [writtenHost_name hname]
    refine .inl ⟨hname.not_mem_colon, fun hhead => ?_⟩
    exact absurd (hname _ (List.mem_of_head? hhead)).1 (by decide)
  · rw [writtenHost_address haddress]
    exact .inr ⟨host, rfl⟩

/-- The brackets are no marks that end an authority. -/
theorem IsWritten.unmarked_writtenHost {host : Text} (h : IsWritten host) :
    ∀ c ∈ Url.writtenHost host, IsUnmarked c := by
  have hunmarked := h.unmarked
  rcases h with hname | haddress
  · rwa [writtenHost_name hname]
  · rw [writtenHost_address haddress]
    intro c hc
    rcases List.mem_cons.1 hc with rfl | hc
    · exact ⟨by decide, by decide, by decide⟩
    · rcases List.mem_append.1 hc with hc | hc
      · exact hunmarked c hc
      · obtain rfl := List.mem_singleton.1 hc
        exact ⟨by decide, by decide, by decide⟩

/-! ## Reading a kept host -/

/-- A host after it has been read once more. -/
def respelled (host : Text) : Text :=
  if host.contains (CodePoint.ofChar ':') then host else host.toAsciiLower

theorem respelled_name {host : Text} (h : IsName host) : respelled host = host.toAsciiLower := by
  unfold respelled
  rw [if_neg fun hmem => h.not_mem_colon (List.contains_iff_mem.1 hmem)]

theorem respelled_address {host : Text} (h : IsAddress host) : respelled host = host := by
  unfold respelled
  rw [if_pos (List.contains_iff_mem.2 (mem_colon_of_isIPv6 h.valid))]

/-- What is kept is kept in lower case too. -/
theorem isKept_toAsciiLower {c : CodePoint} (h : isKept c = true) : isKept c.toAsciiLower = true := by
  by_cases hupper : c.isAsciiUpper = true
  · obtain ⟨hfirst, hlast, hval⟩ := CodePoint.val_of_isAsciiUpper hupper
    have hletter : c.toAsciiLower.isAsciiLetter = true := by
      simp only [CodePoint.isAsciiLetter, CodePoint.isAsciiLower, Bool.or_eq_true, Bool.and_eq_true,
        decide_eq_true_eq]
      omega
    simp [isKept, Percent.isUnreserved_of_isAsciiLetter hletter]
  · rwa [CodePoint.toAsciiLower, if_neg hupper]

/-- **A name is put into lower case**, unless it has the shape of an address that it is not. Nothing in it is
escaped a second time, as the marks of escapes are kept. -/
theorem normalize_name {host : Text} (h : IsName host) :
    normalize host =
      if looksLikeIPv4 host then if isIPv4 host then .ok host else .error (.ipv4 host)
      else .ok host.toAsciiLower := by
  have hlower : host.toAsciiLower.flatMap (Percent.protect isKept) = host.toAsciiLower := by
    refine Percent.flatMap_protect_of_forall fun c hc => ?_
    obtain ⟨d, hd, rfl⟩ := List.mem_map.1 hc
    exact isKept_toAsciiLower (h d hd).1
  have hascii : host.isAscii = true := by
    refine List.all_eq_true.2 fun c hc => ?_
    have hval := val_of_isKept (h c hc).1
    simp only [CodePoint.isAscii, decide_eq_true_eq]
    omega
  -- a name is not taken for an address between brackets
  have hbracket : (decide (host.head? = some (CodePoint.ofChar '[')) &&
      decide (host.getLast? = some (CodePoint.ofChar ']'))) = false := by
    rw [Bool.and_eq_false_iff, decide_eq_false_iff_not]
    refine .inl fun hhead => ?_
    exact absurd (h _ (List.mem_of_head? hhead)).1 (by decide)
  unfold normalize
  by_cases hempty : host.isEmpty = true
  · rw [List.isEmpty_iff.1 hempty]
    rfl
  · rw [if_neg hempty, hbracket, if_neg Bool.false_ne_true, if_pos hascii, hlower]

/-- An address between brackets is read to the address. -/
theorem normalize_address {host : Text} (h : IsAddress host) :
    normalize (CodePoint.ofChar '[' :: (host ++ [CodePoint.ofChar ']'])) = .ok host := by
  have hfour : ¬looksLikeIPv4 (CodePoint.ofChar '[' :: (host ++ [CodePoint.ofChar ']'])) = true := by
    intro hfour
    rcases of_looksLikeIPv4 hfour List.mem_cons_self with hdigit | heq
    · exact absurd hdigit (by decide)
    · exact absurd heq (by decide)
  have hlast : (CodePoint.ofChar '[' :: (host ++ [CodePoint.ofChar ']'])).getLast? =
      some (CodePoint.ofChar ']') := by
    rw [← List.cons_append, List.getLast?_concat]
  unfold normalize
  rw [if_neg (by simp), if_neg hfour, if_pos (by rw [hlast]; rfl), List.tail_cons, List.dropLast_concat]
  exact if_pos h.valid

/-- Digits and dots have no case. -/
theorem toAsciiLower_of_looksLikeIPv4 {t : Text} (h : looksLikeIPv4 t = true) : t.toAsciiLower = t := by
  refine Text.toAsciiLower_of_forall fun c hc => ?_
  rcases of_looksLikeIPv4 h hc with hdigit | rfl
  · simp only [CodePoint.isAsciiDigit, Bool.and_eq_true, decide_eq_true_eq] at hdigit
    simp only [CodePoint.isAsciiUpper, Bool.and_eq_false_iff, decide_eq_false_iff_not]
    omega
  · decide

/-- The shape of an address does not depend on case. A letter put into lower case would be a letter still, so
there was none. -/
theorem looksLikeIPv4_toAsciiLower {t : Text} (h : looksLikeIPv4 t.toAsciiLower = true) :
    t.toAsciiLower = t := by
  refine Text.toAsciiLower_of_forall fun c hc => ?_
  rw [Bool.eq_false_iff]
  intro hupper
  obtain ⟨hfirst, hlast, hval⟩ := CodePoint.val_of_isAsciiUpper hupper
  rcases of_looksLikeIPv4 h (List.mem_map_of_mem hc) with hdigit | heq
  · simp only [CodePoint.isAsciiDigit, Bool.and_eq_true, decide_eq_true_eq] at hdigit
    omega
  · rw [heq, show (CodePoint.ofChar '.').val = 0x2E by decide] at hval
    omega

/-- A name in lower case is a name. -/
theorem IsName.toAsciiLower {host : Text} (h : IsName host) : IsName host.toAsciiLower := by
  intro c hc
  refine ⟨?_, fun hupper => ?_⟩
  · obtain ⟨d, hd, rfl⟩ := List.mem_map.1 hc
    exact isKept_toAsciiLower (h d hd).1
  · rw [Text.isAsciiUpper_of_mem_toAsciiLower hc] at hupper
    cases hupper

/-- **A kept host that is read again changes in the case of its escapes at most, and stays as it is from then
on.** This is what makes the second reading of an endpoint the last one that changes anything. -/
theorem normalize_respelled {host again : Text} (h : IsWritten host)
    (hread : normalize (Url.writtenHost host) = .ok again) :
    again = respelled host ∧ IsWritten again ∧ normalize (Url.writtenHost again) = .ok again := by
  rcases h with hname | haddress
  · have hagain : again = host.toAsciiLower := by
      rw [writtenHost_name hname, normalize_name hname] at hread
      split at hread
      · next hfour =>
        split at hread
        · rw [toAsciiLower_of_looksLikeIPv4 hfour, Except.ok.inj hread]
        · cases hread
      · exact (Except.ok.inj hread).symm
    subst hagain
    -- the name in lower case looks like an address only if it looked like one before
    refine ⟨(respelled_name hname).symm, .inl hname.toAsciiLower, ?_⟩
    rw [writtenHost_name hname.toAsciiLower, normalize_name hname.toAsciiLower]
    rw [writtenHost_name hname, normalize_name hname] at hread
    split
    · next hfour =>
      have hsame := looksLikeIPv4_toAsciiLower hfour
      rw [hsame] at hfour ⊢
      rw [if_pos hfour] at hread
      split at hread
      · next hvalid => rw [if_pos hvalid]
      · cases hread
    · rw [Text.toAsciiLower_toAsciiLower]
  · -- an address between brackets is kept letter by letter
    rw [writtenHost_address haddress, normalize_address haddress] at hread
    obtain rfl := Except.ok.inj hread
    refine ⟨(respelled_address haddress).symm, .inr haddress, ?_⟩
    rw [writtenHost_address haddress, normalize_address haddress]

/-- Whether a name begins with an encoded label does not depend on its escapes. A capital letter of a name
belongs to an escape, and the start of an encoded label has none of these letters, in either case. -/
theorem encodedStart_prefix_toAsciiLower {host : Text} (h : IsName host) :
    Domain.encodedStart <+: host.toAsciiLower ↔ Domain.encodedStart <+: host := by
  constructor
  · rintro ⟨rest, hrest⟩
    obtain ⟨front, back, rfl, hfront, -⟩ := List.map_eq_append_iff.1 hrest.symm
    have hsame : Text.toAsciiLower front = front := by
      refine Text.toAsciiLower_of_forall fun c hc => ?_
      -- a capital letter of a name belongs to an escape, and no such letter stands in the start
      rw [Bool.eq_false_iff]
      intro hupper
      have hin := (h c (List.mem_append_left _ hc)).2 hupper
      obtain ⟨hfirst, hlast, hval⟩ := CodePoint.val_of_isAsciiUpper hupper
      have hmem : c.toAsciiLower ∈ Domain.encodedStart := hfront ▸ List.mem_map_of_mem hc
      have hstart : Domain.encodedStart.all
          (fun c => c.val < 0x61 || 0x66 < c.val) = true := by decide
      have houtside := List.all_eq_true.1 hstart _ hmem
      simp only [Bool.or_eq_true, decide_eq_true_eq] at houtside
      simp only [Percent.isInEscape, CodePoint.isAsciiDigit, Bool.or_eq_true, Bool.and_eq_true,
        decide_eq_true_eq] at hin
      rcases hin with (rfl | hdigit) | hletter
      · exact absurd hupper (by decide)
      · omega
      · omega
    have hstart : front = Domain.encodedStart := hsame.symm.trans hfront
    rw [hstart]
    exact List.prefix_append _ _
  · rintro ⟨rest, rfl⟩
    exact ⟨Text.toAsciiLower rest, by rw [Text.toAsciiLower, Text.toAsciiLower, List.map_append]; rfl⟩

/-- **A host that can be shown can be shown after it has been read again.** Showing decodes a name that begins
with an encoded label, and whether it does so is not changed by case. -/
theorem shown_respelled {host name : Text} (h : IsWritten host) (hshown : shown host = .ok name)
    (hname : name ≠ []) : ∃ name', shown (respelled host) = .ok name' ∧ name' ≠ [] := by
  rcases h with hwritten | haddress
  -- a name that is shown decoded is decoded from its lower case as well
  · rw [respelled_name hwritten]
    unfold shown at hshown ⊢
    by_cases hstart : Domain.encodedStart <+: host
    · have hlower := (encodedStart_prefix_toAsciiLower hwritten).2 hstart
      rw [if_pos (List.isPrefixOf_iff_prefix.2 hstart)] at hshown
      rw [if_pos (List.isPrefixOf_iff_prefix.2 hlower), Domain.decode_toAsciiLower]
      exact ⟨name, hshown, hname⟩
    · have hlower := fun hlower => hstart ((encodedStart_prefix_toAsciiLower hwritten).1 hlower)
      rw [if_neg fun hstarts => hstart (List.isPrefixOf_iff_prefix.1 hstarts)] at hshown
      rw [if_neg fun hstarts => hlower (List.isPrefixOf_iff_prefix.1 hstarts)]
      obtain rfl := Except.ok.inj hshown
      exact ⟨_, rfl, fun hempty => hname (List.map_eq_nil_iff.1 hempty)⟩
  · rw [respelled_address haddress]
    exact ⟨name, hshown, hname⟩

end ClusterClient.Host
