import ClusterClient.Checks
import ClusterClient.Url.Domain

/-!
# The ASCII form of a domain name

An internationalised name is written in small letters, digits and hyphens, with full stops between its
labels; a label that was in ASCII before stays as it is. Nothing of it can be taken for a mark of a URL.

## The architecture

* **`isPlain_of_checkLabel`**: of ASCII, a label that passes its checks holds plain code points alone. The
  tables of permitted code points say so.
* **`isPlain_encode`** for Punycode: a written label holds the plain code points it had, a hyphen, and
  digits of base 36, by one lemma for each stage of the writer.
* **`of_mem_encode`**: the headline, for whole names.
-/

namespace ClusterClient

/-- Code points of a label in ASCII form. -/
def Domain.isPlain (c : CodePoint) : Bool := c.isAsciiLower || c.isAsciiDigit || c = '-'

namespace Domain

theorem isPlain_hyphen : isPlain '-' = true := by decide

theorem isPlain_digit {d : Nat} (h : d < 36) : isPlain (CodePoint.digit d) = true := by
  have hall : ∀ d : Fin 36, isPlain (CodePoint.digit d.val) = true := by decide
  exact hall ⟨d, h⟩

end Domain

/-! ## Punycode -/

namespace Punycode

open Domain (isPlain)

/-- **A number is written in plain code points.** Induction as the number is written, digit by digit; each digit
is below the base. -/
theorem isPlain_writeNumber {bias index q : Nat} {c : CodePoint} (h : c ∈ writeNumber bias index q) :
    isPlain c = true := by
  induction index, q using writeNumber.induct bias with
  | case1 index q t hlow =>
    have ht : t ≤ 26 := Nat.min_le_left 26 _
    rw [writeNumber, if_pos hlow, if_pos (by omega)] at h
    obtain rfl := List.mem_singleton.1 h
    exact Domain.isPlain_digit (by omega)
  | case2 index q t hhigh ih =>
    -- the threshold and what is left of the base make up the base
    have hd : t + (q - t) % (36 - t) < 36 := by
      have ht : t ≤ 26 := Nat.min_le_left 26 _
      have := Nat.mod_lt (q - t) (y := 36 - t) (by omega)
      omega
    rw [writeNumber, if_neg hhigh] at h
    rcases List.mem_cons.1 h with rfl | h
    · split
      · exact Domain.isPlain_digit (by omega)
      · exact Domain.isPlain_digit (Nat.lt_of_le_of_lt (Nat.sub_le _ _) hd)
    · exact ih h

/-- The digits that a writer has put out. -/
def Writer.IsPlain (s : Writer) : Prop := ∀ number ∈ s.out, ∀ c ∈ number, isPlain c = true

/-- A code point that is visited adds a number or nothing. -/
theorem Writer.IsPlain.visit {s : Writer} (h : s.IsPlain) (basic target : Nat) (c : CodePoint) :
    (s.visit basic target c).IsPlain := by
  unfold Writer.visit
  split
  · exact h
  · split
    · exact List.forall_mem_cons.2 ⟨fun c hc => isPlain_writeNumber hc, h⟩
    · exact h

/-- So does every code point of the label, in one pass. -/
theorem Writer.IsPlain.foldl_visit {s : Writer} (h : s.IsPlain) (basic target : Nat) (t : Text) :
    (t.foldl (Writer.visit basic target) s).IsPlain := by
  induction t generalizing s with
  | nil => exact h
  | cons c t ih => exact ih (h.visit basic target c)

/-- And so does every pass, one for each code point beyond ASCII. -/
theorem Writer.IsPlain.run {s : Writer} (h : s.IsPlain) (t : Text) (basic : Nat) (targets : List Nat)
    (next : Nat) : (Writer.run t basic targets next s).IsPlain := by
  induction targets generalizing next s with
  | nil => exact h
  | cons target rest ih =>
    unfold Writer.run
    refine ih ?_ (target + 1)
    have hvisited := Writer.IsPlain.foldl_visit
      (s := { s with delta := s.delta + (target - next) * (s.size + 1) }) h basic target t
    exact hvisited

/-- **A written label holds its own ASCII code points, a hyphen and digits.** The code points beyond ASCII are
written as numbers behind the hyphen, in letters that are plain whatever the numbers are. -/
theorem isPlain_encode {t : Text} (ht : ∀ c ∈ t, c.isAscii = true → isPlain c = true) :
    ∀ c ∈ encode t, isPlain c = true := by
  intro c hc
  have hbasic : ∀ c ∈ t.filter CodePoint.isAscii, isPlain c = true := by
    intro c hc
    obtain ⟨hmem, hascii⟩ := List.mem_filter.1 hc
    exact ht c hmem hascii
  -- what the writer has put out is its numbers, each in plain letters
  have hextended : ∀ s : Writer, s.IsPlain → ∀ c ∈ s.out.reverse.flatten, isPlain c = true := by
    intro s hs c hc
    obtain ⟨number, hnumber, hmem⟩ := List.mem_flatten.1 hc
    exact hs number (List.mem_reverse.1 hnumber) c hmem
  have hrun := Writer.IsPlain.run (s := ⟨0, 72, (t.filter CodePoint.isAscii).length, []⟩)
    (fun number hnumber => absurd hnumber List.not_mem_nil) t (t.filter CodePoint.isAscii).length
    (targets t) 0x80
  unfold encode at hc
  dsimp only at hc
  split at hc
  · exact hextended _ hrun c hc
  · rcases List.mem_append.1 hc with hc | hc
    · rcases List.mem_append.1 hc with hc | hc
      · exact hbasic c hc
      · obtain rfl := List.mem_singleton.1 hc
        exact Domain.isPlain_hyphen
    · exact hextended _ hrun c hc

end Punycode

namespace Domain

/-! ## Labels -/

/-- Code points that a label may hold, always or in a context. -/
def isAllowed (c : CodePoint) : Bool :=
  permitted.contains c || joiners.contains c || contextual.contains c

/-- The tables allow no code point of ASCII but the plain ones. This is decided range by range, over the tables
as they stand. -/
theorem isPlain_of_isAllowed {c : CodePoint} (hascii : c.isAscii = true) (h : isAllowed c = true) :
    isPlain c = true := by
  -- a range that begins below 0x80 is that of the hyphen, the digits or the small letters
  have hpermitted : permitted.all (fun range => 0x80 ≤ range.1 || (range.1 = 0x2D && range.2 = 0x2D) ||
      (0x30 ≤ range.1 && range.2 ≤ 0x39) || (0x61 ≤ range.1 && range.2 ≤ 0x7A)) = true := by
    decide +kernel
  have hother : (joiners ++ contextual).all (fun range => 0x80 ≤ range.1) = true := by decide
  simp only [CodePoint.isAscii, decide_eq_true_eq] at hascii
  have hlate : ∀ range ∈ joiners ++ contextual, ¬(range.1 ≤ c.val ∧ c.val ≤ range.2) := by
    intro range hrange hin
    have := of_decide_eq_true (List.all_eq_true.1 hother range hrange)
    omega
  simp only [isAllowed, Bool.or_eq_true, Ranges.contains_iff] at h
  rcases h with (⟨range, hrange, hin⟩ | ⟨range, hrange, hin⟩) | ⟨range, hrange, hin⟩
  · have hrange := List.all_eq_true.1 hpermitted range hrange
    simp only [Bool.or_eq_true, Bool.and_eq_true, decide_eq_true_eq] at hrange
    simp only [isPlain, CodePoint.isAsciiLower, CodePoint.isAsciiDigit, Bool.or_eq_true, Bool.and_eq_true,
      decide_eq_true_eq]
    rcases hrange with ((hhigh | hhyphen) | hdigit) | hlower
    · omega
    · have hval : c.val = 0x2D := by omega
      exact .inr (Fin.ext hval)
    · exact .inl (.inr (by omega))
    · exact .inl (.inl (by omega))
  · exact absurd hin (hlate range (List.mem_append_left _ hrange))
  · exact absurd hin (hlate range (List.mem_append_right _ hrange))

/-- A label that passes its checks holds allowed code points alone, in whatever context. Induction on what is
left of the label. -/
theorem isAllowed_of_checkCodePoints {label before rest : Text} {position : Nat}
    (h : checkCodePoints label before rest position = .ok ()) : ∀ c ∈ rest, isAllowed c = true := by
  induction rest generalizing before position with
  | nil => exact fun c hc => absurd hc List.not_mem_nil
  -- a code point is allowed by itself, as a joiner, or where its neighbours permit it
  | cons d rest ih =>
    unfold checkCodePoints at h
    split at h
    · next hpermitted => exact List.forall_mem_cons.2 ⟨by simp [isAllowed, hpermitted], ih h⟩
    · split at h
      · next hjoiner =>
        split at h
        · cases h
        · split at h
          · exact List.forall_mem_cons.2 ⟨by simp [isAllowed, hjoiner], ih h⟩
          · cases h
      · split at h
        · next hcontextual =>
          split at h
          · exact List.forall_mem_cons.2 ⟨by simp [isAllowed, hcontextual], ih h⟩
          · cases h
        · cases h

/-- Of ASCII, a label that passes its checks holds plain code points alone. Seven checks come before that of the
code points and say nothing of them. -/
theorem isPlain_of_checkLabel {label : Text} (h : checkLabel label = .ok ()) :
    ∀ c ∈ label, c.isAscii = true → isPlain c = true := by
  have hpoints : checkCodePoints label [] label 1 = .ok () := by
    unfold checkLabel at h
    obtain ⟨-, h⟩ := Except.of_guard h
    obtain ⟨-, h⟩ := Except.of_guard h
    obtain ⟨-, h⟩ := Except.of_guard h
    obtain ⟨-, h⟩ := Except.of_guard h
    obtain ⟨-, h⟩ := Except.of_guard h
    obtain ⟨-, h⟩ := Except.of_guard h
    obtain ⟨-, h⟩ := Except.of_guard h
    obtain ⟨_, hpoints, -⟩ := Except.of_bind h
    exact hpoints
  intro c hc hascii
  exact isPlain_of_isAllowed hascii (isAllowed_of_checkCodePoints hpoints c hc)

/-- A label in ASCII is decoded if it is plain, but for its case. One that is not encoded is checked itself; one
that is encoded is what its decoded form would be encoded to, and what is encoded is plain. -/
theorem isPlain_of_decodeLabel {label decoded : Text} (h : decodeLabel label = .ok decoded)
    (hascii : label.isAscii = true) : ∀ c ∈ label.toAsciiLower, isPlain c = true := by
  have hlower : ∀ c ∈ label.toAsciiLower, c.isAscii = true := by
    intro c hc
    obtain ⟨d, hd, rfl⟩ := List.mem_map.1 hc
    exact CodePoint.isAscii_toAsciiLower (List.all_eq_true.1 hascii d hd)
  unfold decodeLabel at h
  obtain ⟨-, h⟩ := Except.of_guard h
  dsimp only at h
  split at h
  · -- a label without the start of an encoded one is checked itself
    obtain ⟨_, hchecked, -⟩ := Except.of_bind h
    exact fun c hc => isPlain_of_checkLabel hchecked c hc (hlower c hc)
  · next encoded heq =>
    obtain ⟨-, h⟩ := Except.of_guard h
    obtain ⟨-, h⟩ := Except.of_guard h
    split at h
    · cases h
    · next decoded' _ =>
      -- an encoded label is what its decoded form, which is checked, is encoded to
      obtain ⟨_, hchecked, h⟩ := Except.of_bind h
      obtain ⟨hsame, -⟩ := Except.of_guard h
      have hencoded : Punycode.encode decoded' = encoded := Decidable.not_not.1 hsame
      intro c hc
      rw [Text.eq_of_dropStart? heq] at hc
      rcases List.mem_append.1 hc with hc | hc
      · exact List.all_eq_true.1 (show encodedStart.all isPlain = true by decide) c hc
      · rw [← hencoded] at hc
        exact Punycode.isPlain_encode (isPlain_of_checkLabel hchecked) c hc

/-- **A label without capital letters has a plain ASCII form**: its own, if it is in ASCII, and else what is
written of it behind the start of an encoded label. -/
theorem isPlain_of_encodeLabel {label encoded : Text} (h : encodeLabel label = .ok encoded)
    (hlower : ∀ c ∈ label, c.isAsciiUpper = false) : ∀ c ∈ encoded, isPlain c = true := by
  unfold encodeLabel at h
  obtain ⟨-, h⟩ := Except.of_guard h
  split at h
  · next hascii =>
    -- a label in ASCII is only looked at, by decoding it
    obtain ⟨_, hdecoded, h⟩ := Except.of_bind h
    obtain ⟨-, h⟩ := Except.of_guard h
    obtain rfl := Except.ok.inj h
    rw [← Text.toAsciiLower_of_forall hlower]
    exact isPlain_of_decodeLabel hdecoded hascii
  · obtain ⟨_, hchecked, h⟩ := Except.of_bind h
    obtain ⟨-, h⟩ := Except.of_guard h
    obtain rfl := Except.ok.inj h
    intro c hc
    rcases List.mem_append.1 hc with hc | hc
    · exact List.all_eq_true.1 (show encodedStart.all isPlain = true by decide) c hc
    · exact Punycode.isPlain_encode (isPlain_of_checkLabel hchecked) c hc

/-! ## Names -/

/-- A name with its full stops made equal. -/
def dotted (name : Text) : Text := name.map fun c => if isDot c then CodePoint.ofChar '.' else c

/-- Labels are cut from the name with its full stops made equal. A full stop at the end leaves an empty label
behind it, which is dropped. -/
theorem of_labels {name : Text} {parts : List Text} {trailing : Bool}
    (h : labels name = .ok (parts, trailing)) : ∀ part ∈ parts, ∀ c ∈ part, c ∈ dotted name := by
  -- the parts between full stops are made of what they are cut from
  have hsplit : ∀ part ∈ (dotted name).splitOn '.', ∀ c ∈ part, c ∈ dotted name := by
    intro part hpart c hc
    rw [← Text.join_splitOn '.' (dotted name)]
    exact Text.mem_join_of_mem hpart hc
  intro part hpart
  refine hsplit part ?_
  unfold labels at h
  dsimp only at h
  split at h
  · cases h
  · split at h
    · obtain ⟨rfl, -⟩ := Prod.mk.inj (Except.ok.inj h)
      exact List.dropLast_subset _ hpart
    · obtain ⟨rfl, -⟩ := Prod.mk.inj (Except.ok.inj h)
      exact hpart

/-- **The ASCII form of a name consists of plain code points and full stops**, if the name has no capital
letters. -/
theorem of_mem_encode {name encoded : Text} (h : encode name = .ok encoded)
    (hlower : ∀ c ∈ name, c.isAsciiUpper = false) :
    ∀ c ∈ encoded, isPlain c = true ∨ c = CodePoint.ofChar '.' := by
  unfold encode at h
  obtain ⟨⟨joined, trailing⟩, hmapped, h⟩ := Except.of_bind h
  obtain ⟨-, h⟩ := Except.of_guard h
  obtain rfl := Except.ok.inj h
  unfold mapLabels at hmapped
  obtain ⟨-, hmapped⟩ := Except.of_guard hmapped
  obtain ⟨⟨parts, trailing'⟩, hlabels, hmapped⟩ := Except.of_bind hmapped
  obtain ⟨changed, hchanged, hmapped⟩ := Except.of_bind hmapped
  obtain ⟨rfl, -⟩ := Prod.mk.inj (Except.ok.inj hmapped)
  -- labels are cut from the name with its full stops made equal, which has no capital letters either
  have hdotted : ∀ c ∈ dotted name, c.isAsciiUpper = false := by
    intro c hc
    obtain ⟨d, hd, rfl⟩ := List.mem_map.1 hc
    split
    · decide
    · exact hlower d hd
  have hplain : ∀ part ∈ changed, ∀ c ∈ part, isPlain c = true := by
    intro part hpart
    obtain ⟨label, hlabel, hencoded⟩ := Except.exists_of_mem_of_mapM hchanged hpart
    exact isPlain_of_encodeLabel hencoded fun c hc => hdotted c (of_labels hlabels label hlabel c hc)
  intro c hc
  rcases Text.mem_join hc with ⟨part, hpart, hmem⟩ | hdot
  · -- an empty part behind the others stands for a full stop at the end
    have hpart' : part ∈ changed ∨ part = [] := by
      split at hpart
      · exact (List.mem_append.1 hpart).imp_right List.mem_singleton.1
      · exact .inl hpart
    rcases hpart' with hpart | rfl
    · exact .inl (hplain part hpart c hmem)
    · exact absurd hmem List.not_mem_nil
  · exact .inr (List.mem_singleton.1 hdot)

/-! ## Reading without regard to case -/

/-- A label is put into lower case before it is decoded. -/
theorem decodeLabel_toAsciiLower (label : Text) : decodeLabel label.toAsciiLower = decodeLabel label := by
  unfold decodeLabel
  rw [Text.toAsciiLower_toAsciiLower, Text.toAsciiLower, List.length_map]

/-- Case and full stops do not get into each other's way: no letter is a full stop in either case. -/
theorem dotted_toAsciiLower (name : Text) : dotted name.toAsciiLower = (dotted name).toAsciiLower := by
  unfold dotted Text.toAsciiLower
  rw [List.map_map, List.map_map]
  refine List.map_congr_left fun c _ => ?_
  show (if isDot c.toAsciiLower then CodePoint.ofChar '.' else c.toAsciiLower) =
    (if isDot c then CodePoint.ofChar '.' else c).toAsciiLower
  -- the four full stops are neither capital letters nor what capital letters become
  have hdot : isDot c.toAsciiLower = isDot c := by
    by_cases hupper : c.isAsciiUpper = true
    · obtain ⟨hfirst, hlast, hval⟩ := CodePoint.val_of_isAsciiUpper hupper
      have hother (d : CodePoint) (hd : 0x41 ≤ d.val ∧ d.val ≤ 0x7A) : isDot d = false := by
        have hstop : d ≠ CodePoint.ofChar '.' := by
          rintro rfl
          exact absurd hd (by decide)
        simp only [isDot, Bool.or_eq_false_iff, decide_eq_false_iff_not]
        exact ⟨⟨⟨hstop, by omega⟩, by omega⟩, by omega⟩
      rw [hother c (by omega), hother _ (by omega)]
    · rw [CodePoint.toAsciiLower, if_neg hupper]
  rw [hdot]
  split
  · decide
  · rfl

/-- A full stop in lower case is a full stop, and no letter becomes one. -/
theorem toAsciiLower_eq_stop (c : CodePoint) :
    c.toAsciiLower = CodePoint.ofChar '.' ↔ c = CodePoint.ofChar '.' := by
  constructor
  · intro h
    by_cases hupper : c.isAsciiUpper = true
    · obtain ⟨hfirst, hlast, hval⟩ := CodePoint.val_of_isAsciiUpper hupper
      have hstop : (CodePoint.ofChar '.').val = 0x2E := by decide
      rw [h, hstop] at hval
      omega
    · rwa [CodePoint.toAsciiLower, if_neg hupper] at h
  · rintro rfl
    decide

/-- A name in lower case has the same labels, in lower case. No letter is a full stop, so that the cuts are in
the same places; and a label is empty in both cases or in neither. -/
theorem labels_toAsciiLower (name : Text) :
    labels name.toAsciiLower =
      (labels name).map fun found => (found.1.map Text.toAsciiLower, found.2) := by
  have hsplit : (dotted name.toAsciiLower).splitOn '.' =
      ((dotted name).splitOn '.').map Text.toAsciiLower := by
    rw [dotted_toAsciiLower]
    exact Text.splitOn_map toAsciiLower_eq_stop _
  -- lower case leaves the number of parts and their lengths alone
  have hempty (parts : List Text) : parts.map Text.toAsciiLower = [[]] ↔ parts = [[]] := by
    simp [List.map_eq_cons_iff, Text.toAsciiLower]
  have hlast (parts : List Text) :
      (parts.map Text.toAsciiLower).getLast? = some [] ↔ parts.getLast? = some [] := by
    rw [List.getLast?_map, Option.map_eq_some_iff]
    simp [Text.toAsciiLower]
  unfold labels
  simp only [← dotted.eq_def, hsplit]
  by_cases hdots : (dotted name).splitOn '.' = [[]]
  · rw [if_pos ((hempty _).2 hdots), if_pos hdots]
    rfl
  · rw [if_neg fun h => hdots ((hempty _).1 h), if_neg hdots]
    by_cases htrailing : ((dotted name).splitOn '.').getLast? = some []
    · rw [if_pos ((hlast _).2 htrailing), if_pos htrailing, ← List.map_dropLast]
      rfl
    · rw [if_neg fun h => htrailing ((hlast _).1 h), if_neg htrailing]
      rfl

/-- **A name is decoded without regard to the case of its letters**, label by label: neither where the labels
end nor what each of them stands for depends on it. -/
theorem decode_toAsciiLower (name : Text) : decode name.toAsciiLower = decode name := by
  -- each label is decoded without regard to case
  have hmapM (parts : List Text) : (parts.map Text.toAsciiLower).mapM decodeLabel = parts.mapM decodeLabel := by
    rw [List.mapM_map]
    exact congrArg (fun f => List.mapM f parts) (funext decodeLabel_toAsciiLower)
  have hmapped : mapLabels decodeLabel name.toAsciiLower = mapLabels decodeLabel name := by
    unfold mapLabels
    rw [labels_toAsciiLower, Text.toAsciiLower, List.length_map]
    cases hlabels : labels name with
    | error why => rfl
    | ok found =>
      obtain ⟨parts, trailing⟩ := found
      split
      · rfl
      · show ((parts.map Text.toAsciiLower).mapM decodeLabel >>= _) = _
        rw [hmapM]
        rfl
  unfold decode
  rw [hmapped]

end Domain

end ClusterClient
