import ClusterClient.Text.Utf8

/-!
# Percent encoding

Code points outside a kept class are written as their UTF-8 octets, each as a percent sign and two
hexadecimal digits. A class that keeps the percent sign leaves escapes that are already there alone.
-/

namespace ClusterClient.Percent

/-- Letters, digits and the four marks that never need an escape. -/
def isUnreserved (c : CodePoint) : Bool :=
  c.isAsciiLetter || c.isAsciiDigit || c = '-' || c = '.' || c = '_' || c = '~'

/-- An octet as an escape. -/
def escapeOctet (b : UInt8) : Text :=
  [CodePoint.ofChar '%', CodePoint.upperHexDigit (b.toNat / 16), CodePoint.upperHexDigit (b.toNat % 16)]

/-- A code point as the escapes of its octets. -/
def escape (c : CodePoint) : Text := c.utf8.flatMap escapeOctet

/-- A code point that is kept, or its escapes. -/
def protect (kept : CodePoint → Bool) (c : CodePoint) : Text := if kept c then [c] else escape c

/-- A text with all but the kept code points escaped. It has to have octets; the fault of one that has
none gives the position in the text. -/
def encode (kept : CodePoint → Bool) (t : Text) : Except Unencodable Text :=
  match t.encode .utf8 with
  | .ok _ => .ok (t.flatMap (protect kept))
  | .error e => .error e

/-- As `encode`, but one code point at a time: a fault is at position zero. -/
def encodeEach (kept : CodePoint → Bool) (t : Text) : Except Unencodable Text :=
  match t.find? CodePoint.isSurrogate with
  | some c => .error ⟨.utf8, 0, [c]⟩
  | none => .ok (t.flatMap (protect kept))

/-- Reads escapes onto the octets read so far, which are kept in reverse. -/
private def readOctets : Text → Octets → Octets
  | [], out => out.reverse
  | c :: rest, out =>
    if c = '%' then
      match rest with
      | a :: b :: rest' =>
        match a.hexValue?, b.hexValue? with
        | some m, some n => readOctets rest' ((m * 16 + n).toUInt8 :: out)
        | _, _ => readOctets (a :: b :: rest') (0x25 :: out)
      | rest' => readOctets rest' (0x25 :: out)
    else readOctets rest (c.utf8.reverse ++ out)

/-- The octets that a text writes. A percent sign that begins no escape stands for itself. -/
def octets (t : Text) : Octets := readOctets t []

/-- The text that a text writes. -/
def decode (t : Text) : Text := Text.ofUtf8Lossy (octets t)

/-! ## What escaping leaves behind -/

theorem isUnreserved_of_isAsciiDigit {c : CodePoint} (h : c.isAsciiDigit = true) :
    isUnreserved c = true := by
  simp [isUnreserved, h]

theorem isUnreserved_of_isAsciiLetter {c : CodePoint} (h : c.isAsciiLetter = true) :
    isUnreserved c = true := by
  simp [isUnreserved, h]

/-- Unreserved code points are printable ASCII. -/
theorem val_of_isUnreserved {c : CodePoint} (h : isUnreserved c = true) : 0x21 ≤ c.val ∧ c.val ≤ 0x7E := by
  simp only [isUnreserved, CodePoint.isAsciiLetter, CodePoint.isAsciiUpper, CodePoint.isAsciiLower,
    CodePoint.isAsciiDigit, Bool.or_eq_true, Bool.and_eq_true, decide_eq_true_eq] at h
  rcases h with (((((hupper | hlower) | hdigit) | rfl) | rfl) | rfl) | rfl
  · omega
  · omega
  · omega
  all_goals decide

/-- Code points that escapes are made of. -/
def isInEscape (c : CodePoint) : Bool :=
  c = '%' || c.isAsciiDigit || (0x41 ≤ c.val && c.val ≤ 0x46)

/-- The digits of an escape are written in capital letters. -/
theorem isInEscape_upperHexDigit {d : Nat} (h : d < 16) :
    isInEscape (CodePoint.upperHexDigit d) = true := by
  have hall : ∀ d : Fin 16, isInEscape (CodePoint.upperHexDigit d.val) = true := by decide
  exact hall ⟨d, h⟩

theorem hexValue?_upperHexDigit {d : Nat} (h : d < 16) :
    (CodePoint.upperHexDigit d).hexValue? = some d := by
  have hall : ∀ d : Fin 16, (CodePoint.upperHexDigit d.val).hexValue? = some d.val := by decide
  exact hall ⟨d, h⟩

/-- Every code point is escaped to something, as every code point has octets. -/
theorem exists_mem_escape (c : CodePoint) : ∃ d, d ∈ escape c := by
  have hutf8 : ∃ b rest, c.utf8 = b :: rest := by
    unfold CodePoint.utf8
    dsimp only
    split
    · exact ⟨_, _, rfl⟩
    · split
      · exact ⟨_, _, rfl⟩
      · split <;> exact ⟨_, _, rfl⟩
  obtain ⟨b, rest, hb⟩ := hutf8
  refine ⟨'%', List.mem_flatMap.2 ⟨b, ?_, List.mem_cons_self⟩⟩
  rw [hb]
  exact List.mem_cons_self

/-- An escape is a percent sign and two digits for each octet. -/
theorem isInEscape_of_mem_escape {c d : CodePoint} (h : c ∈ escape d) : isInEscape c = true := by
  obtain ⟨b, -, hc⟩ := List.mem_flatMap.1 h
  have hb := b.toNat_lt
  simp only [escapeOctet, List.mem_cons, List.not_mem_nil, or_false] at hc
  rcases hc with rfl | rfl | rfl
  · decide
  · exact isInEscape_upperHexDigit (by omega)
  · exact isInEscape_upperHexDigit (by omega)

/-- A code point is kept as it is, or it is escaped. -/
theorem mem_protect {kept : CodePoint → Bool} {c d : CodePoint} (h : c ∈ protect kept d) :
    kept c = true ∧ c = d ∨ isInEscape c = true := by
  unfold protect at h
  split at h
  · next hkept =>
    obtain rfl := List.mem_singleton.1 h
    exact .inl ⟨hkept, rfl⟩
  · exact .inr (isInEscape_of_mem_escape h)

/-- An escaped text consists of what is kept, if that includes what escapes are made of. -/
theorem of_mem_flatMap_protect {kept : CodePoint → Bool} {p : CodePoint → Bool}
    (hkept : ∀ c, kept c = true → p c = true) (hescape : ∀ c, isInEscape c = true → p c = true)
    {t : Text} {c : CodePoint} (h : c ∈ t.flatMap (protect kept)) : p c = true := by
  obtain ⟨d, -, hc⟩ := List.mem_flatMap.1 h
  rcases mem_protect hc with ⟨hkeptc, -⟩ | hin
  · exact hkept c hkeptc
  · exact hescape c hin

/-- What is kept altogether is left as it is. -/
theorem flatMap_protect_of_forall {kept : CodePoint → Bool} {t : Text} (h : ∀ c ∈ t, kept c = true) :
    t.flatMap (protect kept) = t := by
  induction t with
  | nil => rfl
  | cons c t ih =>
    obtain ⟨hc, ht⟩ := List.forall_mem_cons.1 h
    rw [List.flatMap_cons, ih ht, protect, if_pos hc, List.singleton_append]

/-! ## Escapes are read back -/

/-- Escaped octets are read as octets, in front of whatever follows. `out` is what has been read, the last octet
first. -/
private theorem readOctets_escapes (octets : Octets) (rest : Text) (out : Octets) :
    readOctets (octets.flatMap escapeOctet ++ rest) out = readOctets rest (octets.reverse ++ out) := by
  induction octets generalizing out with
  | nil => rfl
  | cons b octets ih =>
    have hb := b.toNat_lt
    have hoctet : (b.toNat / 16 * 16 + b.toNat % 16).toUInt8 = b := by
      rw [show b.toNat / 16 * 16 + b.toNat % 16 = b.toNat by omega]
      exact UInt8.ofNat_toNat
    rw [List.flatMap_cons, escapeOctet, List.append_assoc]
    rw [readOctets.eq_def]
    simp only [List.cons_append, List.nil_append, if_true, hexValue?_upperHexDigit (d := b.toNat / 16) (by omega),
      hexValue?_upperHexDigit (d := b.toNat % 16) (by omega), hoctet]
    rw [ih, List.reverse_cons, List.append_assoc, List.singleton_append]

/-- A code point gives its octets, whether it is kept or escaped. -/
private theorem readOctets_protect {kept : CodePoint → Bool} (hpercent : kept '%' = false) (c : CodePoint)
    (rest : Text) (out : Octets) :
    readOctets (protect kept c ++ rest) out = readOctets rest (c.utf8.reverse ++ out) := by
  unfold protect
  split
  · next hkept =>
    have hc : ¬c = '%' := by
      rintro rfl
      rw [hkept] at hpercent
      cases hpercent
    rw [List.singleton_append, readOctets.eq_def]
    simp only [if_neg hc]
  · exact readOctets_escapes c.utf8 rest out

/-- An escaped text has the octets of the text. The percent sign itself must be escaped, or it would be taken
for an escape with what follows it. -/
theorem octets_flatMap_protect {kept : CodePoint → Bool} (hpercent : kept '%' = false) (t : Text) :
    octets (t.flatMap (protect kept)) = t.flatMap CodePoint.utf8 := by
  have hread (out : Octets) :
      readOctets (t.flatMap (protect kept)) out = out.reverse ++ t.flatMap CodePoint.utf8 := by
    induction t generalizing out with
    | nil => rw [List.flatMap_nil, List.flatMap_nil, readOctets, List.append_nil]
    | cons c t ih =>
      rw [List.flatMap_cons, readOctets_protect hpercent, ih, List.reverse_append, List.reverse_reverse,
        List.append_assoc, List.flatMap_cons]
  exact hread []

/-- **Decoding undoes escaping**, if the percent sign itself is escaped. -/
theorem decode_flatMap_protect {kept : CodePoint → Bool} (hpercent : kept '%' = false) {t : Text}
    (h : ∀ c ∈ t, c.isSurrogate = false) : decode (t.flatMap (protect kept)) = t := by
  rw [decode, octets_flatMap_protect hpercent, Text.ofUtf8Lossy_utf8 h]

/-! ## What can be escaped -/

theorem encode_of_forall {kept : CodePoint → Bool} {t : Text}
    (h : ∀ c ∈ t, c.isSurrogate = false) : encode kept t = .ok (t.flatMap (protect kept)) := by
  unfold encode
  rw [@Text.encode_of_forall .utf8 _ h]

/-- A text that was escaped has no surrogates, and was escaped code point by code point. -/
theorem of_encode {kept : CodePoint → Bool} {t written : Text} (h : encode kept t = .ok written) :
    (∀ c ∈ t, c.isSurrogate = false) ∧ written = t.flatMap (protect kept) := by
  unfold encode at h
  split at h
  · next octets hoctets =>
    exact ⟨Text.of_encode hoctets, (Except.ok.inj h).symm⟩
  · cases h

/-- The same where the code points are escaped one after the other. -/
theorem encodeEach_of_forall {kept : CodePoint → Bool} {t : Text}
    (h : ∀ c ∈ t, c.isSurrogate = false) : encodeEach kept t = .ok (t.flatMap (protect kept)) := by
  have hfind : t.find? CodePoint.isSurrogate = none := by
    rw [List.find?_eq_none]
    intro c hc
    rw [h c hc]
    exact Bool.false_ne_true
  unfold encodeEach
  rw [hfind]

/-- What cannot be escaped is found in front, so nothing of the text is lost silently. -/
theorem of_encodeEach {kept : CodePoint → Bool} {t written : Text}
    (h : encodeEach kept t = .ok written) :
    (∀ c ∈ t, c.isSurrogate = false) ∧ written = t.flatMap (protect kept) := by
  unfold encodeEach at h
  split at h
  · cases h
  · next hnone =>
    refine ⟨fun c hc => ?_, (Except.ok.inj h).symm⟩
    exact Bool.eq_false_iff.2 (List.find?_eq_none.1 hnone c hc)

end ClusterClient.Percent
