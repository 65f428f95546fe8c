import ClusterClient.Proofs.Exchange.Masking

/-!
# What the header of credentials carries

The header that carries credentials is the octets of the name, a colon and the octets of the password, written in
letters. It can be read back: the letters say the octets, the octets say the text, and the first colon ends the name
if the name has none of its own.

## The architecture

* **`Base64.decode?_encode`**: octets are read back from their letters; one lemma for each length of the last group
  (`decode?_letters`, `decode?_padded`, `decode?_padded_twice`).
* **`Text.flatMap_utf8_inj`**: octets say the text that they write.
* **`Credentials.joined_inj`**: where the name ends.
* **`Credentials.headers_carry_credentials`**: what the header says, and which credentials have the same one.
-/

namespace ClusterClient

/-! ## Letters are read back -/

namespace Base64

theorem letter_ne_padding {n : Nat} (h : n < 64) : letter n ≠ CodePoint.ofChar '=' := by
  intro heq
  have hread : sixBits? (CodePoint.ofChar '=') = some n := heq ▸ sixBits?_letter h
  cases hread

variable {i j k l : Nat}

/-- Four letters are three octets. -/
theorem decode?_letters (hi : i < 64) (hj : j < 64) (hk : k < 64) (hl : l < 64) (rest : Text) :
    decode? (letter i :: letter j :: letter k :: letter l :: rest) =
      (decode? rest).map fun tail =>
        ((((i * 0x40 + j) * 0x40 + k) * 0x40 + l) / 0x10000).toUInt8 ::
          ((((i * 0x40 + j) * 0x40 + k) * 0x40 + l) / 0x100 % 0x100).toUInt8 ::
          ((((i * 0x40 + j) * 0x40 + k) * 0x40 + l) % 0x100).toUInt8 :: tail := by
  cases htail : decode? rest <;>
    simp [decode?, sixBits?_letter hi, sixBits?_letter hj, sixBits?_letter hk, sixBits?_letter hl,
      letter_ne_padding hl, htail]

/-- Three letters and padding are two octets, if no bits are left over. -/
theorem decode?_padded (hi : i < 64) (hj : j < 64) (hk : k < 64) (hspare : k % 4 = 0) :
    decode? [letter i, letter j, letter k, '='] =
      some [(((i * 0x40 + j) * 0x40 + k) / 0x400).toUInt8, (((i * 0x40 + j) * 0x40 + k) / 4 % 0x100).toUInt8] := by
  simp [decode?, sixBits?_letter hi, sixBits?_letter hj, sixBits?_letter hk, letter_ne_padding hk, hspare]

/-- Two letters and padding are one octet, if no bits are left over. -/
theorem decode?_padded_twice (hi : i < 64) (hj : j < 64) (hspare : j % 0x10 = 0) :
    decode? [letter i, letter j, '=', '='] = some [((i * 0x40 + j) / 0x10).toUInt8] := by
  simp [decode?, sixBits?_letter hi, sixBits?_letter hj, hspare]

/-- An octet is known by its number. The groups below are numbers, of which it is shown by arithmetic that they
are those of the octets. -/
theorem toUInt8_of_eq {n : Nat} {a : UInt8} (h : n = a.toNat) : n.toUInt8 = a := by
  rw [h]
  exact UInt8.ofNat_toNat

/-- **Octets are read back from their padded form.** Induction three octets at a time, as they are written; the
last group has one case for each of its lengths. -/
theorem decode?_encode (octets : Octets) : decode? (encode octets) = some octets := by
  induction octets using encode.induct with
  | case1 => rfl
  | case2 a =>
    have ha := a.toNat_lt
    rw [encode, decode?_padded_twice (by omega) (by omega) (by omega), toUInt8_of_eq (a := a) (by omega)]
  | case3 a b =>
    have ha := a.toNat_lt
    have hb := b.toNat_lt
    rw [encode, decode?_padded (by omega) (by omega) (by omega) (by omega), toUInt8_of_eq (a := a) (by omega),
      toUInt8_of_eq (a := b) (by omega)]
  | case4 a b c rest ih =>
    have ha := a.toNat_lt
    have hb := b.toNat_lt
    have hc := c.toNat_lt
    rw [encode, decode?_letters (by omega) (by omega) (by omega) (by omega), ih, Option.map_some,
      toUInt8_of_eq (a := a) (by omega), toUInt8_of_eq (a := b) (by omega), toUInt8_of_eq (a := c) (by omega)]

end Base64

/-- Octets say the text that they write. -/
theorem Text.flatMap_utf8_inj {s t : Text} (hs : ∀ c ∈ s, c.isSurrogate = false)
    (ht : ∀ c ∈ t, c.isSurrogate = false) : s.flatMap CodePoint.utf8 = t.flatMap CodePoint.utf8 ↔ s = t := by
  refine ⟨fun h => ?_, fun h => by rw [h]⟩
  have hread := Text.ofUtf8?_utf8 hs
  rw [h, Text.ofUtf8?_utf8 ht] at hread
  exact (Option.some.inj hread).symm

/-! ## Credentials -/

namespace Credentials

variable {c d : Credentials}

/-- Name and password can be written. -/
def IsWritable (c : Credentials) : Prop := ∀ p ∈ c.username ++ c.password, p.isSurrogate = false

/-- Between name and password stands a colon, which can be written as well. -/
theorem IsWritable.joined (h : c.IsWritable) : ∀ p ∈ c.joined, p.isSurrogate = false := by
  obtain ⟨hname, hpassword⟩ := List.forall_mem_append.1 h
  exact List.forall_mem_append.2 ⟨List.forall_mem_append.2 ⟨hname, List.forall_mem_singleton.2 rfl⟩, hpassword⟩

/-- The octets of name and password, with the octet of a colon between them. -/
theorem flatMap_utf8_joined (c : Credentials) :
    c.joined.flatMap CodePoint.utf8 =
      c.username.flatMap CodePoint.utf8 ++ 0x3A :: c.password.flatMap CodePoint.utf8 := by
  rw [joined, List.flatMap_append, List.flatMap_append, List.append_assoc]
  rfl

/-- The header of what can be written is the scheme and the letters of its octets. -/
theorem header_of_isWritable (h : c.IsWritable) :
    c.header = .ok ("Basic " ++ Base64.encode (c.joined.flatMap CodePoint.utf8)) := by
  have hoctets : c.joined.encode .utf8 = .ok (c.joined.flatMap CodePoint.utf8) := Text.encode_of_forall h.joined
  rw [header, hoctets]

/-- **Headers are the same exactly if the joined texts are**: letters say the octets, and octets say the text.
-/
theorem header_inj (hc : c.IsWritable) (hd : d.IsWritable) : c.header = d.header ↔ c.joined = d.joined := by
  refine ⟨fun h => ?_, fun h => by rw [header, header, h]⟩
  rw [header_of_isWritable hc, header_of_isWritable hd, Except.ok.injEq, List.append_cancel_left_eq] at h
  have hoctets := congrArg Base64.decode? h
  rw [Base64.decode?_encode, Base64.decode?_encode, Option.some.injEq] at hoctets
  exact (Text.flatMap_utf8_inj hc.joined hd.joined).1 hoctets

/-- A name without a colon ends at the first colon, whatever the password holds. -/
theorem breakAt_joined (h : CodePoint.ofChar ':' ∉ c.username) :
    c.joined.breakAt (· = CodePoint.ofChar ':') = (c.username, CodePoint.ofChar ':' :: c.password) := by
  have hname : ∀ p ∈ c.username, decide (p = CodePoint.ofChar ':') = false := by
    rintro p hp
    rw [decide_eq_false_iff_not]
    rintro rfl
    exact h hp
  rw [joined, List.append_assoc]
  exact Text.breakAt_append_of hname fun p hp => decide_eq_true (Option.some.inj hp).symm

/-- So name and password are told apart, if neither name has a colon. If one has, its first colon is taken for the end
of the name. -/
theorem joined_inj (hc : CodePoint.ofChar ':' ∉ c.username) (hd : CodePoint.ofChar ':' ∉ d.username) :
    c.joined = d.joined ↔ c.username = d.username ∧ c.password = d.password := by
  refine ⟨fun h => ?_, fun ⟨hname, hpassword⟩ => by rw [joined, joined, hname, hpassword]⟩
  have hsplit := congrArg (Text.breakAt (· = CodePoint.ofChar ':')) h
  rw [breakAt_joined hc, breakAt_joined hd] at hsplit
  exact ⟨congrArg Prod.fst hsplit, List.tail_eq_of_cons_eq (congrArg Prod.snd hsplit)⟩

/-- **The header carries name and password.** Behind the scheme stand the letters of the octets of the name, a colon
and the octets of the password. Two credentials have the same header exactly if they are the same text when joined,
which is to say the same name and the same password if neither name has a colon. -/
theorem headers_carry_credentials (c d : Credentials) (hc : c.IsWritable) (hd : d.IsWritable) :
    (∃ letters, c.header = .ok ("Basic " ++ letters) ∧
      Base64.decode? letters =
        some (c.username.flatMap CodePoint.utf8 ++ 0x3A :: c.password.flatMap CodePoint.utf8)) ∧
    (c.header = d.header ↔ c.username ++ ":" ++ c.password = d.username ++ ":" ++ d.password) ∧
    (CodePoint.ofChar ':' ∉ c.username → CodePoint.ofChar ':' ∉ d.username →
      (c.header = d.header ↔ c.username = d.username ∧ c.password = d.password)) := by
  refine ⟨⟨_, header_of_isWritable hc, ?_⟩, header_inj hc hd, fun hname hname' => ?_⟩
  · rw [Base64.decode?_encode, flatMap_utf8_joined]
  · rw [header_inj hc hd, joined_inj hname hname']

/-- A name and a password that say more than ASCII, and others with a colon in the name. -/
theorem headers_carry_credentials_beyond_ascii :
    IsWritable ⟨"root", "pä:ss"⟩ ∧ IsWritable ⟨"root:pä", "ss"⟩ ∧
      header ⟨"root", "pä:ss"⟩ = .ok "Basic cm9vdDpww6Q6c3M=" ∧
      header ⟨"root", "pä:ss"⟩ = header ⟨"root:pä", "ss"⟩ ∧
      CodePoint.ofChar ':' ∉ ("root" : Text) ∧ CodePoint.ofChar ':' ∉ ("toor" : Text) ∧
      header ⟨"root", "pä:ss"⟩ ≠ header ⟨"toor", "pä:ss"⟩ := by
  have hplain {t : Text} (h : t.all (fun p => !p.isSurrogate) = true) : ∀ p ∈ t, p.isSurrogate = false := by
    simpa using h
  have hroot : IsWritable ⟨"root", "pä:ss"⟩ := hplain (by decide)
  -- the two pairs are joined by a colon to the same text
  have hcolon : IsWritable ⟨"root:pä", "ss"⟩ := hplain (by decide)
  have htoor : IsWritable ⟨"toor", "pä:ss"⟩ := hplain (by decide)
  have hname : CodePoint.ofChar ':' ∉ ("root" : Text) := by decide
  have hname' : CodePoint.ofChar ':' ∉ ("toor" : Text) := by decide
  obtain ⟨-, hsame, -⟩ := headers_carry_credentials _ _ hroot hcolon
  obtain ⟨-, -, hother⟩ := headers_carry_credentials _ _ hroot htoor
  have hletters : ("Basic " ++ Base64.encode ((joined ⟨"root", "pä:ss"⟩).flatMap CodePoint.utf8) : Text) =
      "Basic cm9vdDpww6Q6c3M=" := by decide +kernel
  refine ⟨hroot, hcolon, ?_, hsame.2 rfl, hname, hname', fun h => ?_⟩
  · rw [header_of_isWritable hroot, hletters]
  · exact absurd ((hother hname hname').1 h).1 (by decide)

end Credentials

end ClusterClient
