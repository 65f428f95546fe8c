import ClusterClient.Payload.Schema

/-!
# How a refusal is worded

A body is a refusal of the cluster if it is a document with the fields of one. Blanks alone are no document,
whatever is to be read from it.

## The architecture

* **`Checked.seq_eq_ok`**, **`Reading.required_eq_ok`**, **`Reading.optional_eq_ok`**: a payload is read
  exactly if all its parts are; one lemma for each way of combining them.
* **`Refusal.Words`**: which members of an object make up a refusal (`Refusal.ofJson_object_eq_ok`).
* **`Refusal.decode_eq_ok`**: which octets do, and **`Reading.decode_of_blank`**: blank ones never do.
-/

namespace ClusterClient

/-! ## Parts of a payload -/

namespace Checked

variable {α β : Type}

/-- What is made of a part is read exactly if the part is. -/
theorem map_eq_ok {f : α → β} {x : Checked α} {b : β} : f <$> x = ok b ↔ ∃ a, x = ok a ∧ f a = b := by
  cases x with
  | ok a =>
    show ok (f a) = ok b ↔ _
    simp
  | refused issues =>
    show refused issues = ok b ↔ _
    simp

theorem seq_eq_ok {f : Checked (α → β)} {x : Checked α} {b : β} :
    f <*> x = ok b ↔ ∃ g a, f = ok g ∧ x = ok a ∧ g a = b := ap_eq_ok

end Checked

/-- The value of a field, under whichever of its names it is found. -/
def Reading.FieldName.value? (field : Reading.FieldName) (members : List (Text × Json)) : Option Json :=
  (field.find? members).map Prod.snd

namespace Reading

variable {α : Type} {members : List (Text × Json)} {field : FieldName} {read : Reading α} {a : α}

/-- A field that must be there is read from its value, under whichever of its names it is found. -/
theorem required_eq_ok :
    required members field read = .ok a ↔ ∃ json, field.value? members = some json ∧ read json = .ok a := by
  unfold required FieldName.value?
  cases hfound : field.find? members with
  | none => simp
  | some found =>
    show (read found.2).within _ = .ok a ↔ _
    rw [Checked.within_eq_ok]
    simp

/-- A field that may be absent is read from its value, or has its default. -/
theorem optional_eq_ok {default : α} :
    optional members field default read = .ok a ↔
      (field.value? members = none ∧ default = a) ∨
        ∃ json, field.value? members = some json ∧ read json = .ok a := by
  unfold optional FieldName.value?
  cases hfound : field.find? members with
  | none => simp
  | some found =>
    show (read found.2).within _ = .ok a ↔ _
    rw [Checked.within_eq_ok]
    simp

/-- A text is read from a text alone. -/
theorem text_eq_ok {json : Json} {t : Text} : text json = .ok t ↔ json = .text t := by
  cases json with
  | text s =>
    show Checked.ok s = .ok t ↔ _
    simp
  | _ => exact ⟨nofun, nofun⟩

/-- Null is read as none, and anything else as it is. -/
theorem nullable_eq_ok {json : Json} {found : Option α} :
    nullable read json = .ok found ↔
      (json = .null ∧ found = none) ∨ (json ≠ .null ∧ ∃ a, read json = .ok a ∧ found = some a) := by
  cases json with
  | null =>
    show Checked.ok none = .ok found ↔ _
    simp [eq_comm]
  | _ =>
    show some <$> read _ = .ok found ↔ _
    rw [Checked.map_eq_ok]
    simp [eq_comm]

end Reading

/-! ## The fields of a refusal -/

open Reading

/-- The members of an object make up a refusal: its message is a text and its code a whole number; the cause
may be null or absent, and an absent index is zero. -/
structure Refusal.Words (members : List (Text × Json)) (refusal : Refusal) : Prop where
  cause : (FieldName.value? "cause" members = none ∨ FieldName.value? "cause" members = some .null) ∧
      refusal.cause = none ∨
    ∃ t, FieldName.value? "cause" members = some (.text t) ∧ refusal.cause = some t
  code : ∃ json, FieldName.value? ⟨"errorCode", "error_code"⟩ members = some json ∧ whole json = .ok refusal.code
  index : FieldName.value? "index" members = none ∧ refusal.index = 0 ∨
    ∃ json, FieldName.value? "index" members = some json ∧ whole json = .ok refusal.index
  message : FieldName.value? "message" members = some (.text refusal.message)

/-- The cause of a refusal is a text, null, or absent, where null and absence come to the same. Anything else in
its place is an issue, and then there is no refusal at all. -/
theorem cause_eq_ok {members : List (Text × Json)} {cause : Option Text} :
    optional members "cause" none (nullable text) = .ok cause ↔
      (FieldName.value? "cause" members = none ∨ FieldName.value? "cause" members = some .null) ∧ cause = none ∨
        ∃ t, FieldName.value? "cause" members = some (.text t) ∧ cause = some t := by
  rw [optional_eq_ok]
  constructor
  · rintro (⟨hnone, rfl⟩ | ⟨json, hjson, hread⟩)
    · exact .inl ⟨.inl hnone, rfl⟩
    · rcases nullable_eq_ok.1 hread with ⟨rfl, rfl⟩ | ⟨-, t, htext, rfl⟩
      · exact .inl ⟨.inr hjson, rfl⟩
      · obtain rfl := text_eq_ok.1 htext
        exact .inr ⟨t, hjson, rfl⟩
  · rintro (⟨hnone | hnull, rfl⟩ | ⟨t, htext, rfl⟩)
    · exact .inl ⟨hnone, rfl⟩
    · exact .inr ⟨.null, hnull, rfl⟩
    · exact .inr ⟨.text t, htext, rfl⟩

/-- **An object is a refusal exactly if its members make up one**, field by field in the order of the record.
The fields are read independently, so that each of them says its own about the members. -/
theorem Refusal.ofJson_object_eq_ok {members : List (Text × Json)} {refusal : Refusal} :
    Refusal.ofJson (.object members) = .ok refusal ↔ refusal.Words members := by
  show Refusal.mk <$> optional members "cause" none (nullable text) <*> required members _ whole <*>
    optional members "index" 0 whole <*> required members "message" text = .ok refusal ↔ _
  simp only [Checked.seq_eq_ok, Checked.map_eq_ok]
  constructor
  · rintro ⟨_, message, ⟨_, index, ⟨_, code, ⟨cause, hcause, rfl⟩, hcode, rfl⟩, hindex, rfl⟩, hmessage, rfl⟩
    obtain ⟨json, hjson, hread⟩ := required_eq_ok.1 hmessage
    obtain rfl := text_eq_ok.1 hread
    exact ⟨cause_eq_ok.1 hcause, required_eq_ok.1 hcode, (optional_eq_ok.1 hindex).imp_left fun h => ⟨h.1, h.2.symm⟩,
      hjson⟩
  · intro h
    have hindex := optional_eq_ok.2 (h.index.imp_left fun h => ⟨h.1, h.2.symm⟩)
    have hmessage := required_eq_ok.2 ⟨_, h.message, text_eq_ok.2 rfl⟩
    exact ⟨_, _, ⟨_, _, ⟨_, _, ⟨_, cause_eq_ok.2 h.cause, rfl⟩, required_eq_ok.2 h.code, rfl⟩, hindex, rfl⟩,
      hmessage, rfl⟩

/-- The octets are a document that makes up a refusal. -/
def Refusal.IsWordedIn (refusal : Refusal) (body : Octets) : Prop :=
  ∃ t members, Text.ofUtf8? body = some t ∧ Json.read? .strict t = some (.object members) ∧ refusal.Words members

/-- **A refusal is read exactly from the octets that word it:** they are a text, the text is an object, and its
members make up the refusal. -/
theorem Refusal.decode_eq_ok {body : Octets} {refusal : Refusal} :
    Reading.decode Refusal.ofJson body = .ok refusal ↔ refusal.IsWordedIn body := by
  unfold Reading.decode
  constructor
  · intro h
    split at h
    · next json hjson =>
      obtain ⟨t, ht, hread⟩ := Option.bind_eq_some_iff.1 hjson
      cases json with
      | object members => exact ⟨t, members, ht, hread, ofJson_object_eq_ok.1 h⟩
      | _ => cases h
    · cases h
  · rintro ⟨t, members, ht, hread, hwords⟩
    rw [ht, Option.bind_some, hread]
    exact ofJson_object_eq_ok.2 hwords

/-! ## Blanks -/

namespace Json

/-- Between tokens, a blank is passed over or fits nowhere: tabs, line ends and spaces are passed over, the two
other blanks of ASCII are not. -/
theorem Token.fromGap?_of_isAsciiBlank {c : CodePoint} (h : c.isAsciiBlank = true) (tokens : List Token) :
    fromGap? c tokens = some (.between, tokens) ∨ fromGap? c tokens = none := by
  have hblank : c ∈ [(0x09 : CodePoint), 0x0A, 0x0B, 0x0C, 0x0D, 0x20] := by
    simp only [CodePoint.isAsciiBlank, Bool.or_eq_true, Bool.and_eq_true, decide_eq_true_eq, beq_iff_eq] at h
    simp only [List.mem_cons, List.not_mem_nil, or_false, Fin.ext_iff]
    show c.val = 0x09 ∨ c.val = 0x0A ∨ c.val = 0x0B ∨ c.val = 0x0C ∨ c.val = 0x0D ∨ c.val = 0x20
    omega
  simp only [List.mem_cons, List.not_mem_nil, or_false] at hblank
  rcases hblank with rfl | rfl | rfl | rfl | rfl | rfl
  · exact .inl rfl
  · exact .inl rfl
  · exact .inr rfl
  · exact .inr rfl
  · exact .inl rfl
  · exact .inl rfl

/-- A scan of blanks finds no token, if it comes to its end at all. -/
theorem Token.scanFrom?_of_blank {dialect : Dialect} {t : Text} (h : ∀ c ∈ t, c.isAsciiBlank = true)
    {tokens : List Token} (hscan : scanFrom? dialect t .between [] = some tokens) : tokens = [] := by
  induction t with
  | nil => exact (Option.some.inj hscan).symm
  | cons c rest ih =>
    obtain ⟨hc, hrest⟩ := List.forall_mem_cons.1 h
    unfold scanFrom? step? at hscan
    rcases fromGap?_of_isAsciiBlank hc [] with hpassed | hrefused
    · rw [hpassed] at hscan
      exact ih hrest hscan
    · rw [hrefused] at hscan
      cases hscan

/-- **Blanks are no document.** -/
theorem read?_of_blank (dialect : Dialect) {t : Text} (h : ∀ c ∈ t, c.isAsciiBlank = true) :
    read? dialect t = none := by
  unfold read?
  cases hscan : Token.scan? dialect t with
  | none => rfl
  | some tokens =>
    obtain rfl := Token.scanFrom?_of_blank h hscan
    rfl

end Json

theorem CodePoint.val_ofNat_toNat (b : UInt8) : (CodePoint.ofNat b.toNat).val = b.toNat :=
  CodePoint.val_ofNat (Nat.lt_trans b.toNat_lt (by decide))

/-- ASCII octets write the code points of their numbers. Writing these gives the octets back, which is how the
reader is known to read them. -/
theorem Text.ofUtf8?_of_ascii {octets : Octets} (h : ∀ b ∈ octets, b.toNat < 0x80) :
    Text.ofUtf8? octets = some (octets.map fun b => CodePoint.ofNat b.toNat) := by
  have hoctets : (octets.map fun b => CodePoint.ofNat b.toNat).flatMap CodePoint.utf8 = octets := by
    induction octets with
    | nil => rfl
    | cons b rest ih =>
      obtain ⟨hb, hrest⟩ := List.forall_mem_cons.1 h
      have hback : b.toNat.toUInt8 = b := UInt8.ofNat_toNat
      have hval := CodePoint.val_ofNat_toNat b
      rw [List.map_cons, List.flatMap_cons, CodePoint.utf8_of_ascii (by rw [hval]; exact hb), hval, hback, ih hrest,
        List.singleton_append]
  have hplain : ∀ c ∈ octets.map fun b => CodePoint.ofNat b.toNat, c.isSurrogate = false := by
    intro c hc
    obtain ⟨b, hb, rfl⟩ := List.mem_map.1 hc
    have hb := h b hb
    simp only [CodePoint.isSurrogate, Bool.and_eq_false_iff, decide_eq_false_iff_not, CodePoint.val_ofNat_toNat]
    omega
  have hread := Text.ofUtf8?_utf8 hplain
  rwa [hoctets] at hread

/-- **From blank octets nothing is read**, whatever is expected. They are a text of blanks, in which there is no
document. -/
theorem Reading.decode_of_blank {α : Type} (read : Reading α) {body : Octets}
    (h : ∀ b ∈ body, (0x09 ≤ b.toNat ∧ b.toNat ≤ 0x0D) ∨ b.toNat = 0x20) : read.decode body = .fail .notJson := by
  have hascii : ∀ b ∈ body, b.toNat < 0x80 := by
    intro b hb
    have hb := h b hb
    omega
  have hblank : ∀ c ∈ body.map fun b => CodePoint.ofNat b.toNat, c.isAsciiBlank = true := by
    intro c hc
    obtain ⟨b, hb, rfl⟩ := List.mem_map.1 hc
    simp only [CodePoint.isAsciiBlank, CodePoint.val_ofNat_toNat, Bool.or_eq_true, Bool.and_eq_true,
      decide_eq_true_eq, beq_iff_eq]
    exact h b hb
  unfold Reading.decode
  rw [Text.ofUtf8?_of_ascii hascii, Option.bind_some, Json.read?_of_blank .strict hblank]

end ClusterClient
