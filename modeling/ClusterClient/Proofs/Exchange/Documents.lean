import ClusterClient.Exchange.RequestSpec
import ClusterClient.Proofs.Json.Printing
import ClusterClient.Proofs.Json.Settling

/-!
# Documents, as they are sent

A mapping with different names is written as an object with these names, in order. A document of texts is read from
the octets that are sent for it, by every reader that admits containers as deep as it has: half a surrogate pair is
the only thing that could be lost on the way.

## The architecture

* **`Value.AreWrittenAs`**: values by name, and what they are written as; **`Value.toJson_document`**.
* **`Json.OfTexts`**: a document of texts (`leaves_unicode`, `height_le`).
* **`RequestSpec.Sends`**: a call sends a document (**`sends_of_toJson`**, `Sends.inj`).
-/

namespace ClusterClient

/-! ## Mappings of values -/

namespace Value

/-- Values by name are written as these members, with room for so many containers. -/
abbrev AreWrittenAs (n : Nat) (values : List (Text × Value)) (members : List (Text × Json)) : Prop :=
  List.Forall₂ (fun value member => value.1 = member.1 ∧ value.2.toJson n = .ok member.2) values members

theorem AreWrittenAs.names {n : Nat} {values : List (Text × Value)} {members : List (Text × Json)}
    (h : AreWrittenAs n values members) : values.map Prod.fst = members.map Prod.fst := by
  induction h with
  | nil => rfl
  | cons hmember hrest ih => rw [List.map_cons, List.map_cons, hmember.1, ih]

/-- A value under its name, as an entry. -/
def entryOf (value : Text × Value) : Scalar × Value := (.text value.1, value.2)

/-- A name that is new is entered behind all others. -/
theorem insert_entries {values : List (Text × Value)} {name : Text} (h : name ∉ values.map Prod.fst) (value : Value) :
    Mapping.insert (.text name) value (values.map entryOf) = (values ++ [(name, value)]).map entryOf := by
  induction values with
  | nil => rfl
  | cons first rest ih =>
    rw [List.map_cons, List.mem_cons, not_or] at h
    have hkey : (Scalar.text first.1).sameKey (.text name) = false := by
      simpa [Scalar.sameKey, Scalar.asWhole?] using Ne.symm h.1
    rw [List.map_cons, entryOf, Mapping.insert, hkey, if_neg Bool.false_ne_true, ih h.2]
    rfl

/-- Different names are entered one after the other. -/
theorem foldl_insert_entries {done values : List (Text × Value)} (h : ((done ++ values).map Prod.fst).Nodup) :
    (values.map entryOf).foldl (fun m entry => Mapping.insert entry.1 entry.2 m) (done.map entryOf) =
      (done ++ values).map entryOf := by
  induction values generalizing done with
  | nil => rw [List.append_nil]; rfl
  | cons value rest ih =>
    have hnew : value.1 ∉ done.map Prod.fst := by
      rw [List.map_append] at h
      exact fun hmem => (List.nodup_append.1 h).2.2 _ hmem _ List.mem_cons_self rfl
    rw [List.append_cons] at h ⊢
    rw [List.map_cons, List.foldl_cons, entryOf, insert_entries hnew, ih h]

/-- A document with different names has its entries as they are given. -/
theorem document_eq {values : List (Text × Value)} (h : (values.map Prod.fst).Nodup) :
    document values = mapping (values.map entryOf) :=
  congrArg mapping (@foldl_insert_entries [] values h)

/-- **Values under names become an object** if each of them can be written by itself. By induction on the
values: the first one becomes the first member. -/
theorem toJsonMembers_entries {n : Nat} {values : List (Text × Value)} {members : List (Text × Json)}
    (h : AreWrittenAs n values members) : toJsonMembers n (values.map entryOf) = .ok members := by
  induction h with
  | nil => rfl
  | @cons value member values members hmember hrest ih =>
    obtain ⟨name, document⟩ := member
    obtain ⟨rfl, hvalue⟩ := hmember
    rw [List.map_cons, entryOf, toJsonMembers, hvalue, ih]
    rfl

/-- **A mapping with different names is written as an object with these names**, in order, if there is room for one
container more than its values need. -/
theorem toJson_document {n : Nat} {values : List (Text × Value)} {members : List (Text × Json)}
    (h : AreWrittenAs n values members) (hnames : (members.map Prod.fst).Nodup) :
    (document values).toJson (n + 1) = .ok (.object members) := by
  rw [← h.names] at hnames
  rw [document_eq hnames, toJson, toJsonMembers_entries h]
  rfl

/-- Texts are written as a list of them, which takes room for one container. -/
theorem toJson_texts (n : Nat) (ts : List Text) : (texts ts).toJson (n + 1) = .ok (.list (ts.map .text)) := by
  have hitems : toJsonItems n (ts.map text) = .ok (ts.map .text) := by
    induction ts with
    | nil => rfl
    | cons t rest ih =>
      rw [List.map_cons, toJsonItems, ih, text, toJson]
      rfl
  rw [texts, toJson, hitems]
  rfl

end Value

/-! ## Documents of texts -/

/-- A text of Unicode: there is no half of a surrogate pair in it. -/
def Text.IsUnicode (t : Text) : Prop := ∀ c ∈ t, c.isSurrogate = false

/-- The characters of a string are no surrogates. -/
theorem Text.isUnicode_ofString (s : String) : (Text.ofString s).IsUnicode := by
  intro c hc
  obtain ⟨char, -, rfl⟩ := List.mem_map.1 hc
  have hvalid : char.toNat < 0xD800 ∨ 0xDFFF < char.toNat ∧ char.toNat < 0x110000 := char.valid
  rw [CodePoint.isSurrogate, Bool.and_eq_false_iff, decide_eq_false_iff_not, decide_eq_false_iff_not]
  show ¬0xD800 ≤ char.toNat ∨ ¬char.toNat ≤ 0xDFFF
  omega

theorem Text.isUnicode_of_mem_map (strings : List String) : ∀ t ∈ strings.map Text.ofString, t.IsUnicode := by
  intro t ht
  obtain ⟨s, -, rfl⟩ := List.mem_map.1 ht
  exact Text.isUnicode_ofString s

namespace Json

/-- A document of texts, in containers that are not deeper than this. -/
inductive OfTexts : Nat → Json → Prop
  | text {n : Nat} {t : Text} (h : t.IsUnicode) : OfTexts n (.text t)
  | list {n : Nat} {items : List Json} (h : ∀ item ∈ items, OfTexts n item) : OfTexts (n + 1) (.list items)
  | object {n : Nat} {members : List (Text × Json)} (hnames : ∀ member ∈ members, member.1.IsUnicode)
    (hvalues : ∀ member ∈ members, OfTexts n member.2) : OfTexts (n + 1) (.object members)

/-- A list of texts is made of texts. -/
theorem OfTexts.texts {n : Nat} {ts : List Text} (h : ∀ t ∈ ts, t.IsUnicode) :
    OfTexts (n + 1) (.list (ts.map .text)) := by
  refine .list fun item hitem => ?_
  obtain ⟨t, ht, rfl⟩ := List.mem_map.1 hitem
  exact .text (h t ht)

/-- What is in a document of texts is a text, by induction on how the document is made. The names of the members
of an object count as well. -/
theorem OfTexts.leaves_unicode {n : Nat} {document : Json} (h : OfTexts n document) :
    ∀ token ∈ document.leaves, ∃ t, token = .text t ∧ t.IsUnicode := by
  induction h with
  | @text _ t ht =>
    intro token htoken
    exact ⟨t, List.mem_singleton.1 htoken, ht⟩
  | list h ih =>
    intro token htoken
    rw [leaves_list, List.mem_flatMap] at htoken
    obtain ⟨item, hitem, htoken⟩ := htoken
    exact ih item hitem token htoken
  | object hnames hvalues ih =>
    intro token htoken
    obtain ⟨member, hmember, rfl | htoken⟩ := mem_leaves_object.1 htoken
    · exact ⟨member.1, rfl, hnames member hmember⟩
    · exact ih member hmember token htoken

/-- A list is one level higher than the highest of its items at most. -/
theorem heightOfItems_le {n : Nat} {items : List Json} (h : ∀ item ∈ items, item.height ≤ n) :
    heightOfItems items ≤ n + 1 := by
  induction items with
  | nil => exact Nat.zero_le _
  | cons item rest ih =>
    obtain ⟨hitem, hrest⟩ := List.forall_mem_cons.1 h
    exact Nat.max_le.2 ⟨Nat.succ_le_succ hitem, ih hrest⟩

theorem heightOfMembers_le {n : Nat} {members : List (Text × Json)} (h : ∀ member ∈ members, member.2.height ≤ n) :
    heightOfMembers members ≤ n + 1 := by
  induction members with
  | nil => exact Nat.zero_le _
  | cons member rest ih =>
    obtain ⟨hmember, hrest⟩ := List.forall_mem_cons.1 h
    exact Nat.max_le.2 ⟨Nat.succ_le_succ hmember, ih hrest⟩

/-- A document that is made of texts by so many levels is no higher than these. By induction on the levels. -/
theorem OfTexts.height_le {n : Nat} {document : Json} (h : OfTexts n document) : document.height ≤ n := by
  induction h with
  | text => exact Nat.zero_le _
  | list h ih => exact heightOfItems_le ih
  | object hnames hvalues ih => exact heightOfMembers_le ih

/-- What is printed of a document of texts spells it, in every layout and dialect. -/
theorem OfTexts.spells_printed {n : Nat} {document : Json} (h : OfTexts n document) (dialect : Dialect)
    (layout : Layout) : ∀ token ∈ document.leaves, Token.Spells dialect token (token.printed layout) := by
  intro token htoken
  obtain ⟨t, rfl, ht⟩ := h.leaves_unicode token htoken
  exact Token.spells_text (.inr ht) fun _ => ht

end Json

/-! ## Bodies -/

namespace RequestSpec

open Json

/-- A call sends this document: every reader of texts that admits containers that deep reads it. -/
def Sends (room : Room) (spec : RequestSpec) (n : Nat) (document : Json) : Prop :=
  ∃ octets headers t, spec.body room = .ok ⟨some octets, headers⟩ ∧ Text.ofUtf8? octets = some t ∧
    ∀ dialect : Dialect, dialect.Admits n → read? dialect t = some document

/-- **A document of texts is sent as it is**, if there is room to write it. -/
theorem sends_of_toJson {room : Room} {spec : RequestSpec} {value : Value} {n : Nat} {document : Json}
    (hform : spec.form = none) (hvalue : spec.document = some value)
    (hwritten : value.toJson room.sent = .ok document) (h : OfTexts n document) : spec.Sends room n document := by
  have hbody : spec.body room =
      .ok ⟨some (asciiOctets (document.toText .compact)), [(contentType, "application/json")]⟩ := by
    rw [body, hform, hvalue]
    dsimp only
    rw [hwritten]
  refine ⟨_, _, document.toText .compact, hbody, ?_, fun dialect hdepth => ?_⟩
  · -- no half of a pair is printed, so the octets are those of the text
    have hlexes := lexes_write document 0 (h.spells_printed .strict .compact)
    exact Text.ofUtf8?_utf8 (isSurrogate_of_lexes rfl hlexes)
  · exact read?_toText (h.spells_printed dialect .compact) (hdepth.mono h.height_le)

/-- Two calls that send the same octets send the same document, wherever they are made. -/
theorem Sends.inj {room room' : Room} {spec spec' : RequestSpec} {n : Nat} {document document' : Json}
    (h : spec.Sends room n document) (h' : spec'.Sends room' n document') {content : Option Octets}
    {headers headers' : Headers} (hbody : spec.body room = .ok ⟨content, headers⟩)
    (hbody' : spec'.body room' = .ok ⟨content, headers'⟩) : document = document' := by
  obtain ⟨octets, _, t, hsent, ht, hread⟩ := h
  obtain ⟨octets', _, t', hsent', ht', hread'⟩ := h'
  obtain ⟨rfl, -⟩ := Body.mk.inj (Except.ok.inj (hsent.symm.trans hbody))
  obtain ⟨hoctets, -⟩ := Body.mk.inj (Except.ok.inj (hsent'.symm.trans hbody'))
  obtain rfl := Option.some.inj hoctets
  obtain rfl := Option.some.inj (ht.symm.trans ht')
  have hlenient : Dialect.lenient.Admits n := fun limit hlimit => nomatch hlimit
  exact Option.some.inj ((hread .lenient hlenient).symm.trans (hread' .lenient hlenient))

end RequestSpec

end ClusterClient
